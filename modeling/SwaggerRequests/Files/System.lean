import SwaggerRequests.Files.Path

/-!
# Files

The class `Files` has the three operations that the program needs of a file system: to read a file,
to make a directory with those above it, and to write a file. The program is written over any monad
of this class, so it runs in `IO` and in `FileState`, the state monad over the value `FileSystem`,
about which the theorems are.

A `FileSystem` is a list of entities by their `Place`, the list of names on the way from the root.
`Place.step` follows one name, where `.` stays and `..` goes up, and `FileSystem.walk` follows
several and checks that everything on the way is a directory. `FileSystem.find` looks up a path,
`FileSystem.placeFor` the directory in which an entity is made. On these are built
`FileSystem.read`, `FileSystem.write`, `FileSystem.makeDirectory` and `FileSystem.makeDirectories`,
with the errors the system gives (`SystemError`).

The working directory `Place.home` lies under the root and has the empty name, which is not a name
of any path. So only a path that starts there leads into it.
-/

namespace SwaggerRequests

/-- Why the system refuses an operation. -/
inductive SystemError where
  | notFound
  | exists
  | notDirectory
  | isDirectory
  /-- a name or a path has too many octets -/
  | tooLong
  /-- a path has the character zero, with which the system ends its paths -/
  | zeroInPath
  /-- another refusal, in the words of the system -/
  | other (words : String)
  deriving DecidableEq, Repr

/-- The words of the system for the error. -/
def SystemError.message : SystemError → String
  | .notFound => "No such file or directory (os error 2)"
  | .exists => "File exists (os error 17)"
  | .notDirectory => "Not a directory (os error 20)"
  | .isDirectory => "Is a directory (os error 21)"
  | .tooLong => "File name too long (os error 36)"
  | .zeroInPath => "file name contained an unexpected NUL byte"
  | .other words => words

/-- Why `Files.read` fails. -/
inductive ReadError where
  /-- the file cannot be opened -/
  | opening (e : SystemError)
  /-- what was opened has no content -/
  | reading (e : SystemError)
  deriving DecidableEq, Repr

/-- A monad in which files can be read and written. -/
class Files (m : Type → Type) where
  /-- the content of the file at a path, or a `ReadError` -/
  read : String → m (Except ReadError ByteArray)
  /-- makes the directory at a path and those above it that are missing -/
  makeDirectories : String → m (Except SystemError Unit)
  /-- makes the file at a path with a content, or replaces its content -/
  write : String → ByteArray → m (Except SystemError Unit)

/-! ## A file system as a value -/

/-- The names on the way from the root. The root is the empty list. -/
abbrev Place := List String

namespace Place

/-- The working directory. Its name is empty, so no path leads to it by its name. -/
def home : Place := [""]

/-- The place where a path starts: the root or `home`. -/
def startOf (path : String) : Place := if Path.startsAtRoot path then [] else home

/-- The place to which `name` leads from `p`. The name `.` stays, and `..` goes to the directory
above, which for the root is the root. -/
def step (p : Place) (name : String) : Place :=
  if name = "." then p else if name = ".." then p.dropLast else p ++ [name]

/-- The names on the way from `home` to a place below it, and `none` for any other place. -/
def fromHome? : Place → Option (List String)
  | "" :: name :: names => some (name :: names)
  | _ => none

end Place

/-- What can be at a place. -/
inductive Entity where
  | directory
  | file (content : ByteArray)

/-- A file system as a value. -/
structure FileSystem where
  /-- the entities by their places, without the root and the working directory -/
  entries : List (Place × Entity)

namespace FileSystem

/-- The file system with an empty working directory. Outside of it there are `/tmp` and the null
device, which reads as an empty file. -/
def fresh : FileSystem :=
  ⟨[(["tmp"], .directory), (["dev"], .directory), (["dev", "null"], .file .empty)]⟩

/-- The entity at `p`. The root and `Place.home` are always directories. -/
def at? (fs : FileSystem) (p : Place) : Option Entity :=
  if p = [] ∨ p = Place.home then some .directory else fs.entries.lookup p

/-- The file system in which `e` is at `p`, in place of what was there. -/
def put (fs : FileSystem) (p : Place) (e : Entity) : FileSystem :=
  ⟨(p, e) :: fs.entries.filter (·.1 != p)⟩

/-- The place `p` is a directory, so further names can be followed from it. -/
def requireDirectory (fs : FileSystem) (p : Place) : Except SystemError Unit :=
  match fs.at? p with
  | none => .error .notFound
  | some (.file _) => .error .notDirectory
  | some .directory => .ok ()

/-- The greatest number of octets of a name. -/
def maxName : Nat := 255

/-- The greatest number of octets of a path. -/
def maxPath : Nat := 4095

/-- The name has at most `maxName` octets. -/
def requireName (name : String) : Except SystemError Unit :=
  if maxName < name.utf8ByteSize then .error .tooLong else .ok ()

/-- The conditions on a path that are checked before any of its names is looked up: it has no
character zero, is not empty and has at most `maxPath` octets. -/
def requirePath (path : String) : Except SystemError Unit :=
  if path.toList.contains '\x00' then .error .zeroInPath
  else if path.isEmpty then .error .notFound
  else if maxPath < path.utf8ByteSize then .error .tooLong
  else .ok ()

/-- The place to which the names lead from `p`. Every place that a name is followed from has to be a
directory. -/
def walk (fs : FileSystem) : Place → List String → Except SystemError Place
  | p, [] => .ok p
  | p, name :: names => do
    fs.requireDirectory p
    requireName name
    walk fs (p.step name) names

/-- The entity at `path`. A path that ends with a slash does not lead to a file. -/
def find (fs : FileSystem) (path : String) : Except SystemError Entity := do
  requirePath path
  match fs.at? (← fs.walk (Place.startOf path) (Path.names path)) with
  | none => .error .notFound
  | some (.file content) =>
    if Path.endsWithSlash path then .error .notDirectory else .ok (.file content)
  | some .directory => .ok .directory

/-- The place of the directory in which `path` names an entity, with the name, or with `none` if the
path ends in `.`, `..` or nothing and so names the directory itself. -/
def placeFor (fs : FileSystem) (path : String) : Except SystemError (Place × Option String) := do
  requirePath path
  let names := Path.names path
  let p ← fs.walk (Place.startOf path) names.dropLast
  fs.requireDirectory p
  match names.getLast? with
  | none | some "." | some ".." => .ok (p, none)
  | some name => .ok (p, some name)

/-- The content of the file at `path`. -/
def read (fs : FileSystem) (path : String) : Except ReadError ByteArray :=
  match fs.find path with
  | .error e => .error (.opening e)
  | .ok .directory => .error (.reading .isDirectory)
  | .ok (.file content) => .ok content

/-- Makes the directory at `path`, in a directory that exists. -/
def makeDirectory (fs : FileSystem) (path : String) : Except SystemError FileSystem := do
  match ← fs.placeFor path with
  | (_, none) => .error .exists
  | (p, some name) => do
    requireName name
    match fs.at? (p.step name) with
    | some _ => .error .exists
    | none => .ok (fs.put (p.step name) .directory)

/-- The path leads to a directory. -/
def isDirectory (fs : FileSystem) (path : String) : Bool :=
  match fs.find path with
  | .ok .directory => true
  | _ => false

/-- Makes the directory at `path`, and the parents of the path first if it is `SystemError.notFound`
without them. A directory that exists already is no error, and a directory that was made stays when
a later one cannot be made. `steps` bounds the number of parents: `Path.length_parent?_lt` shows
that each is shorter than its path. -/
def makeDirectoriesWithin (fs : FileSystem) :
    (steps : Nat) → String → Except SystemError Unit × FileSystem
  | 0, _ => (.error .notFound, fs)
  | steps + 1, path =>
    if path.isEmpty then (.ok (), fs) else
      match fs.makeDirectory path with
      | .ok fs => (.ok (), fs)
      | .error .notFound =>
        match Path.parent? path with
        | none => (.error .notFound, fs)
        | some parent =>
          match fs.makeDirectoriesWithin steps parent with
          | (.error e, fs) => (.error e, fs)
          | (.ok (), fs) =>
            match fs.makeDirectory path with
            | .ok fs => (.ok (), fs)
            | .error e => (if fs.isDirectory path then .ok () else .error e, fs)
      | .error e => (if fs.isDirectory path then .ok () else .error e, fs)

/-- Makes the directory at `path` and those above it that are missing. The length of the path bounds
the steps of `makeDirectoriesWithin`. -/
def makeDirectories (fs : FileSystem) (path : String) : Except SystemError Unit × FileSystem :=
  fs.makeDirectoriesWithin (path.length + 1) path

/-- Makes the file at `path` with the given content, or replaces its content. A path that ends with
a slash is refused, whatever is there. -/
def write (fs : FileSystem) (path : String) (content : ByteArray) :
    Except SystemError FileSystem := do
  match ← fs.placeFor path with
  | (_, none) => .error .isDirectory
  | (p, some name) => do
    if Path.endsWithSlash path then .error .isDirectory
    requireName name
    match fs.at? (p.step name) with
    | some .directory => .error .isDirectory
    | _ => .ok (fs.put (p.step name) (.file content))

end FileSystem

/-- Computations that read and change a `FileSystem`. -/
abbrev FileState := StateM FileSystem

instance : Files FileState where
  read path := do return (← get).read path
  makeDirectories path := modifyGet (·.makeDirectories path)
  write path content := modifyGet fun fs =>
    match fs.write path content with
    | .ok fs => (.ok (), fs)
    | .error e => (.error e, fs)

end SwaggerRequests
