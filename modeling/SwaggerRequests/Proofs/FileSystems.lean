import SwaggerRequests.Proofs.Outcome
import SwaggerRequests.Proofs.Paths

/-!
# One step on a file system

The operations of `FileSystem` on one path, each with the condition for its success and the file
system it leaves.

Every operation walks along the names of the path and needs a directory at each place on the way.
What it changes is one place: `makeDirectory` puts a directory where nothing was, and `write` a file
where no directory was. Both therefore keep all directories, and by `walk_mono` every path that
could be walked before can be walked after.

The module has three predicates, from which the statements about whole computations are composed:

* `Grows P fs fs'`: directories were made at some places with the property `P`, and everything else
  is the same. It is a preorder, and holds of `makeDirectory` (`makeDirectory_grows`).
* `Opens fs path p name`: the path leads to the directory `p` and then has its last name `name`. All
  that `placeFor` checks is in this structure (`placeFor_eq_ok_iff`).
* `Stores path content fs fs'`: the file is stored, and reading the path gives its content. A
  successful `write` satisfies it (`Stores.of_write`), also after directories were made
  (`Stores.of_grows`).
-/

namespace SwaggerRequests.FileSystem

variable {fs fs' made : FileSystem} {p q : Place} {name path : String} {names : List String}
  {content : ByteArray}

/-! ## What is at a place

`put` at a place below the working directory or the root changes `at?` at this place only. -/

/-- The entries of `fs.put p e` are those of `fs`, with `e` at `p`. `put` replaces the entries of
`p` only. -/
theorem lookup_put (fs : FileSystem) (e : Entity) (p q : Place) :
    (fs.put p e).entries.lookup q = if q = p then some e else fs.entries.lookup q := by
  obtain ⟨entries⟩ := fs
  change ((p, e) :: entries.filter (·.1 != p)).lookup q = _
  rcases eq_or_ne q p with rfl | hq
  · rw [List.lookup_cons_self, if_pos rfl]
  · rw [List.lookup_cons, beq_false_of_ne hq, if_neg hq]
    change (entries.filter (·.1 != p)).lookup q = entries.lookup q
    induction entries with
    | nil => rfl
    | cons entry entries ih =>
      rw [List.filter_cons, List.lookup_cons]
      split
      · rw [List.lookup_cons, ih]
      · rename_i hentry
        have hp : entry.1 = p := by simpa using hentry
        rw [ih, hp, beq_false_of_ne hq]

/-- After `put` at `p ++ [name]`, `at?` finds `e` there, and at every other place what `fs` has.
Since `name` is not empty, `p ++ [name]` is neither the root nor `Place.home`. -/
theorem at?_put (fs : FileSystem) (e : Entity) (p q : Place) (hname : name ≠ "") :
    (fs.put (p ++ [name]) e).at? q = if q = p ++ [name] then some e else fs.at? q := by
  -- `fs.put` at `p ++ [name]` is not at the root or at `home`, which have fixed entities
  have hroot : p ++ [name] ≠ [] := by simp
  have hhome : p ++ [name] ≠ Place.home := by
    intro h
    have hlast := congrArg List.getLast? h
    rw [List.getLast?_concat] at hlast
    exact hname (Option.some.inj hlast)
  rw [at?, at?, lookup_put]
  rcases eq_or_ne q (p ++ [name]) with rfl | hq
  · rw [if_neg (not_or.mpr ⟨hroot, hhome⟩), if_pos rfl, if_pos rfl]
  · rw [if_neg hq, if_neg hq]

/-- A path starts at a directory: `Place.startOf` is the root or `Place.home`. -/
theorem at?_startOf (fs : FileSystem) (path : String) :
    fs.at? (Place.startOf path) = some .directory := by
  rw [at?, if_pos]
  rw [Place.startOf]
  split
  · exact Or.inl rfl
  · exact Or.inr rfl

/-! ## Growing

`KeptOrMade` is what `Grows` says about a single place. It has the lemmas of a preorder, and a place
with an entity keeps it. -/

/-- At a place the entity `after` is the entity `before`, or a directory was made where nothing was.
The second is possible only if `P` holds, the condition on the place. -/
def KeptOrMade (P : Prop) (before after : Option Entity) : Prop :=
  after = before ∨ P ∧ before = none ∧ after = some .directory

namespace KeptOrMade

variable {P Q : Prop} {before after last : Option Entity} {e : Entity}

theorem imp (h : KeptOrMade P before after) (himp : P → Q) : KeptOrMade Q before after :=
  Or.imp_right (fun ⟨hp, hmade⟩ => ⟨himp hp, hmade⟩) h

theorem trans (h : KeptOrMade P before after) (h' : KeptOrMade P after last) :
    KeptOrMade P before last := by
  rcases h' with rfl | ⟨hp, hnone, hmade⟩
  · exact h
  · rcases h with rfl | ⟨-, -, hmade'⟩
    · exact Or.inr ⟨hp, hnone, hmade⟩
    · rw [hmade'] at hnone
      cases hnone

theorem eq_some (h : KeptOrMade P (some e) after) : after = some e := by
  rcases h with h | ⟨-, hnone, -⟩
  · exact h
  · cases hnone

/-- A file in `after` is not new. -/
theorem eq_some_file (h : KeptOrMade P before (some (.file content))) :
    before = some (.file content) := by
  rcases h with h | ⟨-, -, hmade⟩
  · exact h.symm
  · cases hmade

end KeptOrMade

/-- From `fs` to `fs'` directories were made at places with the property `P`, and nothing else
changed. -/
def Grows (P : Place → Prop) (fs fs' : FileSystem) : Prop :=
  ∀ p, KeptOrMade (P p) (fs.at? p) (fs'.at? p)

namespace Grows

variable {P Q : Place → Prop}

theorem refl (P : Place → Prop) (fs : FileSystem) : Grows P fs fs := fun _ => Or.inl rfl

theorem imp (h : Grows P fs fs') (himp : ∀ p, P p → Q p) : Grows Q fs fs' :=
  fun p => (h p).imp (himp p)

theorem trans (h : Grows P fs made) (h' : Grows P made fs') : Grows P fs fs' :=
  fun p => (h p).trans (h' p)

/-- If `fs` grows to `fs'`, an entity at `p` is still there. -/
theorem at?_eq_some (h : Grows P fs fs') {e : Entity} (hp : fs.at? p = some e) :
    fs'.at? p = some e := by
  have hkept := h p
  rw [hp] at hkept
  exact hkept.eq_some

/-- If `fs` grows to `fs'`, both have the same files with the same `content`. Only directories are
new, and no entity is replaced. -/
theorem file_iff (h : Grows P fs fs') :
    fs'.at? p = some (.file content) ↔ fs.at? p = some (.file content) := by
  refine ⟨fun hp => ?_, h.at?_eq_some⟩
  have hkept := h p
  rw [hp] at hkept
  exact hkept.eq_some_file

end Grows

/-! ## Walks

A walk returns the place that `Place.follow` computes from the names alone, provided that there is a
directory at each place on the way. -/

theorem requireDirectory_eq_ok_iff :
    fs.requireDirectory p = .ok () ↔ fs.at? p = some .directory := by
  rw [requireDirectory]
  split
  · rename_i h
    simp [h]
  · rename_i h
    simp [h]
  · rename_i h
    simp [h]

/-- If `walk` succeeds, it returns `p.follow names`. -/
theorem walk_eq_ok (h : fs.walk p names = .ok q) : q = p.follow names := by
  induction names generalizing p with
  | nil => exact (Except.ok.inj h).symm
  | cons name names ih =>
    obtain ⟨-, -, h⟩ := bind_eq_ok_iff.mp h
    obtain ⟨-, -, h⟩ := bind_eq_ok_iff.mp h
    exact ih h

/-- If `fs'` has all directories of `fs`, a `walk` that succeeds in `fs` succeeds in `fs'` with the
same end. This is used for `fs'` after `put`, and for `fs'` that `Grows` from `fs`. -/
theorem walk_mono (hkeep : ∀ p, fs.at? p = some .directory → fs'.at? p = some .directory)
    (h : fs.walk p names = .ok q) : fs'.walk p names = .ok q := by
  induction names generalizing p with
  | nil => exact h
  | cons name names ih =>
    obtain ⟨_, hdirectory, h⟩ := bind_eq_ok_iff.mp h
    obtain ⟨_, hname, h⟩ := bind_eq_ok_iff.mp h
    have hdirectory' : fs'.requireDirectory p = .ok () :=
      requireDirectory_eq_ok_iff.mpr (hkeep p (requireDirectory_eq_ok_iff.mp hdirectory))
    rw [walk, hdirectory', hname]
    exact ih h

/-- A `walk` to a directory `q` can be continued by one `name` that is not too long. -/
theorem walk_concat (h : fs.walk p names = .ok q) (hdirectory : fs.at? q = some .directory)
    (hname : requireName name = .ok ()) : fs.walk p (names ++ [name]) = .ok (q.step name) := by
  induction names generalizing p with
  | nil =>
    obtain rfl := Except.ok.inj h
    rw [List.nil_append, walk, requireDirectory_eq_ok_iff.mpr hdirectory, hname]
    rfl
  | cons first names ih =>
    obtain ⟨_, hfirst, h⟩ := bind_eq_ok_iff.mp h
    obtain ⟨_, hshort, h⟩ := bind_eq_ok_iff.mp h
    rw [List.cons_append, walk, hfirst, hshort]
    exact ih h

/-! ## The last name

To make or write something the program needs the directory of the last name. `Opens` says that it is
there. -/

/-- `path` leads to the directory `p` and has the last name `name` in it. -/
structure Opens (fs : FileSystem) (path : String) (p : Place) (name : String) : Prop where
  /-- the path satisfies the conditions on its text -/
  wellFormed : requirePath path = .ok ()
  /-- the last name of the path is `name` -/
  names : Path.names path = (Path.names path).dropLast ++ [name]
  /-- the last name does not lead back to the directory itself -/
  ne_point : name ≠ "."
  /-- the last name does not lead to the directory above -/
  ne_points : name ≠ ".."
  /-- the names before the last one lead to `p` -/
  walk : fs.walk (Place.startOf path) (Path.names path).dropLast = .ok p
  /-- `p` is a directory -/
  directory : fs.at? p = some .directory

/-- `placeFor` returns a place `p` with a name exactly if `path` `Opens` there. -/
theorem placeFor_eq_ok_iff : fs.placeFor path = .ok (p, some name) ↔ fs.Opens path p name := by
  refine ⟨fun h => ?_, fun h => ?_⟩
  · obtain ⟨_, hpath, h⟩ := bind_eq_ok_iff.mp h
    obtain ⟨q, hwalk, h⟩ := bind_eq_ok_iff.mp h
    obtain ⟨_, hdirectory, h⟩ := bind_eq_ok_iff.mp h
    split at h
    · cases h
    · cases h
    · cases h
    · rename_i last hpoint hpoints hlast
      obtain ⟨rfl, hname⟩ := Prod.mk.inj (Except.ok.inj h)
      obtain rfl := Option.some.inj hname
      exact {
        wellFormed := hpath
        names := (List.dropLast_append_getLast? last hlast).symm
        ne_point := hpoint
        ne_points := hpoints
        walk := hwalk
        directory := requireDirectory_eq_ok_iff.mp hdirectory }
  · have hlast : (Path.names path).getLast? = some name := by
      rw [h.names]
      exact List.getLast?_concat
    rw [placeFor, h.wellFormed]
    simp only [h.walk, requireDirectory_eq_ok_iff.mpr h.directory, hlast, bind, Except.bind]
    split
    · rename_i heq
      cases heq
    · rename_i heq
      exact absurd (Option.some.inj heq) h.ne_point
    · rename_i heq
      exact absurd (Option.some.inj heq) h.ne_points
    · rename_i heq
      rw [Option.some.inj heq]

namespace Opens

theorem mem_names (h : fs.Opens path p name) : name ∈ Path.names path := by
  rw [h.names]
  exact List.mem_append_right _ (List.mem_singleton_self name)

theorem ne_empty (h : fs.Opens path p name) : name ≠ "" := Path.ne_empty_of_mem_names h.mem_names

theorem step_eq (h : fs.Opens path p name) : p.step name = p ++ [name] :=
  Place.step_of_ne h.ne_point h.ne_points p

/-- `p ++ [name]` is the place that `path` leads to, `Place.ofPath path`. The names before the last
lead to `p` by `walk_eq_ok`. -/
theorem place_eq (h : fs.Opens path p name) : p ++ [name] = Place.ofPath path := by
  rw [Place.ofPath, h.names, Place.follow_append, ← walk_eq_ok h.walk, ← h.step_eq]
  rfl

theorem mono (h : fs.Opens path p name)
    (hkeep : ∀ p, fs.at? p = some .directory → fs'.at? p = some .directory) :
    fs'.Opens path p name :=
  { h with walk := walk_mono hkeep h.walk, directory := hkeep p h.directory }

/-- A path of a single name `Opens` in the place where it starts, in every file system. -/
theorem of_names (hpath : requirePath path = .ok ()) (hnames : Path.names path = [name])
    (hpoint : name ≠ ".") (hpoints : name ≠ "..") (fs : FileSystem) :
    fs.Opens path (Place.startOf path) name where
  wellFormed := hpath
  names := by
    rw [hnames]
    rfl
  ne_point := hpoint
  ne_points := hpoints
  walk := by
    rw [hnames]
    rfl
  directory := fs.at?_startOf path

/-- If `path` `Opens` and its last name is not too long, all its names can be walked. -/
theorem walk_names (h : fs.Opens path p name) (hname : requireName name = .ok ()) :
    fs.walk (Place.startOf path) (Path.names path) = .ok (p ++ [name]) := by
  rw [h.names, ← h.step_eq]
  exact walk_concat h.walk h.directory hname

end Opens

/-! ## Finding

`find` and the operations built on it, in terms of `walk` and `at?`. -/

/-- `find` returns the entity at the end `p` of the walk along all names, except that a path with a
slash at its end does not lead to a file. -/
theorem find_of_walk (hpath : requirePath path = .ok ())
    (hwalk : fs.walk (Place.startOf path) (Path.names path) = .ok p) :
    fs.find path = match fs.at? p with
      | none => .error .notFound
      | some (.file content) =>
        if Path.endsWithSlash path then .error .notDirectory else .ok (.file content)
      | some .directory => .ok .directory := by
  rw [find, hpath, hwalk]
  rfl

/-- `read` returns the content of a file at the end of the walk, if `path` does not end with a
slash. -/
theorem read_of_walk (hpath : requirePath path = .ok ())
    (hwalk : fs.walk (Place.startOf path) (Path.names path) = .ok p)
    (hslash : Path.endsWithSlash path = false) (hfile : fs.at? p = some (.file content)) :
    fs.read path = .ok content := by
  rw [read, find_of_walk hpath hwalk, hfile]
  simp only [hslash, Bool.false_eq_true, if_false]

/-- `isDirectory` is true exactly if the `walk` along all names succeeds and ends at a directory. -/
theorem isDirectory_iff :
    fs.isDirectory path = true ↔ requirePath path = .ok () ∧
      ∃ p, fs.walk (Place.startOf path) (Path.names path) = .ok p ∧
        fs.at? p = some .directory := by
  refine ⟨fun h => ?_, ?_⟩
  · rw [isDirectory] at h
    split at h
    · rename_i hfind
      obtain ⟨_, hpath, hfind⟩ := bind_eq_ok_iff.mp hfind
      obtain ⟨p, hwalk, hfind⟩ := bind_eq_ok_iff.mp hfind
      refine ⟨hpath, p, hwalk, ?_⟩
      split at hfind
      · cases hfind
      · split at hfind <;> cases hfind
      · assumption
    · cases h
  · rintro ⟨hpath, p, hwalk, hdirectory⟩
    rw [isDirectory, find_of_walk hpath hwalk, hdirectory]

/-! ## Making one directory

`makeDirectory` on a path that `Opens`, and the converse: if it succeeds, the path opens and nothing
was at its place. -/

/-- `makeDirectory` at a path that `Opens` fails with `SystemError.exists` if something is there,
and puts a directory there otherwise. -/
theorem makeDirectory_of_opens (h : fs.Opens path p name) (hname : requireName name = .ok ()) :
    fs.makeDirectory path = match fs.at? (p ++ [name]) with
      | some _ => .error .exists
      | none => .ok (fs.put (p ++ [name]) .directory) := by
  rw [makeDirectory, placeFor_eq_ok_iff.mpr h, ← h.step_eq]
  change (do requireName name; _) = _
  rw [hname]
  rfl

/-- If `makeDirectory` succeeds, the path `Opens`, nothing was at its place, and `fs'` has a
directory there. The cases in which it fails are excluded one after the other, by
`bind_eq_ok_iff`. -/
theorem makeDirectory_eq_ok (h : fs.makeDirectory path = .ok fs') :
    ∃ p name, fs.Opens path p name ∧ requireName name = .ok () ∧ fs.at? (p ++ [name]) = none ∧
      fs' = fs.put (p ++ [name]) .directory := by
  obtain ⟨⟨p, found⟩, hplace, hmake⟩ := bind_eq_ok_iff.mp h
  cases found with
  | none => cases hmake
  | some name =>
    obtain ⟨_, hname, -⟩ := bind_eq_ok_iff.mp hmake
    have hopens := placeFor_eq_ok_iff.mp hplace
    rw [makeDirectory_of_opens hopens hname] at h
    split at h
    · cases h
    · rename_i hnone
      exact ⟨p, name, hopens, hname, hnone, (Except.ok.inj h).symm⟩

/-- `makeDirectory` makes a directory at `Place.ofPath path` and changes nothing else. The new place
is `Place.ofPath path` by `Opens.place_eq`. -/
theorem makeDirectory_grows (h : fs.makeDirectory path = .ok fs') :
    Grows (· = Place.ofPath path) fs fs' := by
  obtain ⟨p, name, hopens, -, hnone, rfl⟩ := makeDirectory_eq_ok h
  intro q
  rw [at?_put fs .directory p q hopens.ne_empty]
  split
  · rename_i heq
    subst heq
    exact Or.inr ⟨hopens.place_eq, hnone, rfl⟩
  · exact Or.inl rfl

theorem isDirectory_of_makeDirectory (h : fs.makeDirectory path = .ok fs') :
    fs'.isDirectory path = true := by
  have hgrows := makeDirectory_grows h
  obtain ⟨p, name, hopens, hname, -, rfl⟩ := makeDirectory_eq_ok h
  have hopens' := hopens.mono fun q => hgrows.at?_eq_some
  refine isDirectory_iff.mpr ⟨hopens.wellFormed, _, hopens'.walk_names hname, ?_⟩
  rw [at?_put fs .directory p _ hopens.ne_empty, if_pos rfl]

/-! ## Writing

The same for `write`, and the predicate `Stores`. -/

/-- `write` at a path that `Opens`, without a slash at its end, fails with `SystemError.isDirectory`
if a directory is there, and puts the file there otherwise. -/
theorem write_of_opens (h : fs.Opens path p name) (hslash : Path.endsWithSlash path = false)
    (hname : requireName name = .ok ()) (content : ByteArray) :
    fs.write path content = match fs.at? (p ++ [name]) with
      | some .directory => .error .isDirectory
      | _ => .ok (fs.put (p ++ [name]) (.file content)) := by
  rw [write, placeFor_eq_ok_iff.mpr h, ← h.step_eq, hslash]
  change (do requireName name; _) = _
  rw [hname]
  rfl

/-- If `write` succeeds, the path `Opens` and has no slash at its end, no directory was at its
place, and `fs'` has the file there. -/
theorem write_eq_ok (h : fs.write path content = .ok fs') :
    ∃ p name, fs.Opens path p name ∧ Path.endsWithSlash path = false ∧
      requireName name = .ok () ∧ fs.at? (p ++ [name]) ≠ some .directory ∧
      fs' = fs.put (p ++ [name]) (.file content) := by
  obtain ⟨⟨p, found⟩, hplace, hwrite⟩ := bind_eq_ok_iff.mp h
  cases found with
  | none => cases hwrite
  | some name =>
    have hopens := placeFor_eq_ok_iff.mp hplace
    cases hslash : Path.endsWithSlash path with
    | true =>
      rw [hslash] at hwrite
      cases hwrite
    | false =>
      rw [hslash] at hwrite
      obtain ⟨_, hname, -⟩ := bind_eq_ok_iff.mp hwrite
      rw [write_of_opens hopens hslash hname] at h
      split at h
      · cases h
      · rename_i hfree
        exact ⟨p, name, hopens, rfl, hname, hfree, (Except.ok.inj h).symm⟩

/-- In `fs'` the file at the end of `path` has the `content`. On the way directories may have been
made, and everything else is as in `fs`. -/
structure Stores (path : String) (content : ByteArray) (fs fs' : FileSystem) : Prop where
  /-- the content can be read from the path -/
  read : fs'.read path = .ok content
  /-- the file is at the place that the path leads to -/
  file : fs'.at? (Place.ofPath path) = some (.file content)
  /-- at other places directories were made on the way of the path, and nothing else changed -/
  elsewhere : ∀ p, p ≠ Place.ofPath path →
    KeptOrMade (Path.LeadsThrough path p) (fs.at? p) (fs'.at? p)

/-- **Reading what was written.** If `write` succeeds, the result `Stores` the content at the
path. -/
theorem Stores.of_write (h : fs.write path content = .ok fs') : Stores path content fs fs' := by
  obtain ⟨p, name, hopens, hslash, hname, hfree, rfl⟩ := write_eq_ok h
  have hput := fun q => at?_put fs (.file content) p q hopens.ne_empty
  have hfile : (fs.put (p ++ [name]) (.file content)).at? (p ++ [name]) = some (.file content) := by
    rw [hput, if_pos rfl]
  -- every place on the walk is a directory, and the file is put where no directory was
  have hopens' : (fs.put (p ++ [name]) (.file content)).Opens path p name := by
    refine hopens.mono fun q hq => ?_
    rw [hput, if_neg, hq]
    rintro rfl
    exact hfree hq
  refine ⟨read_of_walk hopens.wellFormed (hopens'.walk_names hname) hslash hfile, ?_, ?_⟩
  · rw [← hopens.place_eq, hfile]
  · intro q hq
    rw [hput, if_neg (hopens.place_eq ▸ hq)]
    exact Or.inl rfl

/-- `Stores` also holds from a file system `fs` that grows, by directories on the way, to the one
before the file was stored. -/
theorem Stores.of_grows (h : Stores path content made fs')
    (hgrows : Grows (Path.LeadsThrough path) fs made) : Stores path content fs fs' :=
  { h with elsewhere := fun p hp => (hgrows p).trans (h.elsewhere p hp) }

end SwaggerRequests.FileSystem
