import SwaggerRequests.Unicode.Alphanumeric
import SwaggerRequests.Unicode.LetterCase

/-!
# Camel case

`camelCase` turns a name into one word in which capitals mark the beginnings of the old words. It
has three steps:

* `runs` divides the name at every character that is not `isAlphanumeric`;
* `humps` divides each run before a capital that follows a small letter, and before the last capital
  of several if a small letter follows it (`HTTPServer` is `HTTP` and `Server`);
* the first word is written in small letters (`smallWord`), the others with a capital at the start
  (`capitalWord`).

Digits and letters without case do not change `Cased`, the state of `humps`, so a capital behind
them begins a word if the cased letter before them was small. The bindings of parameters and the
names of functions are in camel case (`binding`, `functionName`).
-/

namespace SwaggerRequests

open Unicode (isAlphanumeric isLowercase isUppercase)

/-- The case of the last cased letter of the word that has been started. -/
inductive Cased where
  | none
  | small
  | capital
  deriving DecidableEq

/-- The state after the character `c`, which a character without case leaves as it is. -/
def Cased.after (last : Cased) (c : Char) : Cased :=
  if isLowercase c then .small else if isUppercase c then .capital else last

/-- The words of a run of alphanumeric characters. `word` is the word that has been started, with
its last character first, and `last` is its state. -/
def humps (last : Cased) (word : List Char) : List Char → List (List Char)
  | [] => []
  | [c] => [(c :: word).reverse]
  | c :: d :: cs =>
    if last.after c == .small && isUppercase d then
      (c :: word).reverse :: humps .none [] (d :: cs)
    else if last == .capital && isUppercase c && isLowercase d then
      word.reverse :: humps .none [c] (d :: cs)
    else humps (last.after c) (c :: word) (d :: cs)

/-- The maximal runs of alphanumeric characters. `run` is the run that has been started, with its
last character first. -/
def runs (run : List Char) : List Char → List (List Char)
  | [] => if run.isEmpty then [] else [run.reverse]
  | c :: cs =>
    if isAlphanumeric c then runs (c :: run) cs
    else if run.isEmpty then runs [] cs
    else run.reverse :: runs [] cs

/-- The words of a name: the `humps` of its `runs`. -/
def words (cs : List Char) : List (List Char) := (runs [] cs).flatMap (humps .none [])

/-- A word in small letters, by `Unicode.toLower`; a capital sigma at its end becomes the final
sigma. -/
def smallWord : List Char → List Char
  | [] => []
  | [c] => if c == 'Σ' then ['ς'] else Unicode.toLower c
  | c :: cs => Unicode.toLower c ++ smallWord cs

/-- A word with a capital at its start and small letters behind it. -/
def capitalWord : List Char → List Char
  | [] => []
  | c :: cs => Unicode.toUpper c ++ smallWord cs

/-- A name in camel case. It is empty if the name has no alphanumeric character. -/
def camelCase (cs : List Char) : List Char :=
  match words cs with
  | [] => []
  | w :: ws => smallWord w ++ ws.flatMap capitalWord

end SwaggerRequests
