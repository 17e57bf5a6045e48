import SwaggerRequests.Files.System
import Mathlib.Data.List.TakeWhile

/-!
# Paths and places

Two functions take a path apart. `Path.parent?` reads its characters from the end and returns the
text before the last name; `Path.names` reads them from the start, and the names are then followed
one after the other by `Place.step`. Making the missing parents of a directory needs both: it goes
from a path to its parent, and each of these paths is looked up by its names.

`Path.names_of_parent?` relates the two: the names of a path are the names of its parent and one
more name, up to names `.`. From it follow

* `Path.names_parent?`, the exact form for a path without `.`;
* `Path.length_parent?_lt`, by which the search for parents terminates;
* `LeadsTo.of_parent`: where the parent leads to, the path leads through before its last name.

`Place.follow` is the place that a list of names leads to, in a file system without files, and
`Place.Reaches` the places on the way there. `Path.LeadsTo` and `Path.LeadsThrough` are these
notions for a path, the second without its last name.
-/

namespace SwaggerRequests

namespace Path

/-! ## Names

The equations of `namesFrom` for a text that is put together from two. -/

/-- A slash divides: the names of `cs ++ '/' :: ds` are those of `cs` and then those of `ds`. The
induction follows `namesFrom`, with any started name. -/
theorem namesFrom_append_slash (name cs ds : List Char) :
    namesFrom name (cs ++ '/' :: ds) = namesFrom name cs ++ namesFrom [] ds := by
  fun_induction namesFrom name cs with
  | case1 name h => simp [namesFrom, h]
  | case2 name h => simp [namesFrom, h]
  | case3 name cs h ih => simp [namesFrom, h, ih]
  | case4 name cs h ih => simp [namesFrom, h, ih]
  | case5 name c cs hc ih => simp [namesFrom, ih]

theorem namesFrom_append_last_slash (cs : List Char) :
    namesFrom [] (cs ++ ['/']) = namesFrom [] cs := by
  rw [namesFrom_append_slash]
  exact List.append_nil _

/-- A text without slashes is one name, together with the started name `name`. -/
theorem namesFrom_of_not_mem {name cs : List Char} (hcs : '/' ∉ cs) (hne : name ++ cs ≠ []) :
    namesFrom name cs = [String.ofList (name.reverse ++ cs)] := by
  induction cs generalizing name with
  | nil => simp_all [namesFrom]
  | cons c cs ih =>
    obtain ⟨hc, hcs⟩ := not_or.mp (List.mem_cons.not.mp hcs)
    have hstep : namesFrom name (c :: cs) = namesFrom (c :: name) cs := by
      simp [namesFrom, Ne.symm hc]
    rw [hstep, ih hcs (by simp)]
    simp

/-- No name of a text is empty. -/
theorem ne_empty_of_mem_namesFrom {name cs : List Char} :
    ∀ word ∈ namesFrom name cs, word ≠ "" := by
  fun_induction namesFrom name cs with
  | case1 => exact List.forall_mem_nil _
  | case2 name h => simpa using h
  | case3 name cs h ih => exact ih
  | case4 name cs h ih => exact List.forall_mem_cons.mpr ⟨by simpa using h, ih⟩
  | case5 name c cs hc ih => exact ih

theorem ne_empty_of_mem_names {path name : String} (h : name ∈ names path) : name ≠ "" :=
  ne_empty_of_mem_namesFrom name h

/-! ## Ends of paths

Paths are taken from their end here, so `ds` is the list of the characters of a path in reverse. -/

theorem trimEnd_suffix (ds : List Char) : trimEnd ds <:+ ds := by
  fun_induction trimEnd ds with
  | case1 => exact List.suffix_rfl
  | case2 cs h ih => exact ih.trans (List.suffix_cons _ _)
  | case3 cs ih => exact ih.trans (List.suffix_cons _ _)
  | case4 => exact List.suffix_rfl

/-- `trimEnd` keeps the first character of a path, which is the last one of `ds`. -/
theorem getLast?_trimEnd (ds : List Char) : (trimEnd ds).getLast? = ds.getLast? := by
  fun_induction trimEnd ds with
  | case1 => rfl
  | case2 cs h ih =>
    rw [ih]
    cases cs with
    | nil => exact absurd rfl h
    | cons c cs => rfl
  | case3 cs ih => exact ih
  | case4 => rfl

/-- After `trimEnd` only the root ends with a slash. -/
theorem eq_nil_of_trimEnd_eq_cons {ds es : List Char} (h : trimEnd ds = '/' :: es) : es = [] := by
  fun_induction trimEnd ds with
  | case1 => exact (List.cons.inj h).2.symm
  | case2 cs hne ih => exact ih h
  | case3 cs ih => exact ih h
  | case4 cs h1 h2 h3 => exact absurd h (h2 _)

/-- The names that `trimEnd` removes from the end of a path are all `.`. Slashes at the end do not
count as names, and `trimEnd` removes a `.` only behind a slash. -/
theorem exists_namesFrom_trimEnd (ds : List Char) :
    ∃ n, namesFrom [] ds.reverse =
      namesFrom [] (trimEnd ds).reverse ++ List.replicate n "." := by
  fun_induction trimEnd ds with
  | case1 => exact ⟨0, rfl⟩
  | case2 cs h ih =>
    obtain ⟨n, ih⟩ := ih
    refine ⟨n, ?_⟩
    rw [List.reverse_cons, namesFrom_append_last_slash, ih]
  | case3 cs ih =>
    obtain ⟨n, ih⟩ := ih
    refine ⟨n + 1, ?_⟩
    rw [List.reverse_cons, namesFrom_append_last_slash] at ih
    rw [List.reverse_cons, List.reverse_cons, List.append_assoc, List.singleton_append,
      namesFrom_append_slash, ih, List.append_assoc, List.replicate_succ']
    rfl
  | case4 => exact ⟨0, (List.append_nil _).symm⟩

/-! ## Parents

`parent?` removes the last name of a path. The decomposition of the text by `exists_last_name` gives
the equation for the names, `namesFrom_of_last_name`, and with `parent?_eq_some` all statements
about the parent. -/

/-- `ds` is its last name `word` and what `List.dropWhile` leaves, which is empty or begins with a
slash. -/
theorem exists_last_name (ds : List Char) :
    ∃ word, ds = word ++ ds.dropWhile (· != '/') ∧ '/' ∉ word ∧
      ∀ d ∈ (ds.dropWhile (· != '/')).head?, d = '/' := by
  refine ⟨ds.takeWhile (· != '/'), List.takeWhile_append_dropWhile.symm, ?_, ?_⟩
  · intro hmem
    simpa using List.mem_takeWhile_imp hmem
  · intro d hd
    have hhead := List.head?_dropWhile_not (· != '/') ds
    rw [Option.mem_def.mp hd] at hhead
    simpa using hhead

/-- The names of a text are those of `rest`, which precedes its last name `word`, and this name. -/
theorem namesFrom_of_last_name {word rest : List Char} (hword : '/' ∉ word) (hne : word ≠ [])
    (hrest : ∀ d ∈ rest.head?, d = '/') :
    namesFrom [] (word ++ rest).reverse =
      namesFrom [] rest.reverse ++ [String.ofList word.reverse] := by
  have hlast : namesFrom [] word.reverse = [String.ofList word.reverse] :=
    namesFrom_of_not_mem (by simpa using hword) (by simpa using hne)
  rw [List.reverse_append]
  cases rest with
  | nil => exact hlast
  | cons d rest =>
    obtain rfl := hrest d rfl
    rw [List.reverse_cons, List.append_assoc, List.singleton_append, namesFrom_append_slash,
      namesFrom_append_last_slash, hlast]

/-- What a parent is: after `trimEnd` the path consists of a last name `word`, which is not empty,
and of `rest`, and the parent is `rest` after `trimEnd`. All other lemmas on parents are derived
from this one. -/
theorem parent?_eq_some {path parent : String} (h : parent? path = some parent) :
    ∃ word rest, trimEnd path.toList.reverse = word ++ rest ∧ word ≠ [] ∧ '/' ∉ word ∧
      (∀ d ∈ rest.head?, d = '/') ∧ parent = String.ofList (trimEnd rest).reverse := by
  obtain ⟨word, hsplit, hword, hrest⟩ := exists_last_name (trimEnd path.toList.reverse)
  rw [parent?] at h
  split at h
  · cases h
  · cases h
  rename_i hempty hroot
  refine ⟨word, _, hsplit, ?_, hword, hrest, (Option.some.inj h).symm⟩
  -- what begins with a slash after trimming is the root, which has no parent
  rintro rfl
  rw [List.nil_append] at hsplit
  rw [← hsplit] at hrest
  rcases heq : trimEnd path.toList.reverse with _ | ⟨d, ds⟩
  · exact hempty heq
  · rw [heq] at hrest
    obtain rfl := hrest d rfl
    obtain rfl := eq_nil_of_trimEnd_eq_cons heq
    exact hroot heq

/-- **Names of a parent.** The names of a path are those of its parent and one more `name`, with
names `.` before and after it. -/
theorem names_of_parent? {path parent : String} (h : parent? path = some parent) :
    ∃ name m n,
      names path = names parent ++ List.replicate m "." ++ name :: List.replicate n "." := by
  obtain ⟨word, rest, hsplit, hne, hword, hrest, rfl⟩ := parent?_eq_some h
  obtain ⟨n, hn⟩ := exists_namesFrom_trimEnd path.toList.reverse
  obtain ⟨m, hm⟩ := exists_namesFrom_trimEnd rest
  refine ⟨String.ofList word.reverse, m, n, ?_⟩
  rw [List.reverse_reverse, hsplit, namesFrom_of_last_name hword hne hrest, hm] at hn
  rw [names, names, hn, String.toList_ofList]
  simp only [List.append_assoc, List.singleton_append]

/-- A path and its parent start at the same place. -/
theorem startsAtRoot_of_parent? {path parent : String} (h : parent? path = some parent) :
    startsAtRoot parent = startsAtRoot path := by
  obtain ⟨word, rest, hsplit, -, hword, -, rfl⟩ := parent?_eq_some h
  rw [startsAtRoot, startsAtRoot, String.toList_ofList, List.head?_reverse, getLast?_trimEnd,
    ← List.getLast?_reverse, ← getLast?_trimEnd path.toList.reverse, hsplit]
  cases rest with
  | nil =>
    have hlast : word.getLast? ≠ some '/' := fun h => hword (List.mem_of_getLast? h)
    rw [List.append_nil]
    simpa using hlast
  | cons d rest => rw [List.getLast?_append, List.getLast?_cons, Option.some_or]

/-- The text of the parent is a proper beginning of the text of the path. -/
theorem exists_append_parent? {path parent : String} (h : parent? path = some parent) :
    ∃ rest, rest ≠ "" ∧ path = parent ++ rest := by
  obtain ⟨word, rest, hsplit, hne, -, -, rfl⟩ := parent?_eq_some h
  obtain ⟨left, hleft⟩ := trimEnd_suffix path.toList.reverse
  obtain ⟨trimmed, htrimmed⟩ := trimEnd_suffix rest
  refine ⟨String.ofList (trimmed.reverse ++ word.reverse ++ left.reverse), ?_, ?_⟩
  · intro hempty
    have hchars := congrArg String.toList hempty
    rw [String.toList_ofList] at hchars
    simp [hne] at hchars
  · have hpath := congrArg List.reverse hleft
    rw [hsplit, ← htrimmed, List.reverse_reverse] at hpath
    rw [← String.toList_inj, ← hpath, String.toList_append, String.toList_ofList,
      String.toList_ofList]
    simp only [List.reverse_append, List.append_assoc]

/-- The parent is shorter than the path, so `makeDirectoriesWithin` needs at most `path.length`
steps. -/
theorem length_parent?_lt {path parent : String} (h : parent? path = some parent) :
    parent.length < path.length := by
  obtain ⟨rest, hrest, rfl⟩ := exists_append_parent? h
  have hpos : rest.length ≠ 0 := fun hzero => hrest (String.length_eq_zero_iff.mp hzero)
  rw [String.length_append]
  omega

/-- In a path without the name `.`, the names of the parent are all names of the path except the
last one. Without the name `.` the repetitions in `names_of_parent?` are empty. -/
theorem names_parent? {path parent : String} (h : parent? path = some parent)
    (hpoint : "." ∉ names path) : names parent = (names path).dropLast := by
  obtain ⟨name, m, n, hnames⟩ := names_of_parent? h
  rw [hnames] at hpoint ⊢
  simp only [List.mem_append, List.mem_cons, List.mem_replicate, not_or, and_true, ne_eq,
    not_not] at hpoint
  obtain ⟨⟨-, rfl⟩, -, rfl⟩ := hpoint
  rw [List.replicate_zero, List.append_nil, List.dropLast_concat]

/-- All names of a path without a parent are `.`. -/
theorem eq_point_of_parent?_eq_none {path : String} (h : parent? path = none) :
    ∀ name ∈ names path, name = "." := by
  obtain ⟨n, hn⟩ := exists_namesFrom_trimEnd path.toList.reverse
  rw [List.reverse_reverse] at hn
  have hroot : namesFrom [] (trimEnd path.toList.reverse).reverse = [] := by
    rw [parent?] at h
    split at h
    · rename_i heq
      rw [heq]
      rfl
    · rename_i heq
      rw [heq]
      rfl
    · cases h
  intro name hname
  rw [names, hn, hroot] at hname
  exact List.eq_of_mem_replicate hname

end Path

/-! ## Places

What a list of names leads to does not depend on the file system, except that the walk stops where
something is not a directory. `follow` and `Reaches` describe the walk without the file system. -/

namespace Place

/-- The place to which `names` lead from `p`, one after the other. -/
def follow (p : Place) (names : List String) : Place := names.foldl step p

@[simp] theorem follow_nil (p : Place) : p.follow [] = p := rfl

@[simp] theorem follow_cons (p : Place) (name : String) (names : List String) :
    p.follow (name :: names) = (p.step name).follow names := rfl

@[simp] theorem follow_append (p : Place) (names more : List String) :
    p.follow (names ++ more) = (p.follow names).follow more :=
  List.foldl_append

/-- The place to which `path` leads. -/
def ofPath (path : String) : Place := (startOf path).follow (Path.names path)

/-- `q` is on the way from `p` along `names`, with both ends included. -/
def Reaches (p : Place) (names : List String) (q : Place) : Prop :=
  ∃ before, before <+: names ∧ q = p.follow before

theorem Reaches.start (p : Place) (names : List String) : p.Reaches names p :=
  ⟨[], List.nil_prefix, rfl⟩

/-- The way from `p.step name` is a part of the way from `p` along `name :: names`. -/
theorem Reaches.step {p q : Place} {name : String} {names : List String}
    (h : (p.step name).Reaches names q) : p.Reaches (name :: names) q := by
  obtain ⟨before, hbefore, rfl⟩ := h
  exact ⟨name :: before, List.cons_prefix_cons.mpr ⟨rfl, hbefore⟩, rfl⟩

theorem Reaches.mono {p q : Place} {names more : List String} (h : p.Reaches names q)
    (hmore : names <+: more) : p.Reaches more q := by
  obtain ⟨before, hbefore, rfl⟩ := h
  exact ⟨before, hbefore.trans hmore, rfl⟩

/-- A name other than `.` and `..` leads one step down. -/
theorem step_of_ne {name : String} (hpoint : name ≠ ".") (hpoints : name ≠ "..") (p : Place) :
    p.step name = p ++ [name] := by
  rw [step, if_neg hpoint, if_neg hpoints]

/-- Names other than `.` and `..` lead down one after the other. -/
theorem follow_of_ne {names : List String} (h : ∀ name ∈ names, name ≠ "." ∧ name ≠ "..")
    (p : Place) : p.follow names = p ++ names := by
  induction names generalizing p with
  | nil => exact (List.append_nil p).symm
  | cons name names ih =>
    obtain ⟨⟨hpoint, hpoints⟩, hnames⟩ := List.forall_mem_cons.mp h
    rw [follow_cons, step_of_ne hpoint hpoints, ih hnames, List.append_assoc]
    rfl

end Place

namespace Path

/-- `q` is on the way of `path`, with the end included. -/
def LeadsTo (path : String) (q : Place) : Prop := (Place.startOf path).Reaches (names path) q

/-- `q` is on the way of `path` before its last name. -/
def LeadsThrough (path : String) (q : Place) : Prop :=
  (Place.startOf path).Reaches (names path).dropLast q

variable {path parent : String} {q : Place}

theorem leadsTo_ofPath (path : String) : LeadsTo path (Place.ofPath path) :=
  ⟨names path, List.prefix_rfl, rfl⟩

theorem LeadsThrough.leadsTo (h : LeadsThrough path q) : LeadsTo path q :=
  h.mono (List.dropLast_prefix _)

/-- **Ways of a parent.** A place that the parent of `path` leads to is on the way of `path` before
its last name. By `names_of_parent?` the names of the parent are a prefix of the names before the
last one. -/
theorem LeadsTo.of_parent (h : LeadsTo parent q) (hparent : parent? path = some parent) :
    LeadsThrough path q := by
  obtain ⟨name, m, n, hnames⟩ := names_of_parent? hparent
  have hprefix : names parent <+: (names path).dropLast := by
    rw [hnames, List.append_assoc, List.dropLast_append_of_ne_nil (by simp)]
    exact List.prefix_append _ _
  rw [LeadsTo, Place.startOf, startsAtRoot_of_parent? hparent] at h
  exact h.mono hprefix

end Path

end SwaggerRequests
