import SwaggerRequests.Proofs.FileSystems

/-!
# Making directories

`makeDirectories` succeeds exactly where nothing but missing directories is in the way, makes these
and changes nothing else.

The function first tries to make the directory itself. If a directory above is missing, it makes the
parent in the same way and tries once more. Its recursion is bounded by a number of steps, and since
each parent is shorter than its path, the bound is not reached (`makeDirectoriesWithin_makes`). The
relation `Makes` describes the runs without the bound, with one constructor for each way in which a
run can go. The results are by induction on it:

* `Makes.grows`: only directories on the way of the path are made, also if the run fails;
* `Makes.isDirectory`: after success the path leads to a directory;
* `Makes.ok`: the run succeeds if the path is `Passable`.

`Passable` and `Accepts` are the conditions under which a directory or a file can be made at the end
of a path in a given file system. Both require that the path is `Plain`, has no names `.` and `..`
and no name that is too long, and that there is no file on the way.
-/

namespace SwaggerRequests.FileSystem

variable {fs fs' made : FileSystem} {p q : Place} {name path parent : String} {names : List String}
  {outcome : Except SystemError Unit × FileSystem}

/-! ## One attempt

An attempt is what a run of `makeDirectories` does at one path. It succeeds if the directory is
there already. -/

/-- Makes the directory at `path` by `makeDirectory`; a directory that exists is no error. -/
def attemptDirectory (fs : FileSystem) (path : String) : Except SystemError Unit × FileSystem :=
  match fs.makeDirectory path with
  | .ok fs' => (.ok (), fs')
  | .error e => (if fs.isDirectory path then .ok () else .error e, fs)

theorem attemptDirectory_grows (fs : FileSystem) (path : String) :
    Grows (Path.LeadsTo path) fs (fs.attemptDirectory path).2 := by
  rw [attemptDirectory]
  split
  · rename_i hmade
    exact (makeDirectory_grows hmade).imp fun p hp => hp ▸ Path.leadsTo_ofPath path
  · exact .refl _ fs

theorem isDirectory_of_attemptDirectory (h : (fs.attemptDirectory path).1 = .ok ()) :
    (fs.attemptDirectory path).2.isDirectory path = true := by
  rw [attemptDirectory] at h ⊢
  split at h
  · rename_i hmade
    exact isDirectory_of_makeDirectory hmade
  · by_contra hmissing
    rw [if_neg hmissing] at h
    cases h

/-! ## The recursion

The relation `Makes` between a path and the outcome of a run. All constructors but the last two are
runs that end with one attempt or without any. -/

/-- The ways in which a run of `makeDirectories` can go, with the outcome of each: the error, if
there is one, and the file system after the run. -/
inductive Makes (fs : FileSystem) : String → Except SystemError Unit × FileSystem → Prop where
  /-- the path is empty, and nothing has to be made -/
  | nothing (path : String) (hpath : path.isEmpty = true) : Makes fs path (.ok (), fs)
  /-- no directory above is missing, so the attempt at the path itself decides -/
  | last (path : String) (hpath : path.isEmpty = false)
      (hfound : fs.makeDirectory path ≠ .error .notFound) :
      Makes fs path (fs.attemptDirectory path)
  /-- a directory above is missing, and the path has no parent -/
  | noParent (path : String) (hpath : path.isEmpty = false)
      (hmissing : fs.makeDirectory path = .error .notFound) (hparent : Path.parent? path = none) :
      Makes fs path (.error .notFound, fs)
  /-- the parent cannot be made -/
  | blocked (path parent : String) (e : SystemError) (fs' : FileSystem)
      (hpath : path.isEmpty = false) (hmissing : fs.makeDirectory path = .error .notFound)
      (hparent : Path.parent? path = some parent) (habove : Makes fs parent (.error e, fs')) :
      Makes fs path (.error e, fs')
  /-- the parent is made, and a second attempt at the path decides -/
  | afterParent (path parent : String) (fs' : FileSystem) (hpath : path.isEmpty = false)
      (hmissing : fs.makeDirectory path = .error .notFound)
      (hparent : Path.parent? path = some parent) (habove : Makes fs parent (.ok (), fs')) :
      Makes fs path (fs'.attemptDirectory path)

/-- With more `steps` than `path` has characters, `makeDirectoriesWithin` is a run in the sense of
`Makes`. The induction is on `steps`, and `Path.length_parent?_lt` bounds the length of the
parent. -/
theorem makeDirectoriesWithin_makes {steps : Nat} (h : path.length < steps) (fs : FileSystem) :
    Makes fs path (fs.makeDirectoriesWithin steps path) := by
  induction steps generalizing path with
  | zero => exact absurd h (Nat.not_lt_zero _)
  | succ steps ih =>
    rw [makeDirectoriesWithin]
    split
    · rename_i hempty
      exact .nothing path hempty
    rename_i hpath
    rw [Bool.not_eq_true] at hpath
    split
    · rename_i fs' hmade
      have hlast : Makes fs path _ := .last path hpath (by simp [hmade])
      rwa [attemptDirectory, hmade] at hlast
    · rename_i hmissing
      split
      · rename_i hparent
        exact .noParent path hpath hmissing hparent
      · rename_i parent hparent
        -- the parent is a shorter path, so the remaining steps are enough for it
        have hless := Path.length_parent?_lt hparent
        have habove : Makes fs parent _ := ih (by omega)
        split
        · rename_i e fs' hblocked
          rw [hblocked] at habove
          exact .blocked path parent e fs' hpath hmissing hparent habove
        · rename_i fs' hthere
          rw [hthere] at habove
          exact .afterParent path parent fs' hpath hmissing hparent habove
    · rename_i e hnot hfailed
      have hlast : Makes fs path _ := .last path hpath (by rw [hfailed]; simpa using hnot)
      rwa [attemptDirectory, hfailed] at hlast

theorem makeDirectories_makes (fs : FileSystem) (path : String) :
    Makes fs path (fs.makeDirectories path) :=
  makeDirectoriesWithin_makes (Nat.lt_succ_self _) fs

namespace Makes

/-- **Only directories on the way.** A run makes directories on the way of `path` and changes
nothing else, whether it succeeds or not. The induction is on `Makes`. -/
theorem grows (h : Makes fs path outcome) : Grows (Path.LeadsTo path) fs outcome.2 := by
  induction h with
  | nothing path hpath => exact .refl _ fs
  | last path hpath hfound => exact fs.attemptDirectory_grows path
  | noParent path hpath hmissing hparent => exact .refl _ fs
  | blocked path parent e fs' hpath hmissing hparent habove ih =>
    exact ih.imp fun p hp => (hp.of_parent hparent).leadsTo
  | afterParent path parent fs' hpath hmissing hparent habove ih =>
    have habove' : Grows (Path.LeadsTo path) fs fs' :=
      ih.imp fun p hp => (hp.of_parent hparent).leadsTo
    exact habove'.trans (fs'.attemptDirectory_grows path)

/-- After a run that succeeds, `path` leads to a directory. -/
theorem isDirectory (h : Makes fs path outcome) (hpath : path.isEmpty = false)
    (hok : outcome.1 = .ok ()) : outcome.2.isDirectory path = true := by
  cases h with
  | nothing _ hempty => exact absurd hempty (by simp [hpath])
  | last => exact isDirectory_of_attemptDirectory hok
  | noParent => cases hok
  | blocked => cases hok
  | afterParent => exact isDirectory_of_attemptDirectory hok

end Makes

/-! ## Paths without obstacles

A run fails for three reasons: the path is not well-formed, a name is too long, or a file is where a
directory is needed. The structures of this section exclude them. -/

/-- The path is well-formed and all its names lead down. -/
structure Plain (path : String) : Prop where
  /-- the path satisfies `requirePath` -/
  wellFormed : requirePath path = .ok ()
  /-- no name is `.` or `..` -/
  down : ∀ name ∈ Path.names path, name ≠ "." ∧ name ≠ ".."
  /-- no name is longer than `maxName` -/
  short : ∀ name ∈ Path.names path, requireName name = .ok ()

/-- There is no file at `p`. -/
def NoFile (fs : FileSystem) (p : Place) : Prop := ∀ content, fs.at? p ≠ some (.file content)

/-- A directory can be made at the end of `path`. -/
structure Passable (fs : FileSystem) (path : String) : Prop where
  /-- the path is `Plain` -/
  plain : Plain path
  /-- no file is on the way or at the end -/
  clear : ∀ p, Path.LeadsTo path p → fs.NoFile p

/-- A file can be made at the end of `path`. -/
structure Accepts (fs : FileSystem) (path : String) : Prop where
  /-- the path is `Plain` -/
  plain : Plain path
  /-- the path has a name -/
  named : Path.names path ≠ []
  /-- the path does not end with a slash -/
  noSlash : Path.endsWithSlash path = false
  /-- no file is on the way -/
  clear : ∀ p, Path.LeadsThrough path p → fs.NoFile p
  /-- no directory is at the end -/
  free : fs.at? (Place.ofPath path) ≠ some .directory

/-- With `NoFile` there is a directory or nothing at `p`. -/
theorem NoFile.cases (h : fs.NoFile p) : fs.at? p = some .directory ∨ fs.at? p = none := by
  rcases hp : fs.at? p with _ | _ | content
  · exact Or.inr rfl
  · exact Or.inl rfl
  · exact absurd hp (h content)

/-- The three conditions on the text of a path that `requirePath` checks. -/
theorem requirePath_eq_ok_iff :
    requirePath path = .ok () ↔
      '\x00' ∉ path.toList ∧ path.isEmpty = false ∧ path.utf8ByteSize ≤ maxPath := by
  rw [requirePath]
  split
  · simp_all
  split
  · simp_all
  split
  · rename_i hlong
    simp [Nat.not_le.mpr hlong]
  · simp_all

namespace Plain

theorem point_not_mem (h : Plain path) : "." ∉ Path.names path := fun hmem => (h.down _ hmem).1 rfl

/-- The parent of a `Plain` path is `Plain`, unless it is the empty path. -/
theorem above (h : Plain path) (hparent : Path.parent? path = some parent)
    (hpath : parent.isEmpty = false) : Plain parent := by
  have hmem : ∀ name ∈ Path.names parent, name ∈ Path.names path := by
    rw [Path.names_parent? hparent h.point_not_mem]
    exact fun name => (List.dropLast_subset _ ·)
  refine ⟨?_, fun name hname => h.down name (hmem name hname),
    fun name hname => h.short name (hmem name hname)⟩
  -- the path begins with the text of its parent
  obtain ⟨hzero, -, hlong⟩ := requirePath_eq_ok_iff.mp h.wellFormed
  obtain ⟨rest, -, rfl⟩ := Path.exists_append_parent? hparent
  rw [String.utf8ByteSize_append] at hlong
  refine requirePath_eq_ok_iff.mpr ⟨fun hmem => hzero ?_, hpath, by omega⟩
  rw [String.toList_append]
  exact List.mem_append_left _ hmem

theorem exists_parent (h : Plain path) (hnamed : Path.names path ≠ []) :
    ∃ parent, Path.parent? path = some parent := by
  rcases hparent : Path.parent? path with _ | parent
  · obtain ⟨name, hname⟩ := List.exists_mem_of_ne_nil _ hnamed
    have hpoint := Path.eq_point_of_parent?_eq_none hparent name hname
    exact absurd hpoint (h.down name hname).1
  · exact ⟨parent, rfl⟩

/-- A `Plain` path does not come through `Place.ofPath path` before its last name, since each name
leads further down. -/
theorem not_leadsThrough_ofPath (h : Plain path) (hnamed : Path.names path ≠ []) :
    ¬ Path.LeadsThrough path (Place.ofPath path) := by
  rintro ⟨before, hbefore, hsame⟩
  have hdown : ∀ name ∈ before, name ≠ "." ∧ name ≠ ".." := fun name hname =>
    h.down name (List.dropLast_subset _ (hbefore.subset hname))
  rw [Place.ofPath, Place.follow_of_ne h.down, Place.follow_of_ne hdown,
    List.append_cancel_left_eq] at hsame
  have hlength := hbefore.length_le
  have hpos := List.length_pos_iff.mpr hnamed
  rw [← hsame, List.length_dropLast] at hlength
  omega

/-- If the names before the last one lead to a directory, the `Plain` path `Opens` in it. -/
theorem opens (h : Plain path) (hnamed : Path.names path ≠ [])
    (hwalk : fs.walk (Place.startOf path) (Path.names path).dropLast = .ok p)
    (hdirectory : fs.at? p = some .directory) :
    ∃ p name, fs.Opens path p name ∧ requireName name = .ok () := by
  have hmem := List.getLast_mem hnamed
  obtain ⟨hpoint, hpoints⟩ := h.down _ hmem
  refine ⟨p, (Path.names path).getLast hnamed, ?_, h.short _ hmem⟩
  exact {
    wellFormed := h.wellFormed
    names := (List.dropLast_append_getLast hnamed).symm
    ne_point := hpoint
    ne_points := hpoints
    walk := hwalk
    directory := hdirectory }

/-- If its `parent` is a directory, or empty, the `Plain` path `Opens`. -/
theorem opens_of_parent (h : Plain path) (hparent : Path.parent? path = some parent)
    (hthere : parent.isEmpty = false → fs.isDirectory parent = true) :
    ∃ p name, fs.Opens path p name ∧ requireName name = .ok () := by
  obtain ⟨name, m, n, hnames⟩ := Path.names_of_parent? hparent
  have hnamed : Path.names path ≠ [] := by simp [hnames]
  have hwalk : ∃ p, fs.walk (Place.startOf path) (Path.names path).dropLast = .ok p ∧
      fs.at? p = some .directory := by
    rw [← Path.names_parent? hparent h.point_not_mem]
    cases hempty : parent.isEmpty with
    | true =>
      obtain rfl := String.isEmpty_iff.mp hempty
      exact ⟨_, rfl, fs.at?_startOf path⟩
    | false =>
      obtain ⟨-, hwalk⟩ := isDirectory_iff.mp (hthere hempty)
      rwa [Place.startOf, Path.startsAtRoot_of_parent? hparent] at hwalk
  obtain ⟨p, hwalk, hdirectory⟩ := hwalk
  exact h.opens hnamed hwalk hdirectory

end Plain

/-- Without files on the way `walk` succeeds, or fails with `SystemError.notFound`. -/
theorem walk_of_noFile (hshort : ∀ name ∈ names, requireName name = .ok ())
    (hclear : ∀ q, p.Reaches names q → fs.NoFile q) :
    fs.walk p names = .ok (p.follow names) ∨ fs.walk p names = .error .notFound := by
  induction names generalizing p with
  | nil => exact Or.inl rfl
  | cons name names ih =>
    obtain ⟨hname, hshort⟩ := List.forall_mem_cons.mp hshort
    rcases (hclear p (.start p _)).cases with hp | hp
    · have hstep := ih hshort fun q hq => hclear q hq.step
      rwa [walk, requireDirectory_eq_ok_iff.mpr hp, hname]
    · refine Or.inr ?_
      rw [walk, requireDirectory, hp]
      rfl

/-- Without files on the way a `Plain` path `Opens`, or `makeDirectory` fails with
`SystemError.notFound`. -/
theorem Plain.opens_or_missing (h : Plain path) (hnamed : Path.names path ≠ [])
    (hclear : ∀ p, Path.LeadsThrough path p → fs.NoFile p) :
    (∃ p name, fs.Opens path p name ∧ requireName name = .ok ()) ∨
      fs.makeDirectory path = .error .notFound := by
  have hshort : ∀ name ∈ (Path.names path).dropLast, requireName name = .ok () :=
    fun name hname => h.short name (List.dropLast_subset _ hname)
  rcases walk_of_noFile hshort hclear with hwalk | hwalk
  · rcases (hclear _ ⟨_, List.prefix_rfl, rfl⟩).cases with hp | hp
    · exact Or.inl (h.opens hnamed hwalk hp)
    · refine Or.inr ?_
      simp only [makeDirectory, placeFor, h.wellFormed, hwalk, requireDirectory, hp, bind,
        Except.bind]
  · refine Or.inr ?_
    simp only [makeDirectory, placeFor, h.wellFormed, hwalk, bind, Except.bind]

/-- A path without names leads to the place where it starts, so `attemptDirectory` succeeds. -/
theorem attemptDirectory_of_no_names (hpath : requirePath path = .ok ())
    (hnames : Path.names path = []) : (fs.attemptDirectory path).1 = .ok () := by
  have hthere : fs.isDirectory path = true :=
    isDirectory_iff.mpr ⟨hpath, _, by rw [hnames]; rfl, fs.at?_startOf path⟩
  rw [attemptDirectory]
  split
  · rfl
  · exact if_pos hthere

/-- `attemptDirectory` at a path that `Opens` succeeds if there is `NoFile` at its place. -/
theorem attemptDirectory_of_opens (h : fs.Opens path p name) (hname : requireName name = .ok ())
    (hclear : fs.NoFile (p ++ [name])) : (fs.attemptDirectory path).1 = .ok () := by
  rw [attemptDirectory, makeDirectory_of_opens h hname]
  rcases hclear.cases with hp | hp
  · have hthere : fs.isDirectory path = true :=
      isDirectory_iff.mpr ⟨h.wellFormed, _, h.walk_names hname, hp⟩
    rw [hp]
    exact if_pos hthere
  · rw [hp]

namespace Passable

theorem above (h : fs.Passable path) (hparent : Path.parent? path = some parent)
    (hpath : parent.isEmpty = false) : fs.Passable parent :=
  ⟨h.plain.above hparent hpath, fun p hp => h.clear p (hp.of_parent hparent).leadsTo⟩

theorem of_grows {P : Place → Prop} (h : fs.Passable path) (hgrows : Grows P fs fs') :
    fs'.Passable path :=
  ⟨h.plain, fun p hp content hfile => h.clear p hp content (hgrows.file_iff.mp hfile)⟩

/-- `attemptDirectory` at a `Passable` path succeeds if the path `Opens`. -/
theorem attempt_of_opens (h : fs.Passable path) (hopens : fs.Opens path p name)
    (hname : requireName name = .ok ()) : (fs.attemptDirectory path).1 = .ok () := by
  refine attemptDirectory_of_opens hopens hname (h.clear _ ?_)
  rw [hopens.place_eq]
  exact Path.leadsTo_ofPath path

/-- `attemptDirectory` at a `Passable` path succeeds unless `makeDirectory` fails with
`SystemError.notFound`. -/
theorem attempt (h : fs.Passable path) (hfound : fs.makeDirectory path ≠ .error .notFound) :
    (fs.attemptDirectory path).1 = .ok () := by
  by_cases hnamed : Path.names path = []
  · exact attemptDirectory_of_no_names h.plain.wellFormed hnamed
  · obtain ⟨p, name, hopens, hname⟩ :=
      (h.plain.opens_or_missing hnamed fun p hp => h.clear p hp.leadsTo).resolve_right hfound
    exact h.attempt_of_opens hopens hname

/-- `makeDirectory` at a `Passable` path without a parent does not fail with `SystemError.notFound`,
since the path has no names. -/
theorem makeDirectory_ne_notFound (h : fs.Passable path) (hparent : Path.parent? path = none) :
    fs.makeDirectory path ≠ .error .notFound := by
  have hnames : Path.names path = [] := by
    by_contra hnamed
    obtain ⟨parent, hsome⟩ := h.plain.exists_parent hnamed
    rw [hsome] at hparent
    cases hparent
  have hstart := requireDirectory_eq_ok_iff.mpr (fs.at?_startOf path)
  simp [makeDirectory, placeFor, h.plain.wellFormed, hnames, walk, hstart, bind, Except.bind]

end Passable

/-- **Success.** A run at a `Passable` path succeeds. The induction is on `Makes`. -/
theorem Makes.ok (h : Makes fs path outcome)
    (hclear : path.isEmpty = false → fs.Passable path) : outcome.1 = .ok () := by
  induction h with
  | nothing path hpath => rfl
  | last path hpath hfound => exact (hclear hpath).attempt hfound
  | noParent path hpath hmissing hparent =>
    exact absurd hmissing ((hclear hpath).makeDirectory_ne_notFound hparent)
  | blocked path parent e fs' hpath hmissing hparent habove ih =>
    cases ih fun hne => (hclear hpath).above hparent hne
  | afterParent path parent fs' hpath hmissing hparent habove ih =>
    -- the new entities are directories above the path, and these do not prevent writing it
    have hpass := (hclear hpath).of_grows habove.grows
    obtain ⟨p, name, hopens, hname⟩ :=
      hpass.plain.opens_of_parent hparent fun hne => habove.isDirectory hne rfl
    exact hpass.attempt_of_opens hopens hname

/-- If `fs` `Accepts` a file at `path`, and its `parent` was made a directory in `made`, then
`write` succeeds in `made`. -/
theorem Accepts.write (h : fs.Accepts path) (hgrows : Grows (Path.LeadsThrough path) fs made)
    (hparent : Path.parent? path = some parent)
    (hthere : parent.isEmpty = false → made.isDirectory parent = true) (content : ByteArray) :
    ∃ fs', made.write path content = .ok fs' := by
  obtain ⟨p, name, hopens, hname⟩ := h.plain.opens_of_parent hparent hthere
  rw [write_of_opens hopens h.noSlash hname]
  split
  · rename_i hdirectory
    rw [hopens.place_eq] at hdirectory
    rcases hgrows (Place.ofPath path) with hkept | ⟨hthrough, -, -⟩
    · exact absurd (hkept ▸ hdirectory) h.free
    · exact absurd hthrough (h.plain.not_leadsThrough_ofPath h.named)
  · exact ⟨_, rfl⟩

end SwaggerRequests.FileSystem
