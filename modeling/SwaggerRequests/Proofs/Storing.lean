import SwaggerRequests.Program
import SwaggerRequests.Proofs.Directories

/-!
# Storing a text

`store text output` makes the directory of the file `output` and writes the text to it. The
directory is `Path.directory? output`; there is none to make if the file is in the place where its
path starts.

There are two cases (`prepares_or_blocked`). If the directory is there or can be made, which is
`Prepares output fs made`, the outcome is that of writing the file in `made`
(`run_store_of_prepared`). If it cannot be made, nothing is written (`run_store_of_blocked`). In
both cases the directories that are made are on the way of `output`, by `LeadsTo.of_parent`.

The results are `stores_of_run_store`, on runs that succeed, and `run_store_of_accepts`, a condition
on the file system under which they do.
-/

namespace SwaggerRequests

variable {fs made : FileSystem} {text output : String}

/-! ## Running on a file system

The operations of `Files` in the monad `FileState` are those of `FileSystem`. -/

theorem run_bind {α β : Type} (x : FileState α) (f : α → FileState β) :
    (x >>= f).run fs = (f (x.run fs).1).run (x.run fs).2 := rfl

theorem run_read (path : String) :
    (Files.read path : FileState _).run fs = (fs.read path, fs) := rfl

theorem run_makeDirectories (directory : String) :
    (Files.makeDirectories directory : FileState _).run fs = fs.makeDirectories directory := rfl

theorem run_write (path : String) (content : ByteArray) :
    (Files.write path content : FileState _).run fs = match fs.write path content with
      | .ok fs' => (.ok (), fs')
      | .error e => (.error e, fs) := rfl

/-! ## Storing

`Path.directory?` and `Prepares` are the first step of `store`, seen from the path and from the file
system. -/

/-- The directory that has to be made for a file, or `none` if it is the one where the path
starts. -/
def Path.directory? (path : String) : Option String := (Path.parent? path).filter (!·.isEmpty)

/-- `Path.directory?` is the parent of the path, unless the parent is empty. -/
theorem Path.directory?_eq_some_iff {path directory : String} :
    Path.directory? path = some directory ↔
      Path.parent? path = some directory ∧ directory.isEmpty = false := by
  rw [Path.directory?, Option.filter_eq_some_iff, Bool.not_eq_true']

namespace FileSystem

/-- The directory for the file `output` is there or can be made, and `made` is the file system after
that. -/
def Prepares (output : String) (fs made : FileSystem) : Prop :=
  match Path.directory? output with
  | none => made = fs
  | some directory => fs.makeDirectories directory = (.ok (), made)

/-- Making the directory of `output` makes directories on the way of `output` and changes nothing
else. -/
theorem grows_of_directory {directory : String} (h : Path.directory? output = some directory)
    (fs : FileSystem) :
    Grows (Path.LeadsThrough output) fs (fs.makeDirectories directory).2 := by
  obtain ⟨hparent, -⟩ := Path.directory?_eq_some_iff.mp h
  exact (fs.makeDirectories_makes directory).grows.imp fun p hp => hp.of_parent hparent

theorem Prepares.grows (h : fs.Prepares output made) :
    Grows (Path.LeadsThrough output) fs made := by
  rw [Prepares] at h
  split at h
  · subst h
    exact Grows.refl _ made
  · rename_i directory hdirectory
    have hgrows := grows_of_directory hdirectory fs
    rwa [h] at hgrows

/-- `fs` `Prepares` the file, or its directory cannot be made. `makeDirectories` either succeeds or
has an error, and there may be no directory to make. -/
theorem prepares_or_blocked (fs : FileSystem) (output : String) :
    (∃ made, fs.Prepares output made) ∨
      ∃ directory e, Path.directory? output = some directory ∧
        (fs.makeDirectories directory).1 = .error e := by
  rcases hdirectory : Path.directory? output with _ | directory
  · refine Or.inl ⟨fs, ?_⟩
    rw [Prepares, hdirectory]
  · rcases hmake : fs.makeDirectories directory with ⟨e | _, made⟩
    · exact Or.inr ⟨directory, e, rfl, by rw [hmake]⟩
    · refine Or.inl ⟨made, ?_⟩
      rw [Prepares, hdirectory]
      exact hmake

/-- A file system that `Accepts` the file also `Prepares` it. -/
theorem Accepts.prepares (h : fs.Accepts output) : ∃ made, fs.Prepares output made := by
  refine (prepares_or_blocked fs output).resolve_right ?_
  rintro ⟨directory, e, hdirectory, hblocked⟩
  obtain ⟨hparent, hne⟩ := Path.directory?_eq_some_iff.mp hdirectory
  have hpass : fs.Passable directory :=
    ⟨h.plain.above hparent hne, fun p hp => h.clear p (hp.of_parent hparent)⟩
  have hok := (fs.makeDirectories_makes directory).ok fun _ => hpass
  rw [hblocked] at hok
  cases hok

/-- If `fs` `Prepares` the file, its parent is a directory in `made`. `makeDirectories` ends with
the directory in its place, whether it was there before or not. -/
theorem Prepares.isDirectory {parent : String} (h : fs.Prepares output made)
    (hparent : Path.parent? output = some parent) (hne : parent.isEmpty = false) :
    made.isDirectory parent = true := by
  rw [Prepares, Path.directory?_eq_some_iff.mpr ⟨hparent, hne⟩] at h
  have hmakes := fs.makeDirectories_makes parent
  rw [h] at hmakes
  exact hmakes.isDirectory hne rfl

end FileSystem

/-- If the directory cannot be made, `store` fails with `ProgramError.creating` and writes
nothing. -/
theorem run_store_of_blocked {directory : String} {e : SystemError}
    (hdirectory : Path.directory? output = some directory)
    (hmake : (fs.makeDirectories directory).1 = .error e) :
    (store text output : FileState _).run fs =
      (.error (.creating directory e), (fs.makeDirectories directory).2) := by
  rw [Path.directory?] at hdirectory
  rw [store, hdirectory]
  simp only [run_bind, run_makeDirectories, hmake]
  rfl

/-- If `fs` `Prepares` the file, the outcome of `store` is that of `write` in `made`. -/
theorem run_store_of_prepared (h : fs.Prepares output made) :
    (store text output : FileState _).run fs = match made.write output text.toUTF8 with
      | .ok fs' => (.ok (), fs')
      | .error e => (.error (.writing output e), made) := by
  unfold FileSystem.Prepares Path.directory? at h
  rw [store]
  split at h
  · rename_i hnone
    subst h
    rw [hnone]
    simp only [run_bind, run_write]
    cases made.write output text.toUTF8 <;> rfl
  · rename_i directory hsome
    rw [hsome]
    simp only [run_bind, run_makeDirectories, h, run_write]
    cases made.write output text.toUTF8 <;> rfl

/-- If `store` succeeds, the resulting file system `Stores` the text at `output`. The directory was
made before the file, so `Stores` is extended from `made` to `fs` by `Grows`. -/
theorem stores_of_run_store (h : ((store text output : FileState _).run fs).1 = .ok ()) :
    fs.Stores output text.toUTF8 ((store text output : FileState _).run fs).2 := by
  rcases fs.prepares_or_blocked output with ⟨made, hmade⟩ | ⟨directory, e, hdirectory, hblocked⟩
  · rw [run_store_of_prepared hmade] at h ⊢
    split at h
    · rename_i hwritten
      exact (FileSystem.Stores.of_write hwritten).of_grows hmade.grows
    · cases h
  · rw [run_store_of_blocked hdirectory hblocked] at h
    cases h

/-- `store` succeeds if the file system `Accepts` the file. -/
theorem run_store_of_accepts (h : fs.Accepts output) :
    ((store text output : FileState _).run fs).1 = .ok () := by
  obtain ⟨made, hmade⟩ := h.prepares
  obtain ⟨parent, hparent⟩ := h.plain.exists_parent h.named
  obtain ⟨fs', hwrite⟩ := h.write hmade.grows hparent (hmade.isDirectory hparent) text.toUTF8
  rw [run_store_of_prepared hmade, hwrite]

end SwaggerRequests
