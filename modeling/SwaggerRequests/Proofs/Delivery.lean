import SwaggerRequests.Proofs.ArgumentStages
import SwaggerRequests.Proofs.Operations
import SwaggerRequests.Proofs.Storing

/-!
# Delivery

`generateFile c output` writes to a file what `generateModule c` returns, and the file system is
changed only after the module is complete. `Delivers` states what this means for a file system and
every outcome: the same error if there is no module, the stored text and nothing else changed if
there is, and the event `Event.wrote` exactly if the file was written.

* `FileSystem.moduleFor` is the value of `generateModule`, which leaves the files as they are
  (`run_generateModule`).
* `run_generateFile_delivers` proves `Delivers`; its five parts come from the module `Storing` and
  from the log of `generateFromBytes` (`moduleFor_reports`).
* `CommandLine.storesWhatIsPrinted` compares two runs of the command line, one of which has the
  option for the output in addition (`AddsOutput`). The file has what the other run prints.

At the end there is a run on a file system with one document, `petFiles`.
-/

namespace SwaggerRequests

variable {fs : FileSystem} {text output : String}

/-! ## Generating and storing

`generateFile` as a function of `moduleFor`: without a module it stops, with one it continues by
`store`. -/

namespace FileSystem

/-- The value of `generateModule c` in the file system `fs`. -/
def moduleFor (fs : FileSystem) (c : Config) : Logged ProgramError String :=
  match fs.read c.path with
  | .error (.opening e) => .fail (.opening c.path e)
  | .error (.reading e) => .fail (.reading e)
  | .ok bytes => generateFromBytes bytes c.options

end FileSystem

/-- `generateModule` returns `moduleFor` and leaves the files as they are. `Files.read` is the only
operation on files that it uses. -/
theorem run_generateModule (fs : FileSystem) (c : Config) :
    (generateModule c : FileState _).run fs = (fs.moduleFor c, fs) := by
  rw [generateModule, run_bind, run_read, FileSystem.moduleFor]
  rcases fs.read c.path with (e | e) | bytes <;> rfl

/-- Without a module `generateFile` fails with the same error and leaves the files as they are. -/
theorem run_generateFile_of_error {c : Config} {e : ProgramError}
    (h : (fs.moduleFor c).result = .error e) (output : String) :
    (generateFile c output : FileState _).run fs = (⟨(fs.moduleFor c).log, .error e⟩, fs) := by
  rw [generateFile, run_bind, run_generateModule, h]
  rfl

/-- With a module the outcome of `generateFile` is that of `store`, and `Event.wrote` is added to
the log if `store` succeeds. -/
theorem run_generateFile_of_ok {c : Config} (h : (fs.moduleFor c).result = .ok text)
    (output : String) :
    (generateFile c output : FileState _).run fs =
      let stored := (store text output : FileState _).run fs
      (⟨(fs.moduleFor c).log ++ (if stored.1.isOk then [.wrote output] else []), stored.1⟩,
        stored.2) := by
  rw [generateFile, run_bind, run_generateModule, h]
  simp only [run_bind]
  rcases (store text output : FileState _).run fs with ⟨e | _, fs'⟩
  · simp only [Except.isOk, Except.toBool, Bool.false_eq_true, if_false, List.append_nil]
    rfl
  · rfl

/-! ## What is reported

No event before the file is written is an `Event.wrote`. This is a case of `Logged.Reports`, which
the steps of generation preserve. -/

/-- The event is an `Event.wrote`. -/
def Event.isWrote : Event → Bool
  | .wrote _ => true
  | _ => false

/-- An event about a single parameter or class is not an `Event.wrote`. -/
theorem Event.IsDetail.isWrote {event : Event} (h : event.IsDetail) : event.isWrote = false := by
  obtain ⟨name, hevent⟩ := h
  simp only [List.mem_cons, List.not_mem_nil, or_false] at hevent
  rcases hevent with rfl | rfl | rfl | rfl <;> rfl

/-- `requestFunctionsFrom` reports no `Event.wrote`. The induction is on the endpoints. All events
are announcements, warnings or events about parameters. -/
theorem requestFunctionsFrom_reports {document : Document} {useHeaders : Bool}
    {taken : List String} {es : List Endpoint} :
    (requestFunctionsFrom document useHeaders taken es).Reports (·.isWrote = false) := by
  induction es generalizing taken with
  | nil => exact Logged.Reports.nil rfl
  | cons e es ih =>
    refine Logged.Reports.bind ?_ fun f _ => ?_
    · refine Logged.Reports.bind ?_ fun _ _ => ?_
      · exact List.forall_mem_singleton.mpr rfl
      · refine Logged.Reports.bind ?_ fun b _ => ?_
        · exact (bundle_reports e.descriptors useHeaders document).imp fun _ h => h.isWrote
        · refine Logged.Reports.bind ?_ fun _ _ => Logged.Reports.nil rfl
          intro event hevent
          obtain ⟨name, -, rfl⟩ := List.mem_map.mp hevent
          rfl
    · exact Logged.Reports.bind ih fun _ _ => Logged.Reports.nil rfl

/-- `moduleFor` reports no `Event.wrote`. -/
theorem moduleFor_reports (fs : FileSystem) (c : Config) :
    (fs.moduleFor c).Reports (·.isWrote = false) := by
  rw [FileSystem.moduleFor]
  split
  · exact Logged.Reports.nil rfl
  · exact Logged.Reports.nil rfl
  · refine Logged.Reports.bind (Logged.Reports.nil rfl) fun text _ => ?_
    change Logged.Reports _ (generateFromText text c.options)
    refine Logged.Reports.bind (Logged.Reports.nil rfl) fun document _ => ?_
    change Logged.Reports _ (generate document c.options)
    exact Logged.Reports.bind requestFunctionsFrom_reports fun _ _ => Logged.Reports.nil rfl

/-! ## Delivery

The two structures are the specifications of `generateFile` and of the command line. -/

/-- The relation between the generated module and the outcome of writing it to `output`, from the
file system `fs`. -/
structure Delivers (fs : FileSystem) (output : String) (generated : Logged ProgramError String)
    (delivered : Logged ProgramError Unit × FileSystem) : Prop where
  /-- without a module there is the same error, and nothing changes -/
  failed : ∀ e, generated.result = .error e → delivered = (⟨generated.log, .error e⟩, fs)
  /-- after success the text is stored, and nothing else changed -/
  stored : ∀ text, generated.result = .ok text → delivered.1.result = .ok () →
    fs.Stores output text.toUTF8 delivered.2
  /-- if the directory cannot be made, no file changes -/
  blocked : ∀ text directory e, generated.result = .ok text →
    Path.directory? output = some directory → (fs.makeDirectories directory).1 = .error e →
      delivered.1.result = .error (.creating directory e) ∧
        fs.Grows (Path.LeadsThrough output) delivered.2
  /-- the module is delivered if the file system accepts the file -/
  accepted : ∀ text, generated.result = .ok text → fs.Accepts output →
    delivered.1.result = .ok ()
  /-- `Event.wrote` is reported once after success, and not at all after failure -/
  reported : delivered.1.log.filter Event.isWrote =
    if delivered.1.result.isOk then [.wrote output] else []

/-- **Delivery.** `generateFile` `Delivers` the module of its configuration, in every file system.
Each field is one of the lemmas on `generateFile` and `store`. -/
theorem run_generateFile_delivers (fs : FileSystem) (c : Config) (output : String) :
    Delivers fs output (fs.moduleFor c) ((generateFile c output : FileState _).run fs) where
  failed e he := run_generateFile_of_error he output
  stored text htext hstored := by
    rw [run_generateFile_of_ok htext] at hstored ⊢
    exact stores_of_run_store hstored
  blocked text directory e htext hdirectory hblocked := by
    rw [run_generateFile_of_ok htext, run_store_of_blocked hdirectory hblocked]
    exact ⟨rfl, FileSystem.grows_of_directory hdirectory fs⟩
  accepted text htext haccepts := by
    rw [run_generateFile_of_ok htext]
    exact run_store_of_accepts haccepts
  reported := by
    -- only `generateFile` reports `Event.wrote`, and only after the module is stored
    have hsilent : (fs.moduleFor c).log.filter Event.isWrote = [] :=
      List.filter_eq_nil_iff.mpr fun event hevent => by simp [moduleFor_reports fs c event hevent]
    rcases hresult : (fs.moduleFor c).result with e | text
    · rw [run_generateFile_of_error hresult]
      exact hsilent
    · rw [run_generateFile_of_ok hresult, List.filter_append, hsilent]
      dsimp only
      split <;> rfl

namespace CommandLine

/-- The relation between a run of the command line that prints the module and one that writes it to
`output`, from the file system `fs`. -/
structure StoresWhatIsPrinted (fs : FileSystem) (output : String)
    (printing storing : Outcome × FileSystem) : Prop where
  /-- the run that prints leaves the files as they are -/
  untouched : printing.2 = fs
  /-- if the first run fails, the second fails with the same error, and nothing changes -/
  failed : ∀ e, printing.1 = .failed e → storing = (.failed e, fs)
  /-- if the second run succeeds, the file has what the first prints, and the second prints
  nothing -/
  stored : storing.1.code = 0 → printing.1.code = 0 ∧ storing.1.output = "" ∧
    fs.Stores output printing.1.output.toUTF8 storing.2
  /-- the second run succeeds if the first does and the file system accepts the file -/
  accepted : printing.1.code = 0 → fs.Accepts output → storing.1.code = 0

/-- `run` without an output prints `moduleFor`, or fails with its error. -/
theorem run_of_parse {arguments : List String} {a : Arguments} {input : String}
    (h : parse arguments = .ok (a, input)) (houtput : a.output = none) (fs : FileSystem) :
    (run arguments : FileState _).run fs =
      (.ofResult (fs.moduleFor (a.config input)).result, fs) := by
  rw [run, h]
  simp only [houtput, run_bind, run_generateModule]
  rfl

/-- `run` with an output has the outcome of `generateFile`. -/
theorem run_of_parse_writingTo {arguments : List String} {a : Arguments} {input : String}
    (h : parse arguments = .ok (a.writingTo output, input)) (fs : FileSystem) :
    (run arguments : FileState _).run fs =
      let delivered := (generateFile (a.config input) output : FileState _).run fs
      (.ofResult (delivered.1.result.map fun _ => ""), delivered.2) := by
  rw [run, h]
  rfl

/-- `Outcome.ofResult` is `failed` exactly if the result is an error. -/
theorem ofResult_eq_failed_iff {result : Except ProgramError String} {e : ProgramError} :
    Outcome.ofResult result = .failed e ↔ result = .error e := by
  rcases result with e' | text <;> simp [Outcome.ofResult]

/-- `Outcome.ofResult` has the exit code zero exactly if the result is a text. -/
theorem code_ofResult_eq_zero_iff {result : Except ProgramError String} :
    (Outcome.ofResult result).code = 0 ↔ ∃ text, result = .ok text := by
  rcases result with e | text
  · exact ⟨fun h => absurd h (by decide : (1 : UInt32) ≠ 0), nofun⟩
  · exact ⟨fun _ => ⟨text, rfl⟩, fun _ => rfl⟩

/-- **Delivery on the command line.** If `toFile` is `arguments` with an output in addition, then
its run stores what the run of `arguments` prints. Both runs are reduced to `moduleFor` and
`generateFile` for one configuration, to which `run_generateFile_delivers` applies. -/
theorem storesWhatIsPrinted {arguments toFile : List String}
    (h : AddsOutput arguments toFile output) (fs : FileSystem) :
    StoresWhatIsPrinted fs output ((run arguments : FileState _).run fs)
      ((run toFile : FileState _).run fs) := by
  obtain ⟨a, input, hprint, houtput, hstore⟩ := h
  have hdelivers := run_generateFile_delivers fs (a.config input) output
  rw [run_of_parse hprint houtput, run_of_parse_writingTo hstore]
  -- the output is not a part of the configuration, so both runs generate the same module
  generalize fs.moduleFor (a.config input) = generated at hdelivers ⊢
  generalize (generateFile (a.config input) output : FileState _).run fs = delivered at hdelivers ⊢
  refine ⟨rfl, fun e he => ?_, fun hcode => ?_, fun hcode haccepts => ?_⟩
  · rw [hdelivers.failed e (ofResult_eq_failed_iff.mp he)]
    rfl
  · obtain ⟨printed, hprinted⟩ := code_ofResult_eq_zero_iff.mp hcode
    have hdelivered : delivered.1.result = .ok () := by
      rcases hresult : delivered.1.result with e | _
      · rw [hresult] at hprinted
        cases hprinted
      · rfl
    rcases hresult : generated.result with e | text
    · rw [hdelivers.failed e hresult] at hdelivered
      cases hdelivered
    · refine ⟨rfl, ?_, hdelivers.stored text hresult hdelivered⟩
      simp only [hdelivered]
      rfl
  · obtain ⟨text, htext⟩ := code_ofResult_eq_zero_iff.mp hcode
    refine code_ofResult_eq_zero_iff.mpr ⟨"", ?_⟩
    rw [hdelivers.accepted text htext haccepts]
    rfl

end CommandLine

/-! ## A delivery

A run on a file system with one document shows that no part of the specification is empty: a module
is delivered from `pets.yaml`, the missing document `cats.yaml` gives an error, and so does a
directory that is a file. -/

/-- `decodeText` is the inverse of `String.toUTF8`. -/
theorem decodeText_toUTF8 (text : String) : decodeText text.toUTF8 = .ok text := by
  have h : String.fromUTF8? text.toUTF8 = some text := dif_pos text.isValidUTF8
  rw [decodeText, h]

/-- If the input is the UTF-8 encoding of `text`, the result of `moduleFor` is that of
`generateFromText text`. -/
theorem result_moduleFor_of_read {c : Config} (h : fs.read c.path = .ok text.toUTF8) :
    (fs.moduleFor c).result =
      ((generateFromText text c.options).mapError ProgramError.generation).result := by
  rw [FileSystem.moduleFor, h]
  simp only [generateFromBytes, decodeText_toUTF8]
  rfl

/-- A document with one operation. -/
def petsDocument : String := "swagger: '2.0'\npaths: {/pets: {get: {}}}"

/-- The file system with `petsDocument` as the only file of the working directory. -/
def petFiles : FileSystem :=
  FileSystem.fresh.put (Place.home ++ ["pets.yaml"]) (.file petsDocument.toUTF8)

theorem petsDocument_generates : (generateFromText petsDocument .default).result.isOk = true := by
  decide +kernel

/-- What is in `petFiles`: the document, and what `FileSystem.fresh` has. -/
theorem at?_petFiles (p : Place) : petFiles.at? p =
    if p = Place.home ++ ["pets.yaml"] then some (.file petsDocument.toUTF8)
    else FileSystem.fresh.at? p :=
  FileSystem.at?_put _ _ _ p (by decide)

theorem opens_petFiles : petFiles.Opens "pets.yaml" Place.home "pets.yaml" :=
  .of_names (by decide) (by decide) (by decide) (by decide) petFiles

theorem petFiles_have :
    petFiles.at? (Place.home ++ ["pets.yaml"]) = some (.file petsDocument.toUTF8) := by
  rw [at?_petFiles, if_pos rfl]

theorem read_petFiles : petFiles.read "pets.yaml" = .ok petsDocument.toUTF8 :=
  FileSystem.read_of_walk opens_petFiles.wellFormed (opens_petFiles.walk_names (by decide))
    (by decide) petFiles_have

theorem petFiles_generate :
    ∃ text, (petFiles.moduleFor (.ofPath "pets.yaml")).result = .ok text := by
  have hoptions : (Config.ofPath "pets.yaml").options = .default := rfl
  have hok := petsDocument_generates
  rw [result_moduleFor_of_read (c := .ofPath "pets.yaml") read_petFiles, hoptions]
  generalize generateFromText petsDocument .default = generated at hok ⊢
  rcases generated with ⟨log, e | text⟩
  · cases hok
  · exact ⟨text, rfl⟩

/-- The document `cats.yaml` cannot be opened in `petFiles`. -/
theorem petFiles_lack : petFiles.moduleFor (.ofPath "cats.yaml") =
    ⟨[], .error (.opening "cats.yaml" .notFound)⟩ := by
  have hopens : petFiles.Opens "cats.yaml" Place.home "cats.yaml" :=
    .of_names (by decide) (by decide) (by decide) (by decide) petFiles
  have hnone : petFiles.at? (Place.home ++ ["cats.yaml"]) = none := by
    rw [at?_petFiles, if_neg (by decide)]
    rfl
  have hread : petFiles.read "cats.yaml" = .error (.opening .notFound) := by
    rw [FileSystem.read,
      FileSystem.find_of_walk hopens.wellFormed (hopens.walk_names (by decide)), hnone]
  rw [FileSystem.moduleFor]
  simp only [Config.ofPath, hread]
  rfl

/-- In `petFiles` no directory `pets.yaml` can be made, since there is a file. -/
theorem petFiles_block : (petFiles.makeDirectories "pets.yaml").1 = .error .exists := by
  have hmake : petFiles.makeDirectory "pets.yaml" = .error .exists := by
    rw [FileSystem.makeDirectory_of_opens opens_petFiles (by decide), petFiles_have]
  have hno : petFiles.isDirectory "pets.yaml" = false := by
    rw [FileSystem.isDirectory, FileSystem.find_of_walk opens_petFiles.wellFormed
      (opens_petFiles.walk_names (by decide)), petFiles_have]
    rfl
  rw [FileSystem.makeDirectories, FileSystem.makeDirectoriesWithin, hmake]
  simp only [hno]
  rfl

/-- `petFiles` `Accepts` the module in a directory that is made for it. -/
theorem petFiles_accepts : petFiles.Accepts "api/pets.ts" where
  plain := ⟨by decide, by decide, by decide⟩
  named := by decide
  noSlash := by decide
  clear p hp := by
    obtain ⟨before, hbefore, rfl⟩ := hp
    have hnames : (Path.names "api/pets.ts").dropLast = ["api"] := by decide
    rw [hnames] at hbefore
    intro content hfile
    rcases List.prefix_cons_iff.mp hbefore with rfl | ⟨more, rfl, hmore⟩
    · rw [at?_petFiles, if_neg (by decide)] at hfile
      cases hfile
    · obtain rfl := List.prefix_nil.mp hmore
      rw [at?_petFiles, if_neg (by decide)] at hfile
      cases hfile
  free hdirectory := by
    rw [at?_petFiles, if_neg (by decide)] at hdirectory
    cases hdirectory

theorem petsArguments_addOutput :
    CommandLine.AddsOutput ["pets.yaml"] ["pets.yaml", "-o", "api/pets.ts"] "api/pets.ts" := by
  have hadds : CommandLine.AddsOutput (["pets.yaml"] ++ [])
      (["pets.yaml"] ++ "-o" :: "api/pets.ts" :: []) "api/pets.ts" :=
    CommandLine.addsOutput_of_option rfl rfl rfl (by decide) (by decide)
  exact hadds

/-- **Delivery.** For every file system `fs`, `generateModule` leaves `fs` as it is, and
`generateFile` `Delivers` the module that `generateModule` returns:

* if there is no module, `generateFile` fails with the same error and the same log and changes
  nothing;
* if the directory of `output` cannot be made, no file is changed;
* after success `output` has the text of the module, and only directories on its way are new
  besides;
* `Event.wrote` is reported once after success and not at all after failure.

On the command line, `arguments` with an output in addition (`AddsOutput`) writes to `output` what
`arguments` alone prints (`StoresWhatIsPrinted`). -/
theorem generateFile_delivers (fs : FileSystem) (output : String) :
    (∀ c : Config, ∃ generated,
      (generateModule c : FileState _).run fs = (generated, fs) ∧
        Delivers fs output generated ((generateFile c output : FileState _).run fs)) ∧
      ∀ arguments toFile, CommandLine.AddsOutput arguments toFile output →
        CommandLine.StoresWhatIsPrinted fs output
          ((CommandLine.run arguments : FileState _).run fs)
          ((CommandLine.run toFile : FileState _).run fs) := by
  refine ⟨fun c => ⟨fs.moduleFor c, run_generateModule fs c, ?_⟩, fun arguments toFile h => ?_⟩
  · exact run_generateFile_delivers fs c output
  · exact CommandLine.storesWhatIsPrinted h fs

/-- In `petFiles` the module of `pets.yaml` is delivered to `api/pets.ts`, `cats.yaml` gives an
error, and `pets.yaml/pets.ts` cannot be written because its directory is a file. -/
theorem generateFile_delivers_petFiles :
    (∃ text,
      ((generateModule (.ofPath "pets.yaml") : FileState _).run petFiles).1.result = .ok text ∧
      ((generateFile (.ofPath "pets.yaml") "api/pets.ts" : FileState _).run petFiles).1.result =
        .ok () ∧
      petFiles.Stores "api/pets.ts" text.toUTF8
        ((generateFile (.ofPath "pets.yaml") "api/pets.ts" : FileState _).run petFiles).2) ∧
    (generateFile (.ofPath "cats.yaml") "api/pets.ts" : FileState _).run petFiles =
      (⟨[], .error (.opening "cats.yaml" .notFound)⟩, petFiles) ∧
    ((generateFile (.ofPath "pets.yaml") "pets.yaml/pets.ts" : FileState _).run petFiles).1.result =
      .error (.creating "pets.yaml" .exists) ∧
    CommandLine.AddsOutput ["pets.yaml"] ["pets.yaml", "-o", "api/pets.ts"] "api/pets.ts" ∧
    CommandLine.StoresWhatIsPrinted petFiles "api/pets.ts"
      ((CommandLine.run ["pets.yaml"] : FileState _).run petFiles)
      ((CommandLine.run ["pets.yaml", "-o", "api/pets.ts"] : FileState _).run petFiles) := by
  obtain ⟨text, htext⟩ := petFiles_generate
  have hpets : ((generateModule (.ofPath "pets.yaml") : FileState _).run petFiles).1.result =
      .ok text := by rw [run_generateModule, htext]
  have hcats : ((generateModule (.ofPath "cats.yaml") : FileState _).run petFiles).1 =
      ⟨[], .error (.opening "cats.yaml" .notFound)⟩ := by rw [run_generateModule, petFiles_lack]
  obtain ⟨hdelivers, hprints⟩ := generateFile_delivers petFiles "api/pets.ts"
  refine ⟨⟨text, hpets, ?_⟩, ?_, ?_, petsArguments_addOutput, hprints _ _ petsArguments_addOutput⟩
  · obtain ⟨generated, hrun, hpet⟩ := hdelivers (.ofPath "pets.yaml")
    rw [hrun] at hpets
    have hstored := hpet.accepted text hpets petFiles_accepts
    exact ⟨hstored, hpet.stored text hpets hstored⟩
  · obtain ⟨generated, hrun, hcat⟩ := hdelivers (.ofPath "cats.yaml")
    rw [hrun] at hcats
    obtain rfl : generated = _ := hcats
    exact hcat.failed _ rfl
  · obtain ⟨generated, hrun, hpet⟩ :=
      (generateFile_delivers petFiles "pets.yaml/pets.ts").1 (.ofPath "pets.yaml")
    rw [hrun] at hpets
    exact (hpet.blocked text _ _ hpets (by decide) petFiles_block).1

end SwaggerRequests
