import LexScan.Proofs.ReportOfLines
import LexScan.Proofs.WrittenLog

/-!
# Whole runs

What a run over files prints and how it ends, told from the files alone: the files are
those that fit the patterns, pattern by pattern; each of them comes to one report or one
line that says why there is none; the lines are printed before the reports, and one line is
enough to make the run end with a failure. No scan ever adds to the failures, since every
text has a report.
-/

namespace LexScan

namespace Styled

/-! ## Colours -/

/-- What stands in a colour code: numbers and semicolons between them. -/
def isParameter (c : Char) : Bool := c.isDigit || c = ';'

/-- A text, and the same text with colour codes between its characters; there are none in
the mode without colours. -/
inductive Coloured (mode : ColorMode) : Text → Text → Prop where
  | nil : Coloured mode [] []
  | char {t shown : Text} (c : Char) (h : Coloured mode t shown) :
      Coloured mode (c :: t) (c :: shown)
  | code {parameters t shown : Text} (hmode : mode ≠ .none)
      (hparameters : parameters.all isParameter = true)
      (h : Coloured mode t shown) : Coloured mode t (control parameters ++ shown)

namespace Coloured

variable {mode : ColorMode} {t shown u more : Text}

theorem append (h : Coloured mode t shown) (hmore : Coloured mode u more) :
    Coloured mode (t ++ u) (shown ++ more) := by
  induction h with
  | nil => exact hmore
  | char c _ ih => exact .char c ih
  | code hmode hparameters _ ih =>
    rw [List.append_assoc]
    exact .code hmode hparameters ih

theorem same (mode : ColorMode) (t : Text) : Coloured mode t t := by
  induction t with
  | nil => exact .nil
  | cons c t ih => exact .char c ih

theorem eq_of_none (h : Coloured .none t shown) : shown = t := by
  induction h with
  | nil => rfl
  | char c _ ih => rw [ih]
  | code hmode _ _ _ => exact absurd rfl hmode

theorem only_code {parameters : Text} (hmode : mode ≠ .none)
    (hparameters : parameters.all isParameter = true) :
    Coloured mode [] (control parameters) := by
  have h := code hmode hparameters (.nil : Coloured mode [] [])
  rwa [List.append_nil] at h

end Coloured

theorem coloured_renderPiece (mode : ColorMode) (piece : Piece) :
    Coloured mode (plain [piece]) (renderPiece mode piece) := by
  cases piece with
  | text t =>
    have h := Coloured.same mode t
    simpa [plain, renderPiece] using h
  | color role =>
    cases mode with
    | none => exact .nil
    | eight => cases role <;> exact Coloured.only_code (by decide) (by decide)
    | twoHundredFiftySix => cases role <;> exact Coloured.only_code (by decide) (by decide)
  | reset =>
    cases mode with
    | none => exact .nil
    | eight => exact Coloured.only_code (by decide) (by decide)
    | twoHundredFiftySix => exact Coloured.only_code (by decide) (by decide)

/-- What is sent to a terminal is the plain text with colour codes in it. -/
theorem coloured_render (mode : ColorMode) (pieces : Styled) :
    Coloured mode (plain pieces) (render mode pieces) := by
  induction pieces with
  | nil => exact .nil
  | cons piece pieces ih =>
    rw [plain_cons]
    exact (coloured_renderPiece mode piece).append ih

end Styled

namespace Program

open CommandLine (Arguments)

variable {tables : Encoding.Tables} {tree : FileTree} {w : World} {job : Job} {path : Text}

/-! ## The files -/

/-- The regular files that fit a written pattern; an ill-formed one fits none. -/
def matching (tree : FileTree) (pattern : Text) : List Text :=
  match Glob.parse pattern with
  | .ok g => ((g.expand tree).filterMap Except.toOption).filter tree.isFile
  | .error _ => []

theorem value_keepFiles (tree : FileTree) (pattern : Text) (found : Glob.Findings Text) :
    (keepFiles tree pattern found).value =
      (found.filterMap Except.toOption).filter tree.isFile := by
  induction found with
  | nil => rfl
  | cons item found ih =>
    cases item with
    | ok path =>
      change _ = (path :: found.filterMap Except.toOption).filter tree.isFile
      rw [keepFiles]
      split
      · next hfile => rw [Logged.value_map, ih, List.filter_cons_of_pos hfile]
      · next hfile => rw [Logged.value_bind, ih, List.filter_cons_of_neg hfile]
    | error f => exact ih

theorem value_discoverOne (tree : FileTree) (pattern : Text) :
    (discoverOne tree pattern).value = matching tree pattern := by
  rw [discoverOne, Logged.value_bind, matching]
  cases Glob.parse pattern with
  | error e => rfl
  | ok g => exact value_keepFiles tree pattern _

theorem value_discover (tree : FileTree) (patterns : List Text) :
    (discover tree patterns).value = patterns.flatMap (matching tree) := by
  induction patterns with
  | nil => rfl
  | cons pattern patterns ih =>
    rw [discover, Logged.value_bind, Logged.value_map, ih, value_discoverOne,
      List.flatMap_cons]

theorem isFile_of_mem_discover {patterns : List Text}
    (h : path ∈ (discover tree patterns).value) : tree.isFile path = true := by
  rw [value_discover, List.mem_flatMap] at h
  obtain ⟨pattern, -, hpath⟩ := h
  rw [matching] at hpath
  split at hpath
  · exact (List.mem_filter.mp hpath).2
  · cases hpath

/-! ## What a file comes to -/

/-- A file comes to the report on its text, or to the line that tells why it has none. -/
inductive Entry (tables : Encoding.Tables) (tree : FileTree) (job : Job) (path : Text) :
    Except Text Report → Prop where
  | unreadable {cause : FileError} (hread : tree.read path = .error cause) :
      Entry tables tree job path
        (.error (path ++ [':', ' '] ++ (SourceError.io cause).message))
  | undecodable {bytes : Bytes} {e : SourceError} (hread : tree.read path = .ok bytes)
      (hdecode : (Source.decode tables bytes job.encoding).value = .error e) :
      Entry tables tree job path (.error (path ++ [':', ' '] ++ e.message))
  | scanned {bytes : Bytes} {text : Text} {report : Report}
      (hread : tree.read path = .ok bytes)
      (hdecode : (Source.decode tables bytes job.encoding).value = .ok text)
      (hscan : (Report.attempt ⟨path, text, job.lineBreaks⟩).value = .ok report) :
      Entry tables tree job path (.ok report)

theorem exists_attempt (source : Source) :
    ∃ report, (Report.attempt source).value = .ok report := by
  obtain ⟨pieces, hpieces⟩ := source.mode.exists_lines source.text
  obtain ⟨rows, hrows⟩ := Report.exists_rows source.mode pieces
  exact ⟨_, Report.value_attempt hpieces hrows⟩

theorem exists_entry (tables : Encoding.Tables) (tree : FileTree) (job : Job) (path : Text) :
    ∃ result, Entry tables tree job path result := by
  cases hread : tree.read path with
  | error cause => exact ⟨_, .unreadable hread⟩
  | ok bytes =>
    cases hdecode : (Source.decode tables bytes job.encoding).value with
    | error e => exact ⟨_, .undecodable hread hdecode⟩
    | ok text =>
      obtain ⟨report, hscan⟩ := exists_attempt ⟨path, text, job.lineBreaks⟩
      exact ⟨_, .scanned hread hdecode hscan⟩

variable {before : List Log.Record}

theorem Entry.value_scanFile {result : Except Text Report}
    (h : Entry tables (w.after (before ++ [Source.opening path])) job path result) :
    (scanFile tables w job before path).value.mapError Failure.message = result := by
  cases h with
  | unreadable hread =>
    simp [scanFile, Source.load, hread, Except.mapError, Failure.message, FileFault.message]
  | undecodable hread hdecode =>
    simp [scanFile, Source.load, hread, hdecode, Except.mapError, Failure.message,
      FileFault.message]
  | scanned hread hdecode hscan =>
    simp [scanFile, Source.load, Source.withMode, hread, hdecode, hscan, Except.mapError]

theorem entry_iff {result : Except Text Report} :
    Entry tables (w.after (before ++ [Source.opening path])) job path result ↔
      result = (scanFile tables w job before path).value.mapError Failure.message := by
  constructor
  · intro h
    exact h.value_scanFile.symm
  · rintro rfl
    obtain ⟨result, h⟩ :=
      exists_entry tables (w.after (before ++ [Source.opening path])) job path
    rwa [h.value_scanFile]

section Scan

variable (tables : Encoding.Tables) (w : World) (job : Job)

/-- What the files of a run come to, one by one. -/
def entries (before : List Log.Record) (paths : List Text) : List (Except Text Report) :=
  (scanFiles tables w job before paths).value.map (·.mapError Failure.message)

/-- The files as they are when each of some paths is read. -/
def readings : (before : List Log.Record) → List Text → List FileTree
  | _, [] => []
  | before, path :: paths =>
      w.after (before ++ [Source.opening path])
        :: readings (before ++ (scanFile tables w job before path).log) paths

theorem length_readings (before : List Log.Record) (paths : List Text) :
    (readings tables w job before paths).length = paths.length := by
  induction paths generalizing before with
  | nil => rfl
  | cons path paths ih => exact congrArg (· + 1) (ih _)

theorem opening_prefix_log (before : List Log.Record) (path : Text) :
    [Source.opening path] <+: (scanFile tables w job before path).log := by
  rw [scanFile, Logged.log_bind, Source.load, Logged.log_bind, Logged.log_tell,
    List.append_assoc]
  exact List.prefix_append _ _

/-- By the time a file is read, some of what is logged in all has been logged. -/
theorem exists_of_mem_readings (before : List Log.Record) (paths : List Text)
    (h : tree ∈ readings tables w job before paths) :
    ∃ records, records <+: before ++ (scanFiles tables w job before paths).log ∧
      tree = w.after records := by
  induction paths generalizing before with
  | nil => cases h
  | cons path paths ih =>
    rw [scanFiles, Logged.log_bind, Logged.log_listen, Logged.value_listen, Logged.log_map,
      ← List.append_assoc]
    rcases List.mem_cons.mp h with rfl | h
    · refine ⟨_, ?_, rfl⟩
      have hopening := opening_prefix_log tables w job before path
      exact ((List.prefix_append_right_inj before).mpr hopening).trans (List.prefix_append _ _)
    · exact ih _ h

theorem forall₂_entry_iff {paths : List Text} {results : List (Except Text Report)} :
    List.Forall₂ (fun file result => Entry tables file.2 job file.1 result)
      (paths.zip (readings tables w job before paths)) results ↔
      results = entries tables w job before paths := by
  induction paths generalizing results before with
  | nil =>
    rw [readings, List.zip_nil_left, List.forall₂_nil_left_iff]
    rfl
  | cons path paths ih =>
    have hentries : entries tables w job before (path :: paths) =
        (scanFile tables w job before path).value.mapError Failure.message
          :: entries tables w job (before ++ (scanFile tables w job before path).log) paths := rfl
    rw [readings, List.zip_cons_cons, hentries]
    constructor
    · intro h
      cases h with
      | cons hpath hpaths => rw [entry_iff.mp hpath, ih.mp hpaths]
    · rintro rfl
      exact .cons (entry_iff.mpr rfl) (ih.mpr rfl)

end Scan

/-! ## What is printed -/

/-- The lines that tell why there are no reports. -/
def errorLines (results : List (Except Text Report)) : Text :=
  results.flatMap fun
    | .ok _ => []
    | .error line => line ++ ['\n']

/-- The lines that tell failures, then the reports in the form asked for. -/
def told (json : Bool) (results : List (Except Text Report)) : Text :=
  let reports := results.filterMap Except.toOption
  errorLines results ++
    if json then (Report.listToJson reports).render ++ ['\n']
    else Styled.plain (Report.print reports)

theorem plain_failureLine (message : Text) :
    Styled.plain (failureLine message) = message ++ ['\n'] := by
  simp [Styled.plain, failureLine]

theorem filterMap_toOption_mapError (results : List (Except Failure Report)) :
    (results.map (·.mapError Failure.message)).filterMap Except.toOption = reports results := by
  induction results with
  | nil => rfl
  | cons result results ih =>
    cases result with
    | ok report => exact congrArg (report :: ·) ih
    | error f => exact ih

theorem errorLines_mapError (results : List (Except Failure Report)) :
    errorLines (results.map (·.mapError Failure.message)) =
      Styled.plain ((failures results).flatMap fun f => failureLine f.message) := by
  induction results with
  | nil => rfl
  | cons result results ih =>
    cases result with
    | ok report => exact ih
    | error f =>
      change f.message ++ ['\n'] ++ errorLines (results.map (·.mapError Failure.message)) =
        Styled.plain (failureLine f.message ++
          (failures results).flatMap fun f => failureLine f.message)
      rw [Styled.plain_append, plain_failureLine, ih]

theorem isEmpty_failures (results : List (Except Failure Report)) :
    (failures results).isEmpty =
      (results.map (·.mapError Failure.message)).all Except.isOk := by
  induction results with
  | nil => rfl
  | cons result results ih =>
    cases result with
    | ok report => exact ih
    | error f => rfl

theorem plain_summary (json : Bool) (results : List (Except Failure Report)) :
    Styled.plain (summary json results) =
      told json (results.map (·.mapError Failure.message)) := by
  rw [told, summary, Styled.plain_append, errorLines_mapError, filterMap_toOption_mapError]
  cases json with
  | false => rfl
  | true => simp [Styled.plain]

/-! ## Runs -/

/-- What a run goes on with once it has opened its log, and the line that tells if it could
not. -/
inductive LogOpened (s : Surroundings) (a : Arguments) : World → Text → Prop where
  | opened {tree : FileTree} {place? : Option (List Text)}
      (h : s.files.create (logFile s a) = .ok (tree, place?)) :
      LogOpened s a ⟨tree, place?, logFilter s a, s.fileLine⟩ []
  | failed {e : FileError} (h : s.files.create (logFile s a) = .error e) :
      LogOpened s a ⟨s.files, none, .off, s.fileLine⟩
        ("Error setting up logging: ".toList ++ e.message ++ ['\n'])

variable {s : Surroundings}

theorem logOpened_world (s : Surroundings) (a : Arguments) :
    LogOpened s a (world s a) (Styled.plain (logNotice s a)) := by
  rw [world, logNotice, openLog]
  cases hcreate : s.files.create (logFile s a) with
  | ok created => exact .opened hcreate
  | error e =>
    have hnotice := plain_failureLine ("Error setting up logging: ".toList ++ e.message)
    simp only [bind, Except.bind, hnotice]
    exact .failed hcreate

theorem run_of_check (hcheck : check s = .ok job) : run s = runJob s job := by
  rw [run, hcheck]

theorem ending_usage {columns : Nat} (hcolumns : s.columns = some columns)
    (t : CommandLine.Template) (code : Nat) : (usage s t code).value.1 = .exit code := by
  rw [usage, Logged.value_bind, hcolumns]
  rfl

/-- What is done when neither help nor the version is asked for. -/
theorem perform_of_looking (hhelp : job.arguments.has helpOption = false)
    (hversion : job.arguments.has versionOption = false) :
    perform s w job = (do
      let (files, made) ← (discover w.tree job.arguments.rest).listen
      if files.isEmpty then
        Logged.error "No input files".toList
        usage s template 1
      else
        let results ← scanFiles s.tables w job made files
        pure (.exit (if (failures results).isEmpty then 0 else 4),
          summary (job.arguments.has jsonOption) results)) := by
  rw [perform, hhelp, hversion, if_neg Bool.false_ne_true, if_neg Bool.false_ne_true]

theorem discovered_of_check (hcheck : check s = .ok job)
    (hhelp : job.arguments.has helpOption = false)
    (hversion : job.arguments.has versionOption = false) :
    discovered s =
      (discover (world s job.arguments).tree job.arguments.rest).value := by
  rw [discovered, hcheck]
  dsimp only
  rw [hhelp, hversion]
  rfl

/-- What a run that looks for files comes to if it finds some. -/
theorem perform_of_found (hhelp : job.arguments.has helpOption = false)
    (hversion : job.arguments.has versionOption = false)
    (hfound : (discover w.tree job.arguments.rest).value ≠ []) :
    let found := discover w.tree job.arguments.rest
    let scanned := scanFiles s.tables w job found.log found.value
    (perform s w job).value =
      (.exit (if (entries s.tables w job found.log found.value).all Except.isOk then 0 else 4),
        summary (job.arguments.has jsonOption) scanned.value) ∧
      (perform s w job).log = found.log ++ scanned.log := by
  intro found scanned
  have hempty : found.value.isEmpty = false := by
    rw [Bool.eq_false_iff, ne_eq, List.isEmpty_iff]
    exact hfound
  rw [perform_of_looking hhelp hversion, Logged.value_bind, Logged.log_bind, Logged.value_listen,
    Logged.log_listen]
  dsimp only
  rw [hempty, if_neg Bool.false_ne_true, Logged.value_bind, Logged.log_bind,
    Logged.value_pure, Logged.log_pure, List.append_nil, isEmpty_failures]
  exact ⟨rfl, rfl⟩

/-- What a run that looks for files comes to if it finds none. -/
theorem value_perform_of_none (hhelp : job.arguments.has helpOption = false)
    (hversion : job.arguments.has versionOption = false)
    (hfound : (discover w.tree job.arguments.rest).value = []) :
    (perform s w job).value = (usage s template 1).value := by
  rw [perform_of_looking hhelp hversion, Logged.value_bind, Logged.value_listen, hfound]
  rfl

/-- A run over files, told from the files: those that fit the patterns are found, pattern
by pattern, and the same ones are found whatever the log holds. If there are none, the run
ends with 1. Otherwise each of them comes to one line or one report on what it holds when it
is read: what it held before the run, or, if it is the log itself, the records made by then.
The output is the lines and then the reports, with colour codes in it, and the run ends with
0 if there are no lines and with 4 if there are some. -/
theorem run_over_files (hcheck : check s = .ok job)
    (hhelp : job.arguments.has helpOption = false)
    (hversion : job.arguments.has versionOption = false) :
    ∃ w notice, LogOpened s job.arguments w notice ∧
      let files := job.arguments.rest.flatMap (matching w.tree)
      (∀ records, (discover (w.written records) job.arguments.rest).value = files) ∧
      (files = [] → ∀ columns, s.columns = some columns → (run s).ending = .exit 1) ∧
      (files ≠ [] → ∃ trees : List FileTree, trees.length = files.length ∧
        (∀ tree ∈ trees, ∃ records, records <+: (run s).log ∧ tree = w.written records) ∧
        (∀ path ∈ files, ¬ w.LeadsToLog path →
          ∀ tree ∈ trees, tree.read path = s.files.read path) ∧
        ∃ results,
          (∀ rs, List.Forall₂ (fun file result => Entry s.tables file.2 job file.1 result)
            (files.zip trees) rs ↔ rs = results) ∧
          (run s).ending = .exit (if results.all Except.isOk then 0 else 4) ∧
          Styled.Coloured job.colorMode
            (notice ++ told (job.arguments.has jsonOption) results) (run s).outputText) := by
  have hover := over_world s job.arguments
  refine ⟨world s job.arguments, _, logOpened_world s job.arguments, ?_⟩
  rw [run_of_check hcheck, runJob]
  generalize world s job.arguments = w at hover
  dsimp only
  rw [← value_discover]
  refine ⟨fun records => congrArg Logged.value (hover.discover_written records _), ?_, ?_⟩
  · intro hfound columns hcolumns
    rw [value_perform_of_none hhelp hversion hfound]
    exact ending_usage hcolumns template 1
  · intro hfound
    obtain ⟨hvalue, hlog⟩ := perform_of_found (s := s) hhelp hversion hfound
    have htrees : ∀ tree ∈ readings s.tables w job (discover w.tree job.arguments.rest).log
        (discover w.tree job.arguments.rest).value,
        ∃ records, records <+: w.kept (perform s w job).log ∧ tree = w.written records := by
      intro tree htree
      obtain ⟨records, hbegins, rfl⟩ := exists_of_mem_readings _ _ _ _ _ htree
      refine ⟨w.kept records, ?_, rfl⟩
      rw [hlog]
      exact hbegins.filter _
    refine ⟨_, length_readings _ _ _ _ _, htrees, ?_, _, fun rs => forall₂_entry_iff _ _ _,
      ?_, ?_⟩
    · intro path hpath hleads tree htree
      obtain ⟨records, -, rfl⟩ := htrees tree htree
      exact hover.read_written (isFile_of_mem_discover hpath) hleads records
    · rw [hvalue]
    · have hshown := Styled.coloured_render job.colorMode
        (logNotice s job.arguments ++ (perform s w job).value.2)
      rw [hvalue, Styled.plain_append, plain_summary] at hshown
      rw [hvalue]
      exact hshown

/-- A pattern that is none, a file that is no text and one that must not be read leave the
file in another directory its report. -/
theorem run_over_files_behind_failures :
    let s : Surroundings :=
      { command := ["textscan", "-j", "[", "a", "../d/b", "c"].map String.toList
        environment := []
        files :=
          { entries := [
              (["w".toList, "a".toList], .file [0xFF]),
              (["w".toList, "c".toList],
                ⟨.file [0x31], { reading := some .permissionDenied }⟩),
              (["d".toList, "b".toList], .file [])]
            here := ["w".toList] }
        isTerminal := false, columns := none, colors := none
        fileLine := fun _ r => (r.display ++ ['\n']).map fun c => c.toNat.toUInt8 }
    (run s).ending = .exit 4 ∧ (run s).outputText =
      "a: Could not decode [255] as valid UTF-8 at 1:1\n".toList
        ++ "c: IO error: Permission denied (os error 13)\n".toList
        ++ "[\x7b\"blankLines\":0,\"comments\":0,\"lines\":0,".toList
        ++ "\"longestLine\":0,\"name\":\"../d/b\",\"numbers\":0,".toList
        ++ "\"strings\":0,\"symbols\":0,\"words\":0\x7d]\n".toList := by
  intro s
  have hcheck : check s = .ok
      ⟨⟨[(jsonOption, [])], ["[".toList, "a".toList, "../d/b".toList, "c".toList]⟩,
        .none, .utf8, .ascii⟩ := by decide +kernel
  obtain ⟨w, notice, hopened, -, -, hrun⟩ :=
    run_over_files hcheck (by decide +kernel) (by decide +kernel)
  have hcreate : s.files.create defaultLogFile = .ok
      (s.files.write ["w".toList, defaultLogFile] [], some ["w".toList, defaultLogFile]) := by
    decide +kernel
  cases hopened with
  | failed h => cases h.symm.trans hcreate
  | opened h =>
    cases h.symm.trans hcreate
    have hfiles : ["[".toList, "a".toList, "../d/b".toList, "c".toList].flatMap
        (matching (s.files.write ["w".toList, defaultLogFile] [])) =
      ["a".toList, "../d/b".toList, "c".toList] := by decide +kernel
    rw [hfiles] at hrun
    obtain ⟨trees, hlength, -, hread, results, hall, hending, hshown⟩ := hrun (by simp)
    obtain ⟨ta, tb, tc, rfl⟩ := List.length_eq_three.mp hlength
    simp only [List.forall_mem_cons] at hread
    obtain ⟨hreada, hreadb, hreadc, -⟩ := hread
    -- None of the three paths leads to the log.
    have hfirst := (hreada (by rintro ⟨_, ⟨⟩, h⟩; exact absurd h (by decide +kernel))).1
    have hsecond := (hreadb (by rintro ⟨_, ⟨⟩, h⟩; exact absurd h (by decide +kernel))).2.1
    have hthird := (hreadc (by rintro ⟨_, ⟨⟩, h⟩; exact absurd h (by decide +kernel))).2.2.1
    have ha : s.files.read "a".toList = .ok [0xFF] := by decide +kernel
    have hb : s.files.read "../d/b".toList = .ok [] := by decide +kernel
    have hc : s.files.read "c".toList = .error .permissionDenied := by decide +kernel
    have hempty := Report.value_attempt (s := ⟨"../d/b".toList, [], .ascii⟩) .done .nil
    obtain rfl := (hall _).mp (.cons (.undecodable (hfirst.trans ha) rfl)
      (.cons (.scanned (hsecond.trans hb) rfl hempty)
        (.cons (.unreadable (hthird.trans hc)) .nil)))
    refine ⟨hending, hshown.eq_of_none.trans ?_⟩
    dsimp only
    decide +kernel

end Program

end LexScan
