import LexScan.Proofs.RefusedArguments

/-!
# Settings for diagnostics

Two runs over the same files that differ in how much is logged and in how colours are chosen
come to the same result: they end alike, create the same files and write the same texts. A
run can read what it has logged only if its log is among the files that it finds; so this is
told of runs that do not find their log. Lines of the log can differ in any way, for they
tell the time.
-/

namespace LexScan.Program

open CommandLine (Arguments)

/-! ## What two runs share -/

/-- Arguments that differ at most in the log level and the mode of colours. -/
structure SameOptions (a a' : Arguments) : Prop where
  value : ∀ name, name ≠ logLevelOption → name ≠ colorModeOption → a.value? name = a'.value? name
  rest : a.rest = a'.rest

/-- Two runs of the same program over the same files and on terminals of the same width, whose
arguments and environments differ at most in the log level and in what decides about
colours. -/
structure SameRequest (s s' : Surroundings) (a a' : Arguments) : Prop where
  parsed : template.parse s.arguments = .ok a
  parsed' : template.parse s'.arguments = .ok a'
  options : SameOptions a a'
  colorMode : ColorModeKnown a
  colorMode' : ColorModeKnown a'
  settings : ∀ name, name ≠ logLevelVariable → name ≠ colorModeVariable →
    s.setting? name = s'.setting? name
  programName : s.programName = s'.programName
  files : s.files = s'.files
  columns : s.columns = s'.columns
  tables : s.tables = s'.tables

/-- Jobs that differ at most in the log level and the mode of colours. -/
structure SameJob (job job' : Job) : Prop where
  options : SameOptions job.arguments job'.arguments
  encoding : job.encoding = job'.encoding
  lineBreaks : job.lineBreaks = job'.lineBreaks

variable {s s' : Surroundings} {a a' : Arguments} {job job' : Job} {w w' : World}

theorem SameOptions.has_eq (h : SameOptions a a') (name : Text)
    (hlevel : name ≠ logLevelOption) (hcolor : name ≠ colorModeOption) :
    a.has name = a'.has name := by
  rw [Arguments.has, Arguments.has, h.value name hlevel hcolor]

/-- Both runs are refused for the same reason, or both get the same job. -/
theorem SameRequest.check_cases (h : SameRequest s s' a a') :
    (∃ refusal, check s = .error refusal ∧ check s' = .error refusal) ∨
      ∃ job job', check s = .ok job ∧ check s' = .ok job' ∧ job.arguments = a ∧
        job'.arguments = a' ∧ SameJob job job' := by
  obtain ⟨mode, hmode⟩ := chosenColorMode_of_known s h.colorMode
  obtain ⟨mode', hmode'⟩ := chosenColorMode_of_known s' h.colorMode'
  have hencoding : chosenEncoding a = chosenEncoding a' := by
    rw [chosenEncoding, chosenEncoding, h.options.value encodingOption (by decide) (by decide)]
  have hbreaks : chosenLineBreaks a = chosenLineBreaks a' := by
    rw [chosenLineBreaks, chosenLineBreaks,
      h.options.value lineBreaksOption (by decide) (by decide)]
  rw [check_of_parse h.parsed, check_of_parse h.parsed', hmode, hmode', hencoding, hbreaks]
  cases chosenEncoding a' with
  | error refusal => exact .inl ⟨refusal, rfl, rfl⟩
  | ok encoding =>
    cases chosenLineBreaks a' with
    | error refusal => exact .inl ⟨refusal, rfl, rfl⟩
    | ok lineBreaks =>
      exact .inr ⟨⟨a, mode, encoding, lineBreaks⟩, ⟨a', mode', encoding, lineBreaks⟩, rfl, rfl,
        rfl, rfl, h.options, rfl, rfl⟩

theorem SameRequest.logFile_eq (h : SameRequest s s' a a') : logFile s a = logFile s' a' := by
  rw [logFile, logFile, h.options.value logFileOption (by decide) (by decide),
    h.settings logFileVariable (by decide) (by decide)]

/-! ## What is done -/

/-- A path gives the same bytes in two worlds, whatever has been logged in them. -/
def ReadsAlike (w w' : World) (path : Text) : Prop :=
  ∀ records records', (w.written records).read path = (w'.written records').read path

theorem scanFile_congr {path : Text} (tables : Encoding.Tables) (hjob : SameJob job job')
    (hread : ReadsAlike w w' path) (before before' : List Log.Record) :
    scanFile tables w job before path = scanFile tables w' job' before' path := by
  rw [scanFile, scanFile, Source.load, Source.load, hjob.encoding, hjob.lineBreaks,
    World.after, World.after, hread _ _]

theorem scanFiles_congr {paths : List Text} (tables : Encoding.Tables)
    (hjob : SameJob job job') (hread : ∀ path ∈ paths, ReadsAlike w w' path)
    (before before' : List Log.Record) :
    scanFiles tables w job before paths = scanFiles tables w' job' before' paths := by
  induction paths generalizing before before' with
  | nil => rfl
  | cons path paths ih =>
    rw [List.forall_mem_cons] at hread
    have hpaths := fun made => ih hread.2 (before ++ made) (before' ++ made)
    rw [scanFiles, scanFiles, scanFile_congr tables hjob hread.1 before before']
    simp only [bind, Logged.value_listen, hpaths]

/-- What is done is the same if the same files are found and the same bytes read. -/
theorem SameRequest.perform_eq (h : SameRequest s s' a a') (hjob : SameJob job job')
    (htree : w.tree = w'.tree)
    (hread : job.arguments.has helpOption = false → job.arguments.has versionOption = false →
      ∀ path ∈ (discover w.tree job.arguments.rest).value, ReadsAlike w w' path) :
    perform s w job = perform s' w' job' := by
  have husage : usage s = usage s' := by
    funext t code
    rw [usage, usage, h.columns, h.programName]
  have hhas := hjob.options.has_eq
  have hhelp := hhas helpOption (by decide) (by decide)
  have hversion := hhas versionOption (by decide) (by decide)
  by_cases hlooks : job.arguments.has helpOption = false ∧
      job.arguments.has versionOption = false
  · have hscan := fun made => scanFiles_congr s.tables hjob (hread hlooks.1 hlooks.2) made made
    rw [perform_of_looking hlooks.1 hlooks.2,
      perform_of_looking (hhelp ▸ hlooks.1) (hversion ▸ hlooks.2), ← htree, husage,
      ← hjob.options.rest, ← h.tables, ← hhas jsonOption (by decide) (by decide)]
    simp only [bind, Logged.value_listen, hscan]
    rfl
  · rw [perform, perform, husage, ← hhelp, ← hversion]
    cases hhelp' : job.arguments.has helpOption with
    | true => rw [if_pos rfl, if_pos rfl]
    | false =>
      cases hversion' : job.arguments.has versionOption with
      | true =>
        rw [if_neg Bool.false_ne_true, if_neg Bool.false_ne_true, if_pos rfl, if_pos rfl]
      | false => exact absurd ⟨hhelp', hversion'⟩ hlooks

/-! ## The log -/

section SameRequest

variable (h : SameRequest s s' a a')
include h

/-- Both runs fail to open their log for the same reason, or both open it at the same
place. -/
theorem SameRequest.openLog_cases :
    (∃ e, openLog s a = .error e ∧ openLog s' a' = .error e) ∨
      ∃ w w', openLog s a = .ok w ∧ openLog s' a' = .ok w' ∧ w.tree = w'.tree ∧
        w.logPlace? = w'.logPlace? := by
  rw [openLog, openLog, h.logFile_eq, h.files]
  cases s'.files.create (logFile s' a') with
  | error e => exact .inl ⟨e, rfl, rfl⟩
  | ok created => exact .inr ⟨_, _, rfl, rfl, rfl, rfl⟩

theorem SameRequest.world_eq : (world s a).tree = (world s' a').tree ∧
    (world s a).logPlace? = (world s' a').logPlace? := by
  rw [world, world]
  rcases h.openLog_cases with ⟨e, hopen, hopen'⟩ | ⟨w, w', hopen, hopen', hsame⟩
  · rw [hopen, hopen']
    exact ⟨h.files, rfl⟩
  · rw [hopen, hopen']
    exact hsame

theorem SameRequest.logNotice_eq : logNotice s a = logNotice s' a' := by
  rw [logNotice, logNotice]
  rcases h.openLog_cases with ⟨e, hopen, hopen'⟩ | ⟨w, w', hopen, hopen', -⟩
  · rw [hopen, hopen']
  · rw [hopen, hopen']

theorem SameRequest.toOption_openLog :
    (openLog s a).toOption.map (fun _ => logFile s a) =
      (openLog s' a').toOption.map fun _ => logFile s' a' := by
  rw [h.logFile_eq]
  rcases h.openLog_cases with ⟨e, hopen, hopen'⟩ | ⟨w, w', hopen, hopen', -⟩
  · rw [hopen, hopen']
  · rw [hopen, hopen']
    rfl

/-- What is no log holds the same bytes in both runs. -/
theorem SameRequest.readsAlike {path : Text} (hfile : (world s a).tree.isFile path = true)
    (hpath : ¬ (world s a).LeadsToLog path) : ReadsAlike (world s a) (world s' a') path := by
  intro records records'
  obtain ⟨htree, hplace⟩ := h.world_eq
  have hpath' : ¬ (world s' a').LeadsToLog path := by
    rwa [World.LeadsToLog, ← htree, ← hplace]
  rw [(over_world s a).read_written hfile hpath, h.files,
    (over_world s' a').read_written (htree ▸ hfile) hpath']

/-! ## The result -/

/-- Two runs that are refused for the same reason say the same. -/
theorem SameRequest.run_of_refusal {refusal : Refusal} (hcheck : check s = .error refusal)
    (hcheck' : check s' = .error refusal) :
    (run s).ending = (run s').ending ∧ (run s).output = (run s').output ∧
      (run s).files = (run s').files ∧ (run s).logFile = (run s').logFile := by
  rw [run, run, hcheck, hcheck']
  simp only [value_usage, h.columns, h.programName, h.files, and_self]

end SameRequest

/-- Settings for diagnostics do not show in the result: two runs that differ in nothing but
the log level and what decides about colours end alike, create the same files and write the
same texts, with colour codes between them, unless they find their log among the files.
But for the log every file holds the same in the end. -/
theorem result_of_same_request (h : SameRequest s s' a a')
    (hlog : ∀ path ∈ discovered s, ¬ (world s a).LeadsToLog path) :
    (run s).ending = (run s').ending ∧ (run s).logFile = (run s').logFile ∧
      (run s).files.newFiles s.files = (run s').files.newFiles s'.files ∧
      (∀ names, (world s a).logPlace? ≠ some names →
        (run s).files.lookup? names = (run s').files.lookup? names) ∧
      (run s).output = (run s').output ∧
      ∃ shown, Styled.Coloured (run s).colorMode shown (run s).outputText ∧
        Styled.Coloured (run s').colorMode shown (run s').outputText := by
  rcases h.check_cases with
    ⟨refusal, hcheck, hcheck'⟩ | ⟨job, job', hcheck, hcheck', rfl, rfl, hjob⟩
  · obtain ⟨hending, houtput, hfiles, hlogFile⟩ := h.run_of_refusal hcheck hcheck'
    refine ⟨hending, hlogFile, by rw [hfiles, h.files], fun names _ => by rw [hfiles], houtput,
      Styled.plain (run s).output, Styled.coloured_render _ _, ?_⟩
    rw [houtput]
    exact Styled.coloured_render _ _
  obtain ⟨htree, hplace⟩ := h.world_eq
  have hdone := h.perform_eq hjob htree fun hhelp hversion path hpath => by
    apply h.readsAlike (isFile_of_mem_discover hpath)
    apply hlog
    rwa [discovered_of_check hcheck hhelp hversion]
  rw [run_of_check hcheck, run_of_check hcheck', runJob, runJob, hdone, h.logNotice_eq]
  dsimp only [World.after]
  refine ⟨rfl, h.toOption_openLog, ?_, fun names hnames => ?_, rfl, Styled.plain _,
    Styled.coloured_render _ _, Styled.coloured_render _ _⟩
  · rw [(over_world s _).newFiles_written, (over_world s' _).newFiles_written, htree, h.files]
  · rw [(over_world s _).lookup?_written hnames,
      (over_world s' _).lookup?_written (hplace ▸ hnames), h.files]

/-- A log level, two ways to choose colours and the time in the log, which is kept in another
directory, change the colours of a message and nothing else. -/
theorem result_of_same_request_in_colours :
    let files : FileTree :=
      { entries := [(["w".toList, "a".toList], .file [0xFF]), (["t".toList], .directory)]
        here := ["w".toList] }
    let line (time : Char) (r : Log.Record) : Bytes :=
      ([time, ' '] ++ r.display ++ ['\n']).map fun c => c.toNat.toUInt8
    let s : Surroundings :=
      { command := ["textscan", "--log-level", "trace", "--color-mode=256", "-lf=/t/x",
          "a"].map String.toList
        environment := [(colorModeVariable, "none".toList)]
        files, isTerminal := true, columns := some 80, colors := none
        fileLine := fun _ => line '1' }
    let s' : Surroundings :=
      { command := ["textscan", "-lf=/t/x", "a"].map String.toList
        environment := [(logLevelVariable, "loud".toList)]
        files, isTerminal := true, columns := some 80, colors := some "8".toList
        fileLine := fun _ => line '2' }
    (run s).ending = (run s').ending ∧
      (run s).files.newFiles s.files = (run s').files.newFiles s'.files ∧
      (run s).output = (run s').output ∧ (run s).outputText ≠ (run s').outputText ∧
      (run s).files ≠ (run s').files := by
  intro files line s s'
  let a : Arguments :=
    ⟨[(logLevelOption, "trace".toList), (colorModeOption, "256".toList),
      (logFileOption, "/t/x".toList)], ["a".toList]⟩
  have hsame : SameRequest s s' a ⟨[(logFileOption, "/t/x".toList)], ["a".toList]⟩ :=
    { parsed := by decide +kernel
      parsed' := by decide +kernel
      options := by
        refine ⟨fun name hlevel hcolor => ?_, rfl⟩
        by_cases hname : logFileOption = name
        · subst hname
          decide
        · simp [a, Arguments.value?, hlevel.symm, hcolor.symm, hname]
      colorMode := by
        intro name hname
        obtain rfl : name = "256".toList := Option.some.inj (hname.symm.trans (by decide))
        decide
      colorMode' := by
        intro name hname
        have hnone : Arguments.value? ⟨[(logFileOption, "/t/x".toList)], ["a".toList]⟩
            colorModeOption = none := by decide
        cases hnone.symm.trans hname
      settings := by
        intro name hlevel hcolor
        simp [s, s', Surroundings.setting?, hlevel.symm, hcolor.symm]
      programName := rfl
      files := rfl
      columns := rfl
      tables := rfl }
  have hfound : discovered s = ["a".toList] := by decide +kernel
  have hplace : (world s a).logPlace? = some ["t".toList, "x".toList] := by decide +kernel
  have hresolve : (world s a).tree.resolve "a".toList = .ok ["w".toList, "a".toList] := by
    decide +kernel
  obtain ⟨hending, -, hfiles, -, houtput, -⟩ := result_of_same_request hsame (by
    rw [hfound]
    rintro path hpath ⟨place, hlog, hleads⟩
    obtain rfl := List.mem_singleton.mp hpath
    cases hplace.symm.trans hlog
    cases hresolve.symm.trans hleads)
  exact ⟨hending, hfiles, houtput, by decide +kernel, by decide +kernel⟩

end LexScan.Program
