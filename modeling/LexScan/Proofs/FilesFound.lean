import LexScan.Proofs.Runs

/-!
# Files that a run finds

A run makes its log file before it looks for files, since looking for them is logged. So it
can find this file among those that fit the patterns, though it was not there before. It
finds no other file that was not there: a pattern that fits a file once the log is open fits
it before, unless the file is the log.
-/

namespace LexScan.Program

open CommandLine (Arguments)

variable {tree : FileTree} {w : World} {path : Text} {patterns : List Text}
  {s : Surroundings} {job : Job}

/-! ## Patterns -/

theorem mem_discover_iff : path ∈ (discover tree patterns).value ↔
    tree.isFile path = true ∧
      ∃ pattern ∈ patterns, ∃ g, Glob.parse pattern = .ok g ∧ .ok path ∈ g.expand tree := by
  have hfound : ∀ found : Glob.Findings Text,
      path ∈ found.filterMap Except.toOption ↔ .ok path ∈ found := by
    intro found
    rw [List.mem_filterMap]
    constructor
    · rintro ⟨item, hitem, hpath⟩
      cases item with
      | error f => cases hpath
      | ok other => exact Option.some.inj hpath ▸ hitem
    · exact fun hitem => ⟨_, hitem, rfl⟩
  simp only [value_discover, List.mem_flatMap, matching]
  constructor
  · rintro ⟨pattern, hpattern, hpath⟩
    split at hpath
    · next g hparse =>
      obtain ⟨hexpand, hfile⟩ := List.mem_filter.mp hpath
      exact ⟨hfile, pattern, hpattern, g, hparse, (hfound _).mp hexpand⟩
    · cases hpath
  · rintro ⟨hfile, pattern, hpattern, g, hparse, hexpand⟩
    refine ⟨pattern, hpattern, ?_⟩
    rw [hparse]
    exact List.mem_filter.mpr ⟨(hfound _).mpr hexpand, hfile⟩

/-! ## The log file -/

/-- A file that is found was found before the log was opened, or was not there and is the
log. -/
theorem World.Over.found_cases (h : w.Over s.files)
    (hpath : path ∈ (discover w.tree patterns).value) :
    s.files.isFile path = true ∧ path ∈ (discover s.files patterns).value ∨
      s.files.isFile path = false ∧ w.LeadsToLog path := by
  obtain ⟨hfile, pattern, hpattern, g, hparse, hexpand⟩ := mem_discover_iff.mp hpath
  cases hbefore : s.files.isFile path with
  | false =>
    have hlog := (h.isFile_cases hfile).resolve_left fun hold => by
      rw [hbefore] at hold
      cases hold
    exact .inr ⟨rfl, hlog⟩
  | true =>
    left
    refine ⟨rfl, mem_discover_iff.mpr ⟨hbefore, pattern, hpattern, g, hparse, ?_⟩⟩
    cases hplace : w.logPlace? with
    | none => exact h.tree_eq hplace ▸ hexpand
    | some place => exact Glob.mem_expand (h.sameBut_tree hplace) g hbefore hexpand

/-! ## Runs -/

/-- Every file that a run finds was there before it and found then too, or it is the log file
that the run has made itself. Reports are on these files alone. So if no file that was there
fits the patterns, nothing is found but the log file; and if that does not fit them either,
the run ends with 1 and prints no report. -/
theorem found_before_or_log (hcheck : check s = .ok job)
    (hhelp : job.arguments.has helpOption = false)
    (hversion : job.arguments.has versionOption = false) :
    let w := world s job.arguments
    let found := discover w.tree job.arguments.rest
    let before := (discover s.files job.arguments.rest).value
    (∀ path ∈ found.value, s.files.isFile path = true ∧ path ∈ before ∨
      s.files.isFile path = false ∧ w.LeadsToLog path) ∧
    (found.value ≠ [] → (run s).output = logNotice s job.arguments ++
      summary (job.arguments.has jsonOption)
        (scanFiles s.tables w job found.log found.value).value) ∧
    (before = [] → (∀ path ∈ found.value, w.LeadsToLog path) ∧
      ((∀ path ∈ found.value, ¬ w.LeadsToLog path) →
        (∀ columns, s.columns = some columns → (run s).ending = .exit 1) ∧
        (run s).output = logNotice s job.arguments ++ (usage s template 1).value.2)) := by
  intro w found before
  have hfound : ∀ path ∈ found.value, _ := fun path hpath =>
    (over_world s job.arguments).found_cases hpath
  rw [run_of_check hcheck, runJob]
  refine ⟨hfound, fun hsome => ?_, fun hbefore => ?_⟩
  · dsimp only
    rw [(perform_of_found hhelp hversion hsome).1]
  have hlogs : ∀ path ∈ found.value, w.LeadsToLog path := by
    intro path hpath
    rcases hfound path hpath with ⟨-, hold⟩ | ⟨-, hleads⟩
    · exact absurd hold (List.eq_nil_iff_forall_not_mem.mp hbefore path)
    · exact hleads
  refine ⟨hlogs, fun hlog => ?_⟩
  have hnone : found.value = [] :=
    List.eq_nil_iff_forall_not_mem.mpr fun path hpath => hlog path hpath (hlogs path hpath)
  dsimp only
  rw [value_perform_of_none hhelp hversion hnone]
  exact ⟨fun columns hcolumns => ending_usage hcolumns template 1, rfl⟩

/-- A file is found again, and the log that is made in a directory is found too. -/
theorem found_before_or_log_in_directory :
    let s : Surroundings :=
      { command := ["textscan", "--log-file=d/b", "a", "/w/d/?"].map String.toList
        environment := []
        files :=
          { entries := [
              (["w".toList, "a".toList], .file []),
              (["w".toList, "d".toList], .directory)]
            here := ["w".toList] }
        isTerminal := false, columns := none, colors := none
        fileLine := fun _ r => (r.display ++ ['\n']).map fun c => c.toNat.toUInt8 }
    let a : Arguments := ⟨[(logFileOption, "d/b".toList)], ["a".toList, "/w/d/?".toList]⟩
    (discover (world s a).tree a.rest).value = ["a".toList, "/w/d/b".toList] ∧
      "a".toList ∈ (discover s.files a.rest).value ∧
      (world s a).LeadsToLog "/w/d/b".toList := by
  intro s a
  have hcheck : check s = .ok ⟨a, .none, .utf8, .ascii⟩ := by decide +kernel
  have hvalue : (discover (world s a).tree a.rest).value =
      ["a".toList, "/w/d/b".toList] := by decide +kernel
  obtain ⟨hfound, -, -⟩ :=
    found_before_or_log hcheck (by decide +kernel) (by decide +kernel)
  have hold : s.files.isFile "a".toList = true := by decide +kernel
  have hnew : s.files.isFile "/w/d/b".toList = false := by decide +kernel
  refine ⟨hvalue, ?_, ?_⟩
  · have hcases := hfound "a".toList (by rw [hvalue]; decide)
    exact (hcases.resolve_right fun h => absurd (hold.symm.trans h.1) nofun).2
  · have hcases := hfound "/w/d/b".toList (by rw [hvalue]; decide)
    exact (hcases.resolve_left fun h => absurd (hnew.symm.trans h.1) nofun).2

/-- In a directory without files an asterisk fits the log file that the run makes, and there
is a report on it. A run that is asked for help does not look for files at all. -/
theorem own_log_is_found :
    let s : Surroundings :=
      { command := ["textscan", "*"].map String.toList, environment := [], files := {}
        isTerminal := true, columns := some 80, colors := none
        fileLine := fun _ r => (r.display ++ ['\n']).map fun c => c.toNat.toUInt8 }
    let a : Arguments := ⟨[], ["*".toList]⟩
    let found := (discover (world s a).tree a.rest).value
    check s = .ok ⟨a, .eight, .utf8, .ascii⟩ ∧ (discover s.files a.rest).value = [] ∧
      found = [defaultLogFile] ∧ (¬ ∀ path ∈ found, s.files.isFile path = true) ∧
      (run s).ending = .exit 0 ∧
      Styled.plain (run s).output = defaultLogFile ++
        (": 0 lines 0 blank 0 words 0 numbers 0 strings 0 comments 0 symbols 0 longest\n").toList ∧
      (run { s with command := ["textscan".toList, helpOption, "*".toList] }).ending =
        .exit 0 := by
  decide +kernel

end LexScan.Program
