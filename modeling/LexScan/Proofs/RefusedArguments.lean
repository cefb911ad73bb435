import LexScan.Proofs.Runs

/-!
# Refused arguments

A run with wrong arguments tells what is wrong with them and does nothing else: no file is
created or written, nothing is logged, and what is told depends on the command line and the
width of the terminal alone. The checks are stated here without the code that makes them,
each with its message, and the first one that fails is the one that is told.
-/

namespace LexScan

namespace CommandLine.Template

open Styled

/-- The usage starts with its header. -/
theorem header_prefix_usage (t : Template) (program : Text) (width : Nat) :
    t.header ++ "\n\nUSAGE:\n".toList <+: plain (t.usage program width) := by
  simp only [plain, usage, List.cons_append, List.flatMap_cons, List.nil_append]
  exact List.prefix_append _ _

end CommandLine.Template

namespace Program

open CommandLine (Arguments)

/-! ## The checks -/

/-- The names of modes of colours. -/
def colorModeNames : List Text := ["auto".toList, "none".toList, "8".toList, "256".toList]

/-- The mode of colours, if one is given, is one that there is. -/
def ColorModeKnown (a : Arguments) : Prop :=
  ∀ name, a.value? colorModeOption = some name → name ∈ colorModeNames

/-- The label that an encoding is looked up by. -/
def encodingLabel (a : Arguments) : Text :=
  (a.value? encodingOption).getD Encoding.defaultLabel

/-- There is an encoding with the label. -/
def EncodingKnown (a : Arguments) : Prop := ∃ e, Encoding.ofLabel? (encodingLabel a) = some e

/-- The names of line break modes. -/
def lineBreaksNames : List Text := ["ascii".toList, "unicode".toList]

/-- The line break mode, if one is given, is one that there is. -/
def LineBreaksKnown (a : Arguments) : Prop :=
  ∀ name, a.value? lineBreaksOption = some name → name.trim ∈ lineBreaksNames

/-- The items cannot be read as arguments, or one of the values among them is not known. -/
def Invalid (items : List Text) : Prop :=
  (∃ fault, template.parse items = .error fault) ∨
    ∃ a, template.parse items = .ok a ∧
      ¬ (ColorModeKnown a ∧ EncodingKnown a ∧ LineBreaksKnown a)

/-- What the first check that fails has to say. -/
inductive Refused (items : List Text) : Text → Prop where
  | unread {fault : CommandLine.Fault} (hparse : template.parse items = .error fault) :
      Refused items fault.message
  | colorMode {a : Arguments} {name : Text} (hparse : template.parse items = .ok a)
      (hname : a.value? colorModeOption = some name) (hunknown : name ∉ colorModeNames) :
      Refused items ("Unrecognized color mode: ".toList ++ name)
  | encoding {a : Arguments} (hparse : template.parse items = .ok a)
      (hcolor : ColorModeKnown a) (hunknown : ¬ EncodingKnown a) :
      Refused items ("Unknown encoding '".toList ++ encodingLabel a ++ ['\''])
  | lineBreaks {a : Arguments} {name : Text} (hparse : template.parse items = .ok a)
      (hcolor : ColorModeKnown a) (hencoding : EncodingKnown a)
      (hname : a.value? lineBreaksOption = some name)
      (hunknown : name.trim ∉ lineBreaksNames) :
      Refused items ("Unknown line break mode '".toList ++ name.trim
        ++ "', expected 'ascii' or 'unicode'".toList)

variable {items : List Text} {a : Arguments} {s : Surroundings} {name message : Text}

theorem Invalid.exists_refused (h : Invalid items) : ∃ message, Refused items message := by
  rcases h with ⟨fault, hparse⟩ | ⟨a, hparse, hknown⟩
  · exact ⟨_, .unread hparse⟩
  by_cases hcolor : ColorModeKnown a
  · by_cases hencoding : EncodingKnown a
    · have hbreaks : ¬ LineBreaksKnown a := fun hbreaks => hknown ⟨hcolor, hencoding, hbreaks⟩
      simp only [LineBreaksKnown, not_forall] at hbreaks
      obtain ⟨name, hname, hunknown⟩ := hbreaks
      exact ⟨_, .lineBreaks hparse hcolor hencoding hname hunknown⟩
    · exact ⟨_, .encoding hparse hcolor hencoding⟩
  · simp only [ColorModeKnown, not_forall] at hcolor
    obtain ⟨name, hname, hunknown⟩ := hcolor
    exact ⟨_, .colorMode hparse hname hunknown⟩

/-! ## The checks as they are made -/

theorem chosenColorMode_of_known (s : Surroundings) (h : ColorModeKnown a) :
    ∃ mode, chosenColorMode s a = .ok mode := by
  rw [chosenColorMode]
  cases hname : a.value? colorModeOption with
  | none => exact ⟨_, rfl⟩
  | some name =>
    have hmem := h name hname
    simp only [colorModeNames, List.mem_cons, List.not_mem_nil, or_false] at hmem
    rcases hmem with rfl | rfl | rfl | rfl <;> exact ⟨_, rfl⟩

theorem chosenColorMode_of_unknown (hname : a.value? colorModeOption = some name)
    (hunknown : name ∉ colorModeNames) :
    chosenColorMode s a = .error (.colorMode name) := by
  simp only [colorModeNames, List.mem_cons, List.not_mem_nil, or_false, not_or] at hunknown
  obtain ⟨hauto, hnone, height, hmany⟩ := hunknown
  simp only [chosenColorMode, hname, colorModeOfName?, if_neg hnone, if_neg height,
    if_neg hmany, if_neg hauto]

theorem chosenEncoding_of_known (h : EncodingKnown a) :
    ∃ encoding, chosenEncoding a = .ok encoding := by
  obtain ⟨e, he⟩ := h
  rw [encodingLabel] at he
  exact ⟨e, by simp only [chosenEncoding, he]⟩

theorem chosenEncoding_of_unknown (h : ¬ EncodingKnown a) :
    chosenEncoding a = .error (.encoding (encodingLabel a)) := by
  have hnone : Encoding.ofLabel? (encodingLabel a) = none :=
    Option.eq_none_iff_forall_ne_some.mpr fun e he => h ⟨e, he⟩
  rw [encodingLabel] at hnone
  simp only [chosenEncoding, encodingLabel, hnone]

theorem chosenLineBreaks_of_unknown (hname : a.value? lineBreaksOption = some name)
    (hunknown : name.trim ∉ lineBreaksNames) :
    chosenLineBreaks a = .error (.lineBreaks name.trim) := by
  have hascii : name.trim ≠ LineBreakMode.ascii.name :=
    fun h => hunknown (by rw [h]; exact List.mem_cons_self)
  have hunicode : name.trim ≠ LineBreakMode.unicode.name :=
    fun h => hunknown (by rw [h]; exact List.mem_cons_of_mem _ List.mem_cons_self)
  simp only [chosenLineBreaks, hname, LineBreakMode.ofName, if_neg hascii, if_neg hunicode,
    Except.mapError]

/-- The checks that follow once the items have been read. -/
theorem check_of_parse (hparse : template.parse s.arguments = .ok a) :
    check s = (do
      let colorMode ← chosenColorMode s a
      let encoding ← chosenEncoding a
      let lineBreaks ← chosenLineBreaks a
      return ⟨a, colorMode, encoding, lineBreaks⟩) := by
  rw [check, hparse]
  rfl

/-- What the first check that fails has to say is what the program finds wrong. -/
theorem Refused.check_eq_error (h : Refused s.arguments message) :
    ∃ refusal, check s = .error refusal ∧ refusal.message = message := by
  -- Each rule names the checks that have been passed, which leave no other to fail before.
  cases h with
  | @unread fault hparse =>
    refine ⟨.arguments fault, ?_, rfl⟩
    rw [check, hparse]
    rfl
  | @colorMode a name hparse hname hunknown =>
    refine ⟨.colorMode name, ?_, rfl⟩
    rw [check_of_parse hparse, chosenColorMode_of_unknown hname hunknown]
    rfl
  | @encoding a hparse hcolor hunknown =>
    refine ⟨.encoding (encodingLabel a), ?_, rfl⟩
    obtain ⟨mode, hmode⟩ := chosenColorMode_of_known s hcolor
    rw [check_of_parse hparse, hmode, chosenEncoding_of_unknown hunknown]
    rfl
  | @lineBreaks a name hparse hcolor hencoding hname hunknown =>
    refine ⟨.lineBreaks name.trim, ?_, ?_⟩
    · obtain ⟨mode, hmode⟩ := chosenColorMode_of_known s hcolor
      obtain ⟨encoding, hchosen⟩ := chosenEncoding_of_known hencoding
      rw [check_of_parse hparse, hmode, hchosen, chosenLineBreaks_of_unknown hname hunknown]
      rfl
    · have hnames : "', expected 'ascii' or 'unicode'".toList =
          "', expected '".toList ++ (LineBreakMode.ascii.name ++ ("' or '".toList
            ++ (LineBreakMode.unicode.name ++ "'".toList))) := rfl
      change "Unknown line break mode '".toList ++ name.trim ++ "', expected '".toList
        ++ LineBreakMode.ascii.name ++ "' or '".toList ++ LineBreakMode.unicode.name
        ++ "'".toList = _
      simp only [hnames, List.append_assoc]

/-! ## The run -/

theorem Refused.eq (h : Refused s.arguments message) (hname : Refused s.arguments name) :
    name = message := by
  obtain ⟨refusal, hcheck, rfl⟩ := h.check_eq_error
  obtain ⟨other, hother, rfl⟩ := hname.check_eq_error
  have hsame : refusal = other := Except.error.inj (hcheck.symm.trans hother)
  rw [hsame]

theorem value_usage (s : Surroundings) (t : CommandLine.Template) (code : Nat) :
    (usage s t code).value =
      match s.columns with
      | some width => (.exit code, t.usage s.programName width)
      | none => (.noTerminal, []) := by
  rw [usage, Logged.value_bind]
  cases s.columns <;> rfl

/-- The whole of a run whose arguments are refused. -/
theorem Refused.run_eq (h : Refused s.arguments message) :
    run s =
      { ending := (usage s { template with header := message } 2).value.1
        colorMode := defaultColorMode s
        output := (usage s { template with header := message } 2).value.2
        logFile := none, log := [], files := s.files } := by
  obtain ⟨refusal, hcheck, rfl⟩ := h.check_eq_error
  rw [run, hcheck]

/-- A run with invalid arguments does nothing but tell so: the files stay as they are, no
log file is opened and nothing is logged, whatever else the arguments ask for. On a
terminal it ends with 2, and what it shows is the usage text under the message of the first
check that fails; without one it shows nothing and ends with 101. How it ends and what it
shows depend on the command line and the terminal alone, but for colour codes. -/
theorem run_of_invalid (h : Invalid s.arguments) :
    ∃ message, (∀ m, Refused s.arguments m ↔ m = message) ∧
      (run s).files = s.files ∧ (run s).logFile = none ∧ (run s).log = [] ∧
      (∀ width, s.columns = some width → (run s).ending.code = 2 ∧
        ∃ shown,
          shown = Styled.plain
            ({ template with header := message }.usage s.programName width) ∧
          message ++ "\n\nUSAGE:\n".toList <+: shown ∧
          Styled.Coloured (defaultColorMode s) shown (run s).outputText) ∧
      (s.columns = none → (run s).ending.code = 101 ∧ (run s).outputText = []) ∧
      ∀ s' : Surroundings, s'.programName = s.programName → s'.arguments = s.arguments →
        s'.columns = s.columns →
        (run s').ending = (run s).ending ∧ (run s').output = (run s).output := by
  obtain ⟨message, hmessage⟩ := h.exists_refused
  have hrun := hmessage.run_eq
  refine ⟨message, fun m => ⟨hmessage.eq, ?_⟩, ?_, ?_, ?_, ?_, ?_, ?_⟩
  · rintro rfl
    exact hmessage
  · rw [hrun]
  · rw [hrun]
  · rw [hrun]
  · intro width hwidth
    have hshown := Styled.coloured_render (run s).colorMode (run s).output
    rw [hrun, value_usage, hwidth] at hshown
    rw [Outcome.outputText, hrun, value_usage, hwidth]
    have hheader := CommandLine.Template.header_prefix_usage
      { template with header := message } s.programName width
    exact ⟨rfl, _, rfl, hheader, hshown⟩
  · intro hwidth
    rw [Outcome.outputText, hrun, value_usage, hwidth]
    exact ⟨rfl, rfl⟩
  · intro s' hname harguments hcolumns
    have hmessage' : Refused s'.arguments message := harguments ▸ hmessage
    rw [hrun, hmessage'.run_eq, value_usage, value_usage, hcolumns, hname]
    exact ⟨rfl, rfl⟩

/-- Of two values that are not known the colour mode is the one that is told, and neither
the help nor the log that are asked for as well are given. -/
theorem run_of_invalid_among_help_and_log :
    let s : Surroundings :=
      { command := ["textscan", "--help", "-e", "latin-0", "--log-file=b", "--color-mode=12",
          "a"].map String.toList
        environment := [(logLevelVariable, "trace".toList)]
        files := { entries := [(["a".toList], .file [])] }
        isTerminal := true, columns := some 80, colors := none
        fileLine := fun _ r => (r.display ++ ['\n']).map fun c => c.toNat.toUInt8 }
    Invalid s.arguments ∧ (run s).files = s.files ∧ (run s).logFile = none ∧
      (run s).ending.code = 2 ∧ ∃ shown,
        "Unrecognized color mode: 12\n\nUSAGE:\n".toList <+: shown ∧
        Styled.Coloured .eight shown (run s).outputText := by
  intro s
  have hparse : template.parse s.arguments = .ok
      ⟨[(helpOption, []), (encodingOption, "latin-0".toList), (logFileOption, "b".toList),
        (colorModeOption, "12".toList)], ["a".toList]⟩ := by decide +kernel
  have hunknown : "12".toList ∉ colorModeNames := by decide
  have hinvalid : Invalid s.arguments :=
    .inr ⟨_, hparse, fun h => hunknown (h.1 _ (by decide +kernel))⟩
  obtain ⟨message, hmessage, hfiles, hlogFile, _, hshown, _⟩ := run_of_invalid hinvalid
  obtain ⟨hcode, shown, _, hheader, hcoloured⟩ := hshown 80 rfl
  have hfirst := (hmessage _).mp (.colorMode hparse (by decide +kernel) hunknown)
  subst hfirst
  exact ⟨hinvalid, hfiles, hlogFile, hcode, shown, hheader, hcoloured⟩

end Program

end LexScan
