import LexScan.FileTree
import LexScan.LineBreak.Name
import LexScan.Log
import LexScan.Program.Options
import LexScan.Source
import LexScan.Terminal

/-!
# Jobs

What a run depends on, and the checks that its arguments have to pass. The checks
are made in a fixed order, and the first one that fails is what the user is told.
-/

namespace LexScan.Program

/-- What a run depends on. -/
structure Surroundings where
  /-- The items of the command line, the name of the program first. -/
  command : List Text
  environment : List (Text × Text)
  files : FileTree
  /-- Whether the output goes to a terminal. -/
  isTerminal : Bool
  /-- Columns of the terminal, if there is one that tells its size. -/
  columns : Option Nat
  /-- What the terminal is said to have in colours. -/
  colors : Option Text
  /-- The line of the log file for a record and the number of records before it. The
  time is in it. -/
  fileLine : Nat → Log.Record → Bytes
  tables : Encoding.Tables := {}

/-- The name that the program is called by. -/
def Surroundings.programName (s : Surroundings) : Text := s.command.head?.getD defaultName

/-- The items of the command line behind the name of the program. -/
def Surroundings.arguments (s : Surroundings) : List Text := s.command.tail

/-- The value of a variable of the environment. -/
def Surroundings.setting? (s : Surroundings) (name : Text) : Option Text :=
  (s.environment.find? (·.1 = name)).map (·.2)

/-- Why the arguments of a run are wrong. -/
inductive Refusal where
  | arguments (fault : CommandLine.Fault)
  | colorMode (name : Text)
  | encoding (label : Text)
  | lineBreaks (name : Text)
deriving DecidableEq, Repr

def Refusal.message : Refusal → Text
  | arguments fault => fault.message
  | colorMode name => "Unrecognized color mode: ".toList ++ name
  | encoding label => (SourceError.unknownEncoding label).message
  | lineBreaks name => LineBreakMode.unknownMessage name

/-! ## Colours -/

/-- The number that a terminal reports: digits, perhaps with a plus sign. -/
def reportedNumber? (t : Text) : Option Nat :=
  let digits := if t.trim.head? = some '+' then t.trim.tail else t.trim
  let n := Nat.ofDigitChars 10 digits 0
  if digits ≠ [] ∧ digits.all Char.isDigit ∧ n < UInt64.size then some n else none

/-- The richest mode for a number of colours. -/
def modeOfColors (n : Nat) : ColorMode :=
  if 256 ≤ n then .twoHundredFiftySix else if 8 ≤ n then .eight else .none

/-- The mode that a setting names outright. -/
def colorModeOfName? (name : Text) : Option ColorMode :=
  if name = "none".toList then some .none
  else if name = "8".toList then some .eight
  else if name = "256".toList then some .twoHundredFiftySix
  else none

/-- The mode when no argument chooses one. Without a terminal there are no
colours; a terminal that does not tell its number of colours has eight. -/
def defaultColorMode (s : Surroundings) : ColorMode :=
  if !s.isTerminal then .none
  else match (s.setting? colorModeVariable).bind colorModeOfName? with
    | some mode => mode
    | none => modeOfColors ((s.colors.bind reportedNumber?).getD 8)

/-- The mode that the arguments choose. -/
def chosenColorMode (s : Surroundings) (a : CommandLine.Arguments) :
    Except Refusal ColorMode :=
  match a.value? colorModeOption with
  | none => .ok (defaultColorMode s)
  | some name =>
      match colorModeOfName? name with
      | some mode => .ok mode
      | none =>
          if name = "auto".toList then .ok (defaultColorMode s) else .error (.colorMode name)

/-! ## Checked arguments -/

/-- Arguments that have passed all checks. -/
structure Job where
  arguments : CommandLine.Arguments
  colorMode : ColorMode
  encoding : Encoding
  lineBreaks : LineBreakMode
deriving DecidableEq, Repr

/-- The encoding that the arguments choose. -/
def chosenEncoding (a : CommandLine.Arguments) : Except Refusal Encoding :=
  let label := (a.value? encodingOption).getD Encoding.defaultLabel
  match Encoding.ofLabel? label with
  | some encoding => .ok encoding
  | none => .error (.encoding label)

/-- The line break mode that the arguments choose. -/
def chosenLineBreaks (a : CommandLine.Arguments) : Except Refusal LineBreakMode :=
  match a.value? lineBreaksOption with
  | none => .ok .ascii
  | some name => (LineBreakMode.ofName name).mapError .lineBreaks

/-- Checks the arguments; the first check that fails gives the refusal. -/
def check (s : Surroundings) : Except Refusal Job := do
  let arguments ← (template.parse s.arguments).mapError .arguments
  let colorMode ← chosenColorMode s arguments
  let encoding ← chosenEncoding arguments
  let lineBreaks ← chosenLineBreaks arguments
  return ⟨arguments, colorMode, encoding, lineBreaks⟩

/-! ## The log -/

/-- Which records a run keeps. A level that is not one of the names counts as none
given. -/
def logFilter (s : Surroundings) (a : CommandLine.Arguments) : Log.Filter :=
  match (a.value? logLevelOption).bind Log.Filter.ofName? with
  | some filter => filter
  | none =>
      ((s.setting? logLevelVariable).bind Log.Filter.ofName?).getD (.upTo .warn)

/-- The path of the log file. -/
def logFile (s : Surroundings) (a : CommandLine.Arguments) : Text :=
  match a.value? logFileOption with
  | some path => path
  | none => (s.setting? logFileVariable).getD defaultLogFile

/-- The files while a run goes on. What it logs is written to one of them. -/
structure World where
  /-- The files when nothing has been logged yet. -/
  tree : FileTree
  /-- The place of the log, if what is logged stays among the files. -/
  logPlace? : Option (List Text)
  filter : Log.Filter
  line : Nat → Log.Record → Bytes

namespace World

/-- The files once the log holds some records. -/
def written (w : World) (records : List Log.Record) : FileTree :=
  match w.logPlace? with
  | some names => w.tree.write names (records.mapIdx w.line).flatten
  | none => w.tree

/-- The records among these that are written to the log. -/
def kept (w : World) (records : List Log.Record) : List Log.Record :=
  records.filter w.filter.keeps

/-- The files once some records have been made. -/
def after (w : World) (records : List Log.Record) : FileTree := w.written (w.kept records)

end World

/-- Opens the log file. -/
def openLog (s : Surroundings) (a : CommandLine.Arguments) : Except FileError World := do
  let (tree, logPlace?) ← s.files.create (logFile s a)
  return ⟨tree, logPlace?, logFilter s a, s.fileLine⟩

/-- The files that a run goes on with. Without a log file nothing is kept. -/
def world (s : Surroundings) (a : CommandLine.Arguments) : World :=
  match openLog s a with
  | .ok w => w
  | .error _ => ⟨s.files, none, .off, s.fileLine⟩

end LexScan.Program
