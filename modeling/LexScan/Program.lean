import LexScan.CommandLine.Usage
import LexScan.Program.Files

/-!
# The program `textscan`

A run as a function of everything it depends on: the items of the command line,
the environment, the files, and the terminal. It comes to an exit code, styled
output, log records and the files as they are afterwards.

Arguments are checked before anything else happens, so a run with wrong ones
leaves no trace but its message. Then the log is opened, which creates a file;
only after that are file patterns looked up. So a run can find its own log, and
what it reads there are the records that it has made by then.
-/

namespace LexScan.Program

/-- How a run ends. -/
inductive Ending where
  | exit (code : Nat)
  /-- There is a usage text to print but no terminal to lay it out for. -/
  | noTerminal
deriving DecidableEq, Repr

def Ending.code : Ending → Nat
  | exit code => code
  | noTerminal => 101

/-- What a run comes to. -/
structure Outcome where
  ending : Ending
  colorMode : ColorMode
  output : Styled
  /-- The path of the log file, if there is one. -/
  logFile : Option Text
  /-- The records that were kept. -/
  log : List Log.Record
  files : FileTree
deriving DecidableEq, Repr

/-- The usage text and an exit code. -/
def usage (s : Surroundings) (t : CommandLine.Template) (code : Nat) :
    Logged (Ending × Styled) := do
  let text ← t.usageLogged s.programName (s.columns.getD 0)
  match s.columns with
  | some _ => pure (.exit code, text)
  | none => pure (.noTerminal, [])

def versionText : Styled :=
  [.text (title ++ "\nversion ".toList ++ version ++ ['\n'])]

/-- What is done once the log is open. -/
def perform (s : Surroundings) (world : World) (job : Job) : Logged (Ending × Styled) := do
  if job.arguments.has helpOption then
    Logged.trace "Help requested".toList
    usage s template 0
  else if job.arguments.has versionOption then
    Logged.trace "Version requested".toList
    Logged.trace "Printing version...".toList
    pure (.exit 0, versionText)
  else
    let (files, made) ← (discover world.tree job.arguments.rest).listen
    if files.isEmpty then
      Logged.error "No input files".toList
      usage s template 1
    else
      let results ← scanFiles s.tables world job made files
      pure (.exit (if (failures results).isEmpty then 0 else 4),
        summary (job.arguments.has jsonOption) results)

/-- What is told if the log cannot be opened. -/
def logNotice (s : Surroundings) (a : CommandLine.Arguments) : Styled :=
  match openLog s a with
  | .ok _ => []
  | .error e => failureLine ("Error setting up logging: ".toList ++ e.message)

/-- A run with checked arguments. -/
def runJob (s : Surroundings) (job : Job) : Outcome :=
  let world := world s job.arguments
  let done := perform s world job
  { ending := done.value.1, colorMode := job.colorMode,
    output := logNotice s job.arguments ++ done.value.2,
    logFile := (openLog s job.arguments).toOption.map fun _ => logFile s job.arguments,
    log := world.kept done.log, files := world.after done.log }

/-- A run. Wrong arguments give the usage text under the message. -/
def run (s : Surroundings) : Outcome :=
  match check s with
  | .ok job => runJob s job
  | .error refusal =>
      let shown := (usage s { template with header := refusal.message } 2).value
      { ending := shown.1, colorMode := defaultColorMode s, output := shown.2,
        logFile := none, log := [], files := s.files }

/-- The paths of the files that a run finds, if it looks for any. -/
def discovered (s : Surroundings) : List Text :=
  match check s with
  | .ok job =>
      if job.arguments.has helpOption || job.arguments.has versionOption then []
      else (discover (world s job.arguments).tree job.arguments.rest).value
  | .error _ => []

/-! ## What is seen of a run -/

/-- The colour of a level in the log that is shown. -/
def levelColor : Log.Level → Text
  | .error => "31".toList
  | .warn => "33".toList
  | .info => "34".toList
  | .debug => "36".toList
  | .trace => "37".toList

/-- A record as one line; the two finer levels tell the thread. -/
def logLine (mode : ColorMode) (r : Log.Record) : Text :=
  let level := ['['] ++ r.level.name ++ [']', ' ']
  let shown :=
    if mode = .none then level
    else Styled.control ['0'] ++ Styled.control (levelColor r.level) ++ level
      ++ Styled.control ['0']
  let thread := if Log.Level.debug.rank ≤ r.level.rank then "(1) ".toList else []
  shown ++ thread ++ r.message ++ ['\n']

namespace Outcome

/-- What is sent to the output. -/
def outputText (o : Outcome) : Text := Styled.render o.colorMode o.output

/-- What is sent to the error output. -/
def logText (o : Outcome) : Text := o.log.flatMap (logLine o.colorMode)

end Outcome

end LexScan.Program
