import LexScan.Glob.Expand
import LexScan.Program.Job
import LexScan.Report.Print

/-!
# Input files

The files that a run reads are those that fit the written patterns, pattern by
pattern. Each of them comes to a report or to a failure, and the failures of a run
are printed before its reports.
-/

namespace LexScan.Program

/-- The paths among those found for a written pattern that are files. -/
def keepFiles (tree : FileTree) (pattern : Text) : Glob.Findings Text → Logged (List Text)
  | [] => pure []
  | .ok path :: found =>
      if tree.isFile path then (path :: ·) <$> keepFiles tree pattern found
      else do
        Logged.debug ("Skipping ".toList ++ path ++ ", not a file".toList)
        keepFiles tree pattern found
  | .error f :: found => do
      Logged.error ("Error matching ".toList ++ pattern ++ [':', ' '] ++ f.message)
      keepFiles tree pattern found

/-- The files that fit one written pattern; an ill-formed one fits none. -/
def discoverOne (tree : FileTree) (pattern : Text) : Logged (List Text) := do
  Logged.trace ("Looking for files matching ".toList ++ pattern ++ "...".toList)
  match Glob.parse pattern with
  | .ok g => keepFiles tree pattern (g.expand tree)
  | .error e => do
      Logged.error ("Invalid pattern ".toList ++ pattern ++ [':', ' '] ++ e.message)
      pure []

/-- The files that fit some written patterns, pattern by pattern. -/
def discover (tree : FileTree) : List Text → Logged (List Text)
  | [] => pure []
  | pattern :: patterns => do
      let found ← discoverOne tree pattern
      (found ++ ·) <$> discover tree patterns

/-- Why there is no report on a file. -/
inductive FileFault where
  | source (e : SourceError)
  | scan (e : ScanError)
deriving DecidableEq, Repr

def FileFault.message : FileFault → Text
  | source e => e.message
  | scan e => e.message

/-- A file without a report. -/
structure Failure where
  path : Text
  fault : FileFault
deriving DecidableEq, Repr

def Failure.message (f : Failure) : Text := f.path ++ [':', ' '] ++ f.fault.message

section Scan

variable (tables : Encoding.Tables) (world : World) (job : Job)

/-- The report on a file. By the time it is read the log holds the records made before
and the one that tells of the opening. -/
def scanFile (before : List Log.Record) (path : Text) : Logged (Except Failure Report) := do
  let tree := world.after (before ++ [Source.opening path])
  match ← Source.load tables tree path job.encoding with
  | .error e => pure (.error ⟨path, .source e⟩)
  | .ok source =>
      match ← Report.attempt (source.withMode job.lineBreaks) with
      | .error e => pure (.error ⟨path, .scan e⟩)
      | .ok report => pure (.ok report)

/-- The reports on some files, in their order. -/
def scanFiles : (before : List Log.Record) → List Text →
    Logged (List (Except Failure Report))
  | _, [] => pure []
  | before, path :: paths => do
      let (result, made) ← (scanFile tables world job before path).listen
      (result :: ·) <$> scanFiles (before ++ made) paths

end Scan

def reports (results : List (Except Failure Report)) : List Report :=
  results.filterMap Except.toOption

def failures (results : List (Except Failure Report)) : List Failure :=
  results.filterMap fun
    | .ok _ => none
    | .error f => some f

/-- A line that tells a failure. -/
def failureLine (message : Text) : Styled := [.color .error, .text (message ++ ['\n']), .reset]

/-- All failures, then all reports in the form asked for. -/
def summary (json : Bool) (results : List (Except Failure Report)) : Styled :=
  (failures results).flatMap (fun f => failureLine f.message)
    ++ if json then [.text ((Report.listToJson (reports results)).render ++ ['\n'])]
      else Report.print (reports results)

end LexScan.Program
