import LexScan.Program

/-!
# Command line of `textscan`

Collects what a run depends on, lets `Program.run` decide, and carries out what it
comes to. Of the files those are seen that are below the current directory, below the
directories that patterns and the log file are written from, and below those that links
lead to; all of them are taken to be writable, and a file with several names is seen as
several files. The width of the terminal is taken from `COLUMNS`, with 80 where that is no
number, and the number of its colours from `TERM`. There are no tables of East Asian
encodings.
-/

namespace LexScan.Program

/-- The names on a path from the root. -/
def namesOf (path : Text) : List Text := (path.splitOn '/').filter (· ≠ [])

/-- Why something could not be done. -/
def faultOf : IO.Error → FileError
  | .noFileOrDirectory .. => .notFound
  | .permissionDenied .. => .permissionDenied
  | .inappropriateType .. => .notADirectory
  | e => .system 5 (toString e).toList

/-- The entries below a directory that is no link, and the places that links lead to. -/
partial def listBelow (place : String) : IO (List (List Text × FileEntry) × List String) := do
  let names := namesOf place.toList
  let listed : IO (Array IO.FS.DirEntry) := do (← IO.FS.realPath place).readDir
  match ← listed.toBaseIO with
  | .error e => return ([(names, ⟨.directory, { reading := some (faultOf e) }⟩)], [])
  | .ok found =>
      let mut entries := [(names, FileEntry.directory)]
      let mut targets := []
      for entry in found do
        let below := names ++ [entry.fileName.toList]
        match ← entry.path.symlinkMetadata.toBaseIO with
        | .error e =>
            entries := (names, ⟨.directory, { entering := some (faultOf e) }⟩) :: entries
              ++ [(below, .file [])]
        | .ok metadata =>
            match metadata.type with
            | .dir =>
                let (more, further) ← listBelow entry.path.toString
                entries := entries ++ more
                targets := targets ++ further
            | .file => entries := entries ++ [(below, .file [])]
            | .symlink =>
                -- A link that leads nowhere is taken to lead to itself.
                let target ← (IO.FS.realPath entry.path).toBaseIO
                let spelled := (target.toOption.getD entry.path).toString
                entries := entries ++ [(below, ⟨.link spelled.toList, {}⟩)]
                targets := targets ++ (target.toOption.map toString).toList
            | .other => entries := entries ++ [(below, ⟨.device [], {}⟩)]
      return (entries, targets)

/-- The entries below some directories and below those that links lead to. -/
partial def listAll (entries : List (List Text × FileEntry)) :
    List String → IO (List (List Text × FileEntry))
  | [] => return entries
  | place :: places => do
      if entries.any (·.1 = namesOf place.toList) then listAll entries places
      else
        let (found, targets) ← listBelow place
        listAll (entries ++ found) (places ++ targets)

/-- The directory that a pattern is written from: its names before the first wildcard, but
not the last one. -/
def base (pattern : Text) : Text :=
  let literal := pattern.takeWhile fun c => !"?*[".toList.contains c
  (literal.reverse.dropWhile (· ≠ '/')).reverse

/-- The directories below which files are seen. -/
def places (s : Surroundings) : IO (List String) := do
  let written := match check s with
    | .ok job => logFile s job.arguments :: job.arguments.rest
    | .error _ => []
  let found ← written.filterMapM fun pattern => do
    return (← (IO.FS.realPath (String.ofList (base pattern))).toBaseIO).toOption.map toString
  return (← IO.currentDir).toString :: found

/-- The tree with the contents of some of its files. -/
def readFiles (tree : FileTree) (paths : List Text) : IO FileTree :=
  paths.foldlM (fun tree path => do
    match tree.resolve path with
    | .error _ => return tree
    | .ok names =>
        match ← (IO.FS.readBinFile (String.ofList path)).toBaseIO with
        | .ok content => return tree.put names (.file content.toList)
        | .error e => return tree.put names ⟨.file [], { reading := some (faultOf e) }⟩) tree

/-- The variables of the environment that a run may ask for. -/
def readEnvironment : IO (List (Text × Text)) := do
  let names := [logLevelVariable, logFileVariable, colorModeVariable]
  let values ← names.mapM fun name => do
    return (← IO.getEnv (String.ofList name)).map fun value => (name, value.toList)
  return values.filterMap id

/-- What the name of the terminal says about its colours. -/
def readColors : IO (Option Text) := do
  match ← IO.getEnv "TERM" with
  | some name => return if (name.splitOn "256color").length > 1 then some "256".toList else none
  | none => return none

/-- A line of the log file; it does not tell the time. -/
def fileLine (_ : Nat) (r : Log.Record) : Bytes :=
  (String.ofList (r.display ++ ['\n'])).toUTF8.toList

end LexScan.Program

open LexScan Program

def main (arguments : List String) : IO UInt32 := do
  let isTerminal ← (← IO.getStdout).isTty
  let columns := ((← IO.getEnv "COLUMNS").bind String.toNat?).getD 80
  let here := namesOf (← IO.currentDir).toString.toList
  let named : Surroundings :=
    { command := (← IO.appPath).toString.toList :: arguments.map String.toList,
      environment := ← readEnvironment, files := { here }, isTerminal,
      columns := if isTerminal then some columns else none, colors := ← readColors, fileLine }
  let entries ← listAll [] (← places named)
  let seen := { named with files := { named.files with entries } }
  let outcome := Program.run { seen with files := ← readFiles seen.files (Program.discovered seen) }
  if let some path := outcome.logFile then
    IO.FS.writeFile (String.ofList path)
      (String.ofList (outcome.log.flatMap fun r => r.display ++ ['\n']))
  IO.print (String.ofList outcome.outputText)
  (← IO.getStdout).flush
  IO.eprint (String.ofList outcome.logText)
  return outcome.ending.code.toUInt32
