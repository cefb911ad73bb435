import LexScan.FileTree
import LexScan.Glob

/-!
# Files that fit a pattern

The paths of a file tree that fit a pattern, directory by directory and in
ascending order of names. Names without wildcards are looked up, so that `.` and
`..` can stand among them; wildcards are compared with the names in a directory. A
directory that cannot be listed gives a fault in place of what is in it.
-/

namespace LexScan.Glob

/-- A directory that cannot be listed. -/
structure ListFault where
  path : Text
  cause : FileError
deriving DecidableEq, Repr

def ListFault.message (f : ListFault) : Text :=
  "attempting to read `".toList ++ f.path ++ "` resulted in an error: ".toList
    ++ f.cause.message

/-- What is found, in order, with the faults met on the way. -/
abbrev Findings (α : Type) := List (Except ListFault α)

/-- Goes on from all that was found. -/
def Findings.onward {α β : Type} (found : Findings α) (next : α → Findings β) : Findings β :=
  found.flatMap fun
    | .ok a => next a
    | .error f => [.error f]

/-- Whether a path stays in the current directory. -/
def isHere (path : Text) : Bool :=
  path.head? = some '.' && (path.splitOn '/').all fun name => name = ['.'] || name = []

/-- A path with one more name. -/
def append (path name : Text) : Text :=
  if path.getLast? = some '/' then path ++ name else path ++ ['/'] ++ name

/-- The path of a name in a directory; the current directory goes without saying. -/
def below (path name : Text) : Text := if isHere path then name else append path name

/-- The names in the directory at a path. -/
def listing (tree : FileTree) (path : Text) : Findings Text :=
  match tree.list path with
  | .ok names => names.map .ok
  | .error e => [.error ⟨path, e⟩]

/-- All paths below a directory down to a depth, each with its last name, and
each before those below it. -/
def descendants (tree : FileTree) : (depth : Nat) → (path : Text) → Findings (Text × Text)
  | 0, _ => []
  | depth + 1, path =>
      (listing tree path).onward fun name =>
        .ok (below path name, name)
          :: if tree.isDirectory (below path name) then
              descendants tree depth (below path name)
            else []

/-- All paths below a directory. There is nothing deeper than a path may be long. -/
def allBelow (tree : FileTree) (path : Text) : Findings (Text × Text) :=
  descendants tree FileTree.pathLimit path

def isRecursive (name : List Token) : Bool := name = [.anyDirectories]

/-- The special names that fit a pattern that starts with a dot. -/
def specialNames (name : List Token) : List Text :=
  if name.head? = some (.char '.') then [['.', '.'], ['.']].filter (fits name) else []

/-- Whether a name without wildcards leads somewhere from a directory. -/
def leads (tree : FileTree) (path name : Text) : Bool :=
  if name = ['.'] ∨ name = ['.', '.'] then tree.isDirectory path
  else (tree.find? (below path name)).isSome

/-- The paths from a path on that fit the names of a pattern. -/
def expandFrom (tree : FileTree) : List (List Token) → (path : Text) → Findings Text
  | [], path => [.ok path]
  | name :: names, path =>
      match literal? name with
      | some spelled =>
          if leads tree path spelled then expandFrom tree names (below path spelled) else []
      | none =>
          if ¬tree.isDirectory path then []
          else if isRecursive name then
            match names with
            | [] =>
                (allBelow tree path).onward fun (found, _) =>
                  if tree.isDirectory found then [.ok found] else []
            | next :: names =>
                if isRecursive next then expandFrom tree (next :: names) path
                else (allBelow tree path).onward fun (found, last) =>
                  if fits next last then expandFrom tree names found else []
          else
            (if (tree.list path).isOk then
              (specialNames name).flatMap fun special =>
                expandFrom tree names (append path special)
            else [])
              ++ (listing tree path).onward fun child =>
                if fits name child then expandFrom tree names (below path child) else []

/-- The paths that fit a pattern. -/
def expand (g : Glob) (tree : FileTree) : Findings Text :=
  (expandFrom tree g.names (if g.absolute then ['/'] else ['.'])).filter fun
    | .ok path => !g.directoriesOnly || tree.isDirectory path
    | .error _ => true

end LexScan.Glob
