import LexScan.Encoding.Reading

/-!
# Files by path

A file system as a value: what stands under which names, from the root down, and
which directory is the current one. Paths are followed name by name as a system
does it: every name but the last has to be a directory, `.` stays, `..` goes up,
a link leads on to the path that it holds, and names that are too long fail before
they are looked up. A file can have more names than one. An entry can have faults of
its own, so that it is found and yet cannot be read, written or entered.
-/

namespace LexScan

/-- Why a path cannot be opened. -/
inductive FileError where
  | notFound
  | notADirectory
  | isADirectory
  | nameTooLong
  | nulInName
  | permissionDenied
  | tooManyLinks
  /-- Any other error of the system, with its number and its text. -/
  | system (number : Nat) (text : Text)
deriving DecidableEq, Repr

def FileError.message : FileError → Text
  | notFound => "No such file or directory (os error 2)".toList
  | notADirectory => "Not a directory (os error 20)".toList
  | isADirectory => "Is a directory (os error 21)".toList
  | nameTooLong => "File name too long (os error 36)".toList
  | nulInName => "file name contained an unexpected NUL byte".toList
  | permissionDenied => "Permission denied (os error 13)".toList
  | tooManyLinks => "Too many levels of symbolic links (os error 40)".toList
  | system number text => text ++ " (os error ".toList ++ Text.ofNat number ++ [')']

/-- Why an entry cannot be used, for each way to use it. -/
structure Faults where
  /-- In the way of reading a file or of listing a directory. -/
  reading : Option FileError := none
  /-- In the way of writing a file or of making one in a directory. -/
  writing : Option FileError := none
  /-- In the way of looking names up in a directory. -/
  entering : Option FileError := none
deriving DecidableEq, Repr

/-- What a name stands for. -/
inductive FileKind where
  | file (content : Bytes)
  | directory
  /-- Neither of these, such as a terminal. What is written to it does not stay. -/
  | device (content : Bytes)
  /-- Stands for the path that it holds. -/
  | link (target : Text)
  /-- The file that has its place under other names. -/
  | shared (place : List Text)
deriving DecidableEq, Repr

/-- The place of what stands under some names and is no link. -/
def FileKind.placed (kind : FileKind) (names : List Text) : List Text :=
  match kind with
  | shared place => place
  | _ => names

structure FileEntry where
  kind : FileKind
  faults : Faults := {}
deriving DecidableEq, Repr

namespace FileEntry

def file (content : Bytes) : FileEntry := { kind := .file content }

def directory : FileEntry := { kind := .directory }

def isFile (e : FileEntry) : Bool :=
  match e.kind with
  | .file _ => true
  | _ => false

end FileEntry

/-- Entries by their names from the root down. The directories that lead to a listed
name or to the current directory need not be listed themselves. -/
structure FileTree where
  entries : List (List Text × FileEntry) := []
  /-- The names of the current directory, none of them a link. -/
  here : List Text := []
deriving DecidableEq, Repr

namespace FileTree

/-! ## Entries -/

/-- The entry with the given names. -/
def lookup? (tree : FileTree) (names : List Text) : Option FileEntry :=
  match tree.entries.find? (·.1 = names) with
  | some e => some e.2
  | none =>
      if names.isPrefixOf tree.here ∨ tree.entries.any (fun e => names.isPrefixOf e.1) then
        some .directory
      else none

def kind? (tree : FileTree) (names : List Text) : Option FileKind :=
  (tree.lookup? names).map (·.kind)

/-- Fails if a fault is in the way of using an entry. -/
def allow (tree : FileTree) (names : List Text) (fault : Faults → Option FileError) :
    Except FileError Unit :=
  match (tree.lookup? names).bind fun e => fault e.faults with
  | some e => .error e
  | none => .ok ()

/-- Whether a name can stand in a directory: no slash is in it, and it is none of those
that lead to the directory itself or to the one above. -/
def isName (name : Text) : Bool :=
  name ≠ [] && name ≠ ['.'] && name ≠ ['.', '.'] && !name.contains '/'

/-- The names in a directory, in ascending order. -/
def children (tree : FileTree) (names : List Text) : List Text :=
  (((tree.here :: tree.entries.map (·.1)).filterMap fun all =>
    if names.isPrefixOf all then (all.drop names.length).head?
    else none).filter isName).eraseDups.mergeSort Text.notAfter

/-! ## Following a path -/

/-- Where a path leads: to a place, or to a name in a directory under which nothing
stands yet. -/
inductive Arrival where
  | place (names : List Text)
  | free (above : List Text) (name : Text)
deriving DecidableEq, Repr

/-- Where names lead if no link is followed: perhaps to a link in a directory, with more
names to follow behind it. -/
inductive Stop where
  | arrival (there : Arrival)
  | link (above : List Text) (target : Text) (more : List Text)
deriving DecidableEq, Repr

/-- Fails if a name cannot be looked up from a place. An empty name, which stands behind
a slash, asks for a directory and for nothing in it. -/
def allowLookup (tree : FileTree) (here : List Text) (name : Text) : Except FileError Unit :=
  if tree.kind? here ≠ some .directory then .error .notADirectory
  else if name = [] then .ok ()
  else tree.allow here Faults.entering

/-- Follows names from a place up to the first link. The last name may be free; where a
file is to be created, no slash may be behind it. -/
def stretch (tree : FileTree) (creating : Bool) (here : List Text) :
    List Text → Except FileError Stop
  | [] => .ok (.arrival (.place here))
  | name :: names => do
      tree.allowLookup here name
      if creating ∧ names ≠ [] ∧ names.all (· = []) then .error .isADirectory
      else if name = [] ∨ name = ['.'] then tree.stretch creating here names
      else if name = ['.', '.'] then tree.stretch creating here.dropLast names
      else if 255 < name.size then .error .nameTooLong
      else match tree.kind? (here ++ [name]) with
        | none => if names = [] then .ok (.arrival (.free here name)) else .error .notFound
        | some (.link target) => .ok (.link here target names)
        | some kind => tree.stretch creating (kind.placed (here ++ [name])) names

/-- The place that a path starts from. -/
def origin (here : List Text) (path : Text) : List Text :=
  if path.head? = some '/' then [] else here

/-- Follows names from a place and as many links as are given. -/
def walk (tree : FileTree) (creating : Bool) :
    (links : Nat) → (here names : List Text) → Except FileError Arrival
  | links, here, names => do
      match ← tree.stretch creating here names with
      | .arrival there => .ok there
      | .link above target more =>
          match links with
          | 0 => .error .tooManyLinks
          | links + 1 =>
              tree.walk creating links (origin above target) (target.splitOn '/' ++ more)

/-- The number of links that are followed on one path. -/
def linkLimit : Nat := 40

/-- Paths have to be shorter than this many bytes. -/
def pathLimit : Nat := 4096

/-- Faults of a path that show before it is followed. -/
def checkPath (path : Text) : Except FileError Unit :=
  if path.contains '\x00' then .error .nulInName
  else if path = [] then .error .notFound
  else if pathLimit ≤ path.size then .error .nameTooLong
  else .ok ()

/-- Follows a path. -/
def follow (tree : FileTree) (creating : Bool) (path : Text) : Except FileError Arrival := do
  checkPath path
  tree.walk creating linkLimit (origin tree.here path) (path.splitOn '/')

/-- The place that a path leads to. -/
def resolve (tree : FileTree) (path : Text) : Except FileError (List Text) := do
  match ← tree.follow false path with
  | .place names => .ok names
  | .free _ _ => .error .notFound

/-! ## What is at a path -/

/-- What a path leads to. -/
def find? (tree : FileTree) (path : Text) : Option FileEntry :=
  match tree.resolve path with
  | .ok names => tree.lookup? names
  | .error _ => none

def isDirectory (tree : FileTree) (path : Text) : Bool :=
  (tree.find? path).any (·.kind = .directory)

def isFile (tree : FileTree) (path : Text) : Bool := (tree.find? path).any (·.isFile)

/-- The bytes of the file at a path. -/
def read (tree : FileTree) (path : Text) : Except FileError Bytes := do
  let names ← tree.resolve path
  tree.allow names Faults.reading
  match tree.kind? names with
  | some (.file content) => .ok content
  | some (.device content) => .ok content
  | some .directory => .error .isADirectory
  | _ => .error .notFound

/-- The names in the directory at a path. -/
def list (tree : FileTree) (path : Text) : Except FileError (List Text) := do
  let names ← tree.resolve path
  if tree.kind? names ≠ some .directory then .error .notADirectory
  else
    tree.allow names Faults.reading
    return tree.children names

/-! ## Changes -/

/-- Sets what stands under some names. -/
def put (tree : FileTree) (names : List Text) (e : FileEntry) : FileTree :=
  { tree with entries := tree.entries.filter (·.1 ≠ names) ++ [(names, e)] }

/-- Sets what the file under some names holds. -/
def write (tree : FileTree) (names : List Text) (content : Bytes) : FileTree :=
  tree.put names ⟨.file content, ((tree.lookup? names).map (·.faults)).getD {}⟩

/-- Opens the file at a path for writing: the tree with the file empty, and the place of
the file if what is written to it stays. -/
def create (tree : FileTree) (path : Text) :
    Except FileError (FileTree × Option (List Text)) := do
  match ← tree.follow true path with
  | .free above name =>
      tree.allow above Faults.writing
      return (tree.write (above ++ [name]) [], some (above ++ [name]))
  | .place names =>
      match tree.kind? names with
      | some (.file _) =>
          tree.allow names Faults.writing
          return (tree.write names [], some names)
      | some (.device _) =>
          tree.allow names Faults.writing
          return (tree, none)
      | _ => .error .isADirectory

/-- The places of the files that are not in an earlier tree. -/
def newFiles (tree earlier : FileTree) : List (List Text) :=
  (tree.entries.filter fun e => e.2.isFile && (earlier.lookup? e.1).isNone).map (·.1)

end FileTree

end LexScan
