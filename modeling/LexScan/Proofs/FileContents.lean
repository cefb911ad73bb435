import LexScan.Program.Files

/-!
# Files without their contents

Paths are followed, directories are listed and patterns are expanded by names alone: what a
file holds plays no part before it is read. This is shown by comparing a tree with the same
tree whose files are all empty. So it does not matter to a search for files how much has
been written to a file by then.
-/

namespace LexScan

/-- What is left of an entry without the bytes that it holds. -/
def FileKind.emptied : FileKind → FileKind
  | file _ => file []
  | kind => kind

def FileEntry.emptied (e : FileEntry) : FileEntry := { e with kind := e.kind.emptied }

@[simp] theorem FileKind.emptied_eq_directory {kind : FileKind} :
    kind.emptied = directory ↔ kind = directory := by
  cases kind <;> simp [emptied]

@[simp] theorem FileEntry.isFile_emptied (e : FileEntry) : e.emptied.isFile = e.isFile := by
  rw [isFile, isFile, emptied]
  cases e.kind <;> rfl

namespace FileTree

/-- The tree with nothing in its files. -/
def emptied (tree : FileTree) : FileTree :=
  { tree with entries := tree.entries.map fun e => (e.1, e.2.emptied) }

/-! ## Following a path -/

theorem find?_entries_emptied (entries : List (List Text × FileEntry)) (names : List Text) :
    (entries.map fun e => (e.1, e.2.emptied)).find? (·.1 = names) =
      (entries.find? (·.1 = names)).map fun e => (e.1, e.2.emptied) := by
  rw [List.find?_map]
  rfl

theorem lookup?_emptied (tree : FileTree) (names : List Text) :
    tree.emptied.lookup? names = (tree.lookup? names).map FileEntry.emptied := by
  have hany : (tree.entries.map fun e => (e.1, e.2.emptied)).any
      (fun e => names.isPrefixOf e.1) = tree.entries.any fun e => names.isPrefixOf e.1 := by
    rw [List.any_map]
    rfl
  rw [lookup?, lookup?, emptied, find?_entries_emptied]
  simp only [hany]
  cases tree.entries.find? (·.1 = names) with
  | some e => rfl
  | none =>
    dsimp only [Option.map_none]
    split <;> rfl

theorem kind?_emptied (tree : FileTree) (names : List Text) :
    tree.emptied.kind? names = (tree.kind? names).map FileKind.emptied := by
  rw [kind?, kind?, lookup?_emptied, Option.map_map, Option.map_map]
  rfl

theorem kind?_emptied_eq_directory (tree : FileTree) (names : List Text) :
    tree.emptied.kind? names = some .directory ↔ tree.kind? names = some .directory := by
  rw [kind?_emptied, Option.map_eq_some_iff]
  simp

@[simp] theorem allow_emptied (tree : FileTree) (names : List Text)
    (fault : Faults → Option FileError) :
    tree.emptied.allow names fault = tree.allow names fault := by
  rw [allow, allow, lookup?_emptied]
  cases tree.lookup? names <;> rfl

theorem allowLookup_emptied (tree : FileTree) (here : List Text) (name : Text) :
    tree.emptied.allowLookup here name = tree.allowLookup here name := by
  simp only [allowLookup, ne_eq, kind?_emptied_eq_directory, allow_emptied]

theorem stretch_emptied (tree : FileTree) (creating : Bool) (here names : List Text) :
    tree.emptied.stretch creating here names = tree.stretch creating here names := by
  induction names generalizing here with
  | nil => rfl
  | cons name names ih =>
    simp only [stretch, allowLookup_emptied, kind?_emptied, ih]
    cases tree.kind? (here ++ [name]) with
    | none => rfl
    | some kind => cases kind <;> rfl

theorem walk_emptied (tree : FileTree) (creating : Bool) (links : Nat)
    (here names : List Text) :
    tree.emptied.walk creating links here names = tree.walk creating links here names := by
  induction links generalizing here names with
  | zero =>
    rw [walk.eq_def, walk.eq_def]
    simp only [stretch_emptied]
  | succ links ih =>
    rw [walk.eq_def, walk.eq_def]
    simp only [stretch_emptied, ih]

@[simp] theorem resolve_emptied (tree : FileTree) (path : Text) :
    tree.emptied.resolve path = tree.resolve path := by
  simp only [resolve, follow, walk_emptied]
  rfl

theorem find?_emptied (tree : FileTree) (path : Text) :
    tree.emptied.find? path = (tree.find? path).map FileEntry.emptied := by
  rw [find?, find?, resolve_emptied]
  cases tree.resolve path with
  | ok names => exact lookup?_emptied tree names
  | error e => rfl

@[simp] theorem isDirectory_emptied (tree : FileTree) (path : Text) :
    tree.emptied.isDirectory path = tree.isDirectory path := by
  rw [isDirectory, isDirectory, find?_emptied]
  cases tree.find? path <;> simp [FileEntry.emptied]

@[simp] theorem isFile_emptied (tree : FileTree) (path : Text) :
    tree.emptied.isFile path = tree.isFile path := by
  rw [isFile, isFile, find?_emptied]
  cases tree.find? path <;> simp

theorem list_emptied (tree : FileTree) (path : Text) :
    tree.emptied.list path = tree.list path := by
  have hchildren : tree.emptied.children = tree.children := by
    funext names
    simp only [children, emptied, List.map_map]
    rfl
  simp only [list, resolve_emptied, ne_eq, kind?_emptied_eq_directory, allow_emptied, hchildren]

end FileTree

namespace Glob

variable (tree : FileTree)

/-! ## Expanding a pattern -/

theorem listing_emptied : listing tree.emptied = listing tree := by
  funext path
  rw [listing, listing, FileTree.list_emptied]

theorem descendants_emptied (n : Nat) (path : Text) :
    descendants tree.emptied n path = descendants tree n path := by
  induction n generalizing path with
  | zero => rfl
  | succ n ih => simp only [descendants, listing_emptied, FileTree.isDirectory_emptied, ih]

theorem leads_emptied (path name : Text) :
    leads tree.emptied path name = leads tree path name := by
  simp only [leads, FileTree.isDirectory_emptied, FileTree.find?_emptied,
    Option.isSome_map]

theorem expandFrom_emptied (names : List (List Token)) (path : Text) :
    expandFrom tree.emptied names path = expandFrom tree names path := by
  have hbelow : allBelow tree.emptied = allBelow tree :=
    funext fun path => descendants_emptied tree _ path
  -- By the recursion of the expansion: whatever it asks of the tree has been shown to be the
  -- same without contents.
  fun_induction expandFrom tree names path with
  | case1 path => rfl
  | case2 name names path spelled hliteral hleads ih =>
    simp only [expandFrom.eq_def tree.emptied (name :: _), hliteral, leads_emptied, hleads,
      if_true, ih]
  | case3 name names path spelled hliteral hleads =>
    simp only [expandFrom.eq_def tree.emptied (name :: _), hliteral, leads_emptied, if_neg hleads]
  | case4 name names path hliteral hdirectory =>
    simp only [expandFrom.eq_def tree.emptied (name :: _), hliteral,
      FileTree.isDirectory_emptied, if_pos hdirectory]
  | case5 name path hliteral hdirectory hrecursive =>
    simp only [expandFrom.eq_def tree.emptied (name :: _), hliteral,
      FileTree.isDirectory_emptied, if_neg hdirectory, if_pos hrecursive, hbelow]
  | case6 name path hliteral hdirectory hrecursive next names hnext ih =>
    rw [expandFrom]
    simp only [hliteral, FileTree.isDirectory_emptied, if_neg hdirectory, if_pos hrecursive,
      if_pos hnext, ih]
  | case7 name path hliteral hdirectory hrecursive next names hnext ih =>
    simp only [expandFrom.eq_def tree.emptied (name :: _), hliteral,
      FileTree.isDirectory_emptied, if_neg hdirectory, if_pos hrecursive, if_neg hnext, hbelow, ih]
  | case8 name names path hliteral hdirectory hrecursive ihspecial ihchild =>
    simp only [expandFrom.eq_def tree.emptied (name :: _), hliteral,
      FileTree.isDirectory_emptied, if_neg hdirectory, if_neg hrecursive, FileTree.list_emptied,
      listing_emptied, ihspecial, ihchild]

theorem expand_emptied (g : Glob) : g.expand tree.emptied = g.expand tree := by
  simp only [expand, expandFrom_emptied, FileTree.isDirectory_emptied]

end Glob

namespace Program

theorem keepFiles_emptied (tree : FileTree) (pattern : Text) (found : Glob.Findings Text) :
    keepFiles tree.emptied pattern found = keepFiles tree pattern found := by
  induction found with
  | nil => rfl
  | cons item found ih =>
    cases item with
    | ok path => simp only [keepFiles, FileTree.isFile_emptied, ih]
    | error f => simp only [keepFiles, ih]

theorem discover_emptied (tree : FileTree) (patterns : List Text) :
    discover tree.emptied patterns = discover tree patterns := by
  induction patterns with
  | nil => rfl
  | cons pattern patterns ih =>
    simp only [discover, discoverOne, Glob.expand_emptied, keepFiles_emptied, ih]

end Program

namespace FileTree

/-! ## One file -/

theorem emptied_write (tree : FileTree) (place : List Text) (content written : Bytes) :
    (tree.write place content).emptied = (tree.write place written).emptied := by
  simp only [emptied, write, put, List.map_append, List.map_cons, FileEntry.emptied,
    FileKind.emptied]

theorem newFiles_emptied (tree earlier : FileTree) :
    tree.emptied.newFiles earlier = tree.newFiles earlier := by
  rw [newFiles, emptied, List.filter_map, List.map_map, newFiles]
  simp only [Function.comp_def, FileEntry.isFile_emptied]

end FileTree

end LexScan
