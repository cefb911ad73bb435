import LexScan.Program
import LexScan.Proofs.AddedFile
import LexScan.Proofs.FileContents

/-!
# The log among the files

A run writes its log to a file while it looks for files and reads them. How much has been
written by then does not show in which files are found, and it shows in what is read only
on a path that leads to the log.
-/

namespace LexScan.Program

open CommandLine (Arguments)
open FileTree (SameBut LeafAt HasAbove)

namespace World

/-- A path leads to the log. -/
def LeadsToLog (w : World) (path : Text) : Prop :=
  ∃ place, w.logPlace? = some place ∧ w.tree.resolve path = .ok place

/-- Some files, and perhaps one among them to write the log to. -/
inductive Over (files : FileTree) (w : World) : Prop
  | unseen (hplace : w.logPlace? = none) (htree : w.tree = files)
  | seen {place : List Text} (hplace : w.logPlace? = some place)
      (htree : w.tree = files.write place []) (hleaf : LeafAt files place)
      (habove : HasAbove files place)

variable {files : FileTree} {w : World} {place : List Text} {path : Text}

section Over

variable (h : Over files w)
include h

theorem Over.tree_eq (hplace : w.logPlace? = none) : w.tree = files := by
  cases h with
  | unseen _ htree => exact htree
  | seen hsome => cases hsome.symm.trans hplace

theorem Over.written_nil : w.written [] = w.tree := by
  rw [written]
  cases h with
  | unseen hnone => rw [hnone]
  | seen hplace htree =>
    rw [hplace, htree]
    exact FileTree.write_write _ _ _ _

/-- But for the log the files stay as they were. -/
theorem Over.sameBut_written (hplace : w.logPlace? = some place)
    (records : List Log.Record) : SameBut place files (w.written records) := by
  cases h with
  | unseen hnone => cases hnone.symm.trans hplace
  | seen hplace' htree hleaf habove =>
    cases hplace'.symm.trans hplace
    rw [written, hplace, htree]
    dsimp only
    rw [FileTree.write_write]
    exact FileTree.sameBut_write hleaf habove _

theorem Over.sameBut_tree (hplace : w.logPlace? = some place) : SameBut place files w.tree :=
  h.written_nil ▸ h.sameBut_written hplace []

theorem Over.emptied_written (records : List Log.Record) :
    (w.written records).emptied = w.tree.emptied := by
  rw [written]
  cases h with
  | unseen hnone => rw [hnone]
  | seen hplace htree =>
    rw [hplace, htree]
    dsimp only
    rw [FileTree.write_write]
    exact FileTree.emptied_write _ _ _ _

/-- The same files are found, whatever the log holds. -/
theorem Over.discover_written (records : List Log.Record) (patterns : List Text) :
    discover (w.written records) patterns = discover w.tree patterns := by
  rw [← discover_emptied, h.emptied_written, discover_emptied]

theorem Over.newFiles_written (records : List Log.Record) (earlier : FileTree) :
    (w.written records).newFiles earlier = w.tree.newFiles earlier := by
  rw [← FileTree.newFiles_emptied, h.emptied_written, FileTree.newFiles_emptied]

theorem Over.lookup?_written {names : List Text} (hnames : w.logPlace? ≠ some names)
    (records : List Log.Record) : (w.written records).lookup? names = files.lookup? names := by
  cases hplace : w.logPlace? with
  | none => rw [written, hplace, h.tree_eq hplace]
  | some place =>
    apply (h.sameBut_written hplace records).elsewhere
    rintro rfl
    exact hnames hplace

/-- A file that is not the log holds what it held before. -/
theorem Over.read_written (hfile : w.tree.isFile path = true) (hpath : ¬ w.LeadsToLog path)
    (records : List Log.Record) : (w.written records).read path = files.read path := by
  obtain ⟨there, -, hresolve, -⟩ := FileTree.isFile_iff.mp hfile
  cases hplace : w.logPlace? with
  | none => rw [written, hplace, h.tree_eq hplace]
  | some place =>
    have hthere : there ≠ place := by
      rintro rfl
      exact hpath ⟨there, hplace, hresolve⟩
    have hbefore := (h.sameBut_tree hplace).symm.resolve hresolve hthere
    exact (h.sameBut_written hplace records).read_eq hbefore hthere

/-- A file was there before, or it is the log. -/
theorem Over.isFile_cases (hfile : w.tree.isFile path = true) :
    files.isFile path = true ∨ w.LeadsToLog path := by
  cases hplace : w.logPlace? with
  | none => exact .inl (h.tree_eq hplace ▸ hfile)
  | some place =>
    exact ((h.sameBut_tree hplace).isFile_cases hfile).imp_right fun hleads =>
      ⟨place, hplace, hleads⟩

end Over

end World

/-- What a run goes on with are its files, and the log among them if it could be opened. -/
theorem over_world (s : Surroundings) (a : Arguments) : (world s a).Over s.files := by
  rw [world]
  cases hopen : openLog s a with
  | error e => exact .unseen rfl rfl
  | ok w =>
    rw [openLog, FileTree.bind_eq_ok_iff] at hopen
    obtain ⟨⟨tree, place?⟩, hcreate, hopen⟩ := hopen
    cases hopen
    rcases FileTree.create_cases hcreate with
      ⟨hnone, htree⟩ | ⟨place, hplace, htree, hleaf, habove⟩
    · exact .unseen hnone htree
    · exact .seen hplace htree hleaf habove

end LexScan.Program
