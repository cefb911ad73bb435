import LexScan.Glob.Expand
import LexScan.Proofs.FilePaths

/-!
# Expanded patterns

The expansion of a pattern goes from directory to directory: a path with one more name
leads through the path itself, a name in a directory leads to what the directory has under
it, and below what is no directory nothing is found. It goes no deeper than a path can be
long, so that links which lead back up do not keep it going.
-/

namespace LexScan

namespace Glob

open FileTree (Leads isName isDirectory_iff resolve_eq_ok_iff)

variable {tree : FileTree} {there above : List Text} {name path : Text}

/-! ## Longer paths -/

theorem isName_iff : isName name = true ↔
    name ≠ [] ∧ name ≠ ['.'] ∧ name ≠ ['.', '.'] ∧ '/' ∉ name := by
  simp [isName, and_assoc]

/-- A path with one more name leads through the path itself, which is a directory. -/
theorem resolve_append (hpath : path ≠ []) (h : tree.resolve (append path name) = .ok there) :
    ∃ here n, tree.resolve path = .ok here ∧ tree.kind? here = some .directory ∧
      Leads tree here (name.splitOn '/') there n := by
  obtain ⟨hcheck, n, hn, hleads⟩ := resolve_eq_ok_iff.mp h
  have hcheck' : FileTree.checkPath path = .ok () := by
    obtain ⟨more, hmore⟩ : path <+: append path name := by
      rw [append]
      split
      · exact List.prefix_append _ _
      · exact (List.prefix_append _ _).trans (List.prefix_append _ _)
    rw [FileTree.checkPath_eq_ok_iff, ← hmore] at hcheck
    rw [FileTree.checkPath_eq_ok_iff]
    refine ⟨fun hmem => hcheck.1 (List.mem_append_left _ hmem), hpath, ?_⟩
    have hsize := hcheck.2.2
    rw [Text.size_append] at hsize
    omega
  have horigin : ∀ more, FileTree.origin tree.here (path ++ more) =
      FileTree.origin tree.here path := by
    intro more
    rw [FileTree.origin, FileTree.origin, List.head?_append_of_ne_nil _ hpath]
  by_cases hslash : path.getLast? = some '/'
  · -- The slash is there already, with an empty name behind it in the path itself.
    obtain ⟨front, rfl⟩ := List.getLast?_eq_some_iff.mp hslash
    rw [append, if_pos hslash, horigin, List.append_assoc, List.singleton_append,
      Text.splitOn_eq_splitOn, List.splitOn_append_cons_self,
      FileTree.leads_append_iff] at hleads
    obtain ⟨here, k, l, rfl, hfront, hname⟩ := hleads
    rw [← Text.splitOn_eq_splitOn] at hname
    have hkind := hname.eq_nil_or_directory.resolve_left (Text.splitOn_ne_nil '/' name)
    have hstay : Leads tree here [[]] here 0 :=
      .step (.stay (FileTree.allowLookup_eq_ok_iff.mpr ⟨hkind, fun h => absurd rfl h⟩)
        (.inl rfl)) .done
    refine ⟨here, l, resolve_eq_ok_iff.mpr ⟨hcheck', k, by omega, ?_⟩, hkind, hname⟩
    rw [Text.splitOn_eq_splitOn, List.splitOn_append_cons_self]
    exact FileTree.leads_append_iff.mpr ⟨here, k, 0, rfl, hfront, hstay⟩
  · rw [append, if_neg hslash, List.append_assoc, horigin, List.singleton_append,
      Text.splitOn_eq_splitOn, List.splitOn_append_cons_self, FileTree.leads_append_iff,
      ← Text.splitOn_eq_splitOn, ← Text.splitOn_eq_splitOn] at hleads
    obtain ⟨here, k, l, rfl, hhere, hname⟩ := hleads
    exact ⟨here, l, resolve_eq_ok_iff.mpr ⟨hcheck', k, by omega, hhere⟩,
      hname.eq_nil_or_directory.resolve_left (Text.splitOn_ne_nil '/' name), hname⟩

/-- A path that stays in the current directory leads to it. -/
theorem resolve_of_isHere (hhere : isHere path = true) (h : tree.resolve path = .ok there) :
    there = tree.here ∧ tree.kind? there = some .directory := by
  obtain ⟨-, n, -, hleads⟩ := resolve_eq_ok_iff.mp h
  rw [isHere, Bool.and_eq_true, List.all_eq_true, decide_eq_true_iff] at hhere
  obtain ⟨hdot, hnames⟩ := hhere
  rw [FileTree.origin, if_neg (by rw [hdot]; decide)] at hleads
  have hkind := hleads.eq_nil_or_directory.resolve_left (Text.splitOn_ne_nil '/' path)
  -- None of the names leads away.
  have hstay : ∀ {here names there n}, Leads tree here names there n →
      (∀ name ∈ names, (name = ['.'] || name = []) = true) → there = here := by
    intro here names there n hleads hnames
    induction hleads with
    | done => rfl
    | step hstep _ ih =>
      rw [List.forall_mem_cons] at hnames
      rw [ih hnames.2]
      cases hstep with
      | stay _ _ => rfl
      | up _ => exact absurd hnames.1 (by decide)
      | down h _ => exact absurd (by simpa [or_comm] using hnames.1) h.not_here
    | link hlink _ _ =>
      rw [List.forall_mem_cons] at hnames
      exact absurd (by simpa [or_comm] using hnames.1) hlink.not_here
  obtain rfl := hstay hleads hnames
  exact ⟨rfl, hkind⟩

/-- A name that leads anywhere from a directory has an entry in it. -/
theorem isSome_lookup?_of_leads {here : List Text} {n : Nat} (hname : isName name = true)
    (h : Leads tree here [name] there n) : (tree.lookup? (here ++ [name])).isSome = true := by
  obtain ⟨hnil, hdot, hdots, -⟩ := isName_iff.mp hname
  cases h with
  | step hstep _ =>
    cases hstep with
    | stay _ hself => exact absurd hself (not_or.mpr ⟨hnil, hdot⟩)
    | up _ => exact absurd rfl hdots
    | down h _ => exact FileTree.isSome_lookup?_of_kind? h.kind?_eq
  | link h _ => exact FileTree.isSome_lookup?_of_kind? h.kind?_eq

/-- Under the path of a name in a directory nothing is found but what the directory has. -/
theorem resolve_below (hname : isName name = true) (hpath : tree.resolve path = .ok above)
    (h : tree.resolve (below path name) = .ok there) :
    (tree.lookup? (above ++ [name])).isSome = true := by
  have hslash := (isName_iff.mp hname).2.2.2
  rw [below] at h
  split at h
  · next hhere =>
    obtain ⟨rfl, -⟩ := resolve_of_isHere hhere hpath
    obtain ⟨-, n, -, hleads⟩ := resolve_eq_ok_iff.mp h
    have hhead : name.head? ≠ some '/' := fun hhead => hslash (List.mem_of_mem_head? hhead)
    rw [FileTree.origin, if_neg hhead, Text.splitOn_of_not_mem hslash] at hleads
    exact isSome_lookup?_of_leads hname hleads
  · obtain ⟨here, n, hhere, -, hleads⟩ := resolve_append (FileTree.ne_nil_of_resolve hpath) h
    cases hhere.symm.trans hpath
    rw [Text.splitOn_of_not_mem hslash] at hleads
    exact isSome_lookup?_of_leads hname hleads

theorem below_ne_nil (hname : isName name = true) (path : Text) : below path name ≠ [] := by
  have hnil := (isName_iff.mp hname).1
  rw [below, append]
  split
  · exact hnil
  · split <;> simp [hnil]

/-- With a name at its end a path leads away from the current directory. -/
theorem isHere_below (hname : isName name = true) (path : Text) :
    isHere (below path name) = false := by
  obtain ⟨hnil, hdot, -, hslash⟩ := isName_iff.mp hname
  have hlast : ∀ front : Text, isHere (front ++ '/' :: name) = false := by
    intro front
    simp [isHere, Text.splitOn_eq_splitOn, List.splitOn_append_cons_self,
      List.splitOn_eq_singleton hslash, hdot, hnil]
  rw [below]
  split
  · simp [isHere, Text.splitOn_of_not_mem hslash, hdot, hnil]
  · rw [append]
    split
    · next hend =>
      obtain ⟨front, rfl⟩ := List.getLast?_eq_some_iff.mp hend
      rw [List.append_assoc]
      exact hlast front
    · rw [List.append_assoc]
      exact hlast path

/-! ## Expanding a pattern -/

variable {α β : Type}

theorem mem_onward_iff {found : Findings α} {next : α → Findings β} {b : β} :
    .ok b ∈ found.onward next ↔ ∃ a, .ok a ∈ found ∧ .ok b ∈ next a := by
  rw [Findings.onward, List.mem_flatMap]
  constructor
  · rintro ⟨item, hitem, hb⟩
    cases item with
    | ok a => exact ⟨a, hitem, hb⟩
    | error f => simp at hb
  · rintro ⟨a, ha, hb⟩
    exact ⟨.ok a, ha, hb⟩

theorem onward_congr {found : Findings α} {next next' : α → Findings β}
    (h : ∀ a, .ok a ∈ found → next a = next' a) : found.onward next = found.onward next' := by
  apply List.flatMap_congr
  intro item hitem
  cases item with
  | ok a => exact h a hitem
  | error f => rfl

theorem mem_listing_iff : .ok name ∈ listing tree path ↔
    ∃ there, tree.resolve path = .ok there ∧ tree.kind? there = some .directory ∧
      tree.allow there Faults.reading = .ok () ∧ isName name = true ∧
      (tree.lookup? (there ++ [name])).isSome = true := by
  have hlist : .ok name ∈ listing tree path ↔
      ∃ names, tree.list path = .ok names ∧ name ∈ names := by
    rw [listing]
    cases tree.list path with
    | ok names => simp
    | error e => simp
  rw [hlist]
  constructor
  · rintro ⟨names, hnames, hmem⟩
    obtain ⟨there, hresolve, hkind, hallow, rfl⟩ := FileTree.list_eq_ok_iff.mp hnames
    exact ⟨there, hresolve, hkind, hallow, FileTree.mem_children_iff.mp hmem⟩
  · rintro ⟨there, hresolve, hkind, hallow, hmem⟩
    exact ⟨_, FileTree.list_eq_ok_iff.mpr ⟨there, hresolve, hkind, hallow, rfl⟩,
      FileTree.mem_children_iff.mpr hmem⟩

/-- Below what is no directory nothing is found. -/
theorem expandFrom_of_not_isDirectory {next : List Token} {names : List (List Token)}
    (hdirectory : tree.isDirectory path = false) (hhere : isHere path = false)
    (hpath : path ≠ []) : expandFrom tree (next :: names) path = [] := by
  rw [expandFrom.eq_def]
  dsimp only
  cases literal? next with
  | none => exact if_pos (by simp [hdirectory])
  | some spelled =>
    apply if_neg
    rw [leads, below, hhere]
    split
    · simp [hdirectory]
    · rw [if_neg Bool.false_ne_true, FileTree.find?]
      cases hresolve : tree.resolve (append path spelled) with
      | error e => simp
      | ok there =>
        obtain ⟨here, -, hpath', hkind, -⟩ := resolve_append hpath hresolve
        rw [isDirectory_iff.mpr ⟨here, hpath', hkind⟩] at hdirectory
        cases hdirectory

/-- A path with one more name is longer. -/
theorem size_lt_below (hname : isName name = true) (path : Text) :
    (if isHere path then 0 else path.size) < (below path name).size := by
  have hpos := Text.size_pos (isName_iff.mp hname).1
  rw [below]
  split
  · exact hpos
  · rw [append]
    split <;> simp only [Text.size_append] <;> omega

/-- There is nothing deeper than a path may be long. -/
theorem descendants_add {n : Nat} (hdirectory : tree.isDirectory path = true)
    (hn : FileTree.pathLimit ≤ (if isHere path then 0 else path.size) + n) (k : Nat) :
    descendants tree (n + k) path = descendants tree n path := by
  induction n generalizing path with
  | zero =>
    obtain ⟨there, hresolve, -⟩ := isDirectory_iff.mp hdirectory
    have hsize := FileTree.size_lt_of_resolve hresolve
    split at hn <;> simp only [FileTree.pathLimit] at * <;> omega
  | succ n ih =>
    rw [Nat.succ_add_eq_add_succ, Nat.add_succ, descendants, descendants]
    apply onward_congr
    intro name hmem
    obtain ⟨_, _, _, _, hname, _⟩ := mem_listing_iff.mp hmem
    congr 1
    split
    · next hbelow =>
      apply ih hbelow
      rw [isHere_below hname, if_neg Bool.false_ne_true]
      have := size_lt_below hname path
      omega
    · rfl

theorem descendants_eq_allBelow (hdirectory : tree.isDirectory path = true) (k : Nat) :
    descendants tree (FileTree.pathLimit + k) path = allBelow tree path :=
  descendants_add hdirectory (Nat.le_add_left _ _) k

end Glob

end LexScan
