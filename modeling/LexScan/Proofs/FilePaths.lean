import LexScan.FileTree
import Mathlib.Data.List.Basic

/-!
# Paths in a file tree

What a path leads to, told from the paths that it is made of. `Leads` says so without the
order in which links are looked up: names lead from a place to a place if each step of the
way does, and a way can be cut wherever a name ends. Only directories are passed on it.
-/

namespace LexScan

theorem FileEntry.isFile_iff {e : FileEntry} :
    e.isFile = true ↔ ∃ content, e.kind = .file content := by
  rw [isFile]
  cases e.kind <;> simp

namespace FileTree

variable {tree tree' : FileTree} {here there above names : List Text} {name path : Text}

theorem bind_eq_ok_iff {ε α β : Type} {x : Except ε α} {f : α → Except ε β} {b : β} :
    x >>= f = .ok b ↔ ∃ a, x = .ok a ∧ f a = .ok b := by
  cases x with
  | error e => exact ⟨nofun, fun ⟨_, h, _⟩ => nomatch h⟩
  | ok a => exact ⟨fun h => ⟨a, rfl, h⟩, fun ⟨_, h, hf⟩ => Except.ok.inj h ▸ hf⟩

/-! ## Entries -/

theorem isSome_lookup?_iff : (tree.lookup? names).isSome = true ↔
    names <+: tree.here ∨ ∃ e ∈ tree.entries, names <+: e.1 := by
  rw [lookup?]
  cases hfind : tree.entries.find? (·.1 = names) with
  | some e =>
    have hname : e.1 = names := by simpa using List.find?_some hfind
    exact ⟨fun _ => .inr ⟨e, List.mem_of_find?_eq_some hfind, hname ▸ List.prefix_refl _⟩,
      fun _ => rfl⟩
  | none =>
    dsimp only
    split
    · next hany => simpa using hany
    · next hnone => simpa using hnone

theorem isSome_lookup?_of_kind? {kind : FileKind} (h : tree.kind? names = some kind) :
    (tree.lookup? names).isSome = true := by
  rw [← Option.isSome_map, ← kind?, h]
  rfl

/-- Whatever leads to an entry has an entry. -/
theorem isSome_lookup?_of_prefix (h : (tree.lookup? names).isSome = true)
    (hbegins : above <+: names) : (tree.lookup? above).isSome = true := by
  rw [isSome_lookup?_iff] at h ⊢
  exact h.imp hbegins.trans fun ⟨e, he, hnames⟩ => ⟨e, he, hbegins.trans hnames⟩

/-- The names in a directory are those under which it has an entry. -/
theorem mem_children_iff : name ∈ tree.children names ↔
    isName name = true ∧ (tree.lookup? (names ++ [name])).isSome = true := by
  have hnext : ∀ all : List Text, (names ++ [name] <+: all) ↔
      (if names.isPrefixOf all then (all.drop names.length).head? else none) = some name := by
    intro all
    by_cases hbegins : names <+: all
    · obtain ⟨more, rfl⟩ := hbegins
      rw [if_pos (by simp), List.drop_left, List.prefix_append_right_inj]
      cases more with
      | nil => simp
      | cons first more => simp [eq_comm]
    · rw [if_neg (by simpa using hbegins)]
      exact ⟨fun h => absurd ((List.prefix_append names [name]).trans h) hbegins, nofun⟩
  have hmem : name ∈ tree.children names ↔
      (∃ all ∈ tree.here :: tree.entries.map (·.1), names ++ [name] <+: all) ∧
        isName name = true := by
    simp only [children, List.mem_mergeSort, List.mem_eraseDups, List.mem_filter,
      List.mem_filterMap, hnext]
  rw [hmem, and_comm, isSome_lookup?_iff, List.exists_mem_cons_iff]
  simp

theorem allowLookup_eq_ok_iff : tree.allowLookup here name = .ok () ↔
    tree.kind? here = some .directory ∧
      (name ≠ [] → tree.allow here Faults.entering = .ok ()) := by
  rw [allowLookup]
  by_cases hkind : tree.kind? here = some .directory
  · rw [if_neg (not_not_intro hkind)]
    by_cases hname : name = []
    · simp [hkind, hname]
    · simp [hkind, hname]
  · simp [hkind]

/-! ## Following names -/

/-- A name is looked up from a place, and this is what stands under it. -/
structure Looks (tree : FileTree) (here : List Text) (name : Text) (kind? : Option FileKind) :
    Prop where
  allow : tree.allowLookup here name = .ok ()
  not_here : ¬ (name = [] ∨ name = ['.'])
  not_up : name ≠ ['.', '.']
  size_le : ¬ 255 < name.size
  kind?_eq : tree.kind? (here ++ [name]) = kind?

/-- A name leads from a place to a place without a link. -/
inductive Step (tree : FileTree) (here : List Text) : Text → List Text → Prop
  | stay {name : Text} (hallow : tree.allowLookup here name = .ok ())
      (hname : name = [] ∨ name = ['.']) : Step tree here name here
  | up (hallow : tree.allowLookup here ['.', '.'] = .ok ()) :
      Step tree here ['.', '.'] here.dropLast
  | down {name : Text} {kind : FileKind} (h : Looks tree here name (some kind))
      (hkind : ∀ target, kind ≠ .link target) :
      Step tree here name (kind.placed (here ++ [name]))

/-- Names lead from a place to a place by a number of links. -/
inductive Leads (tree : FileTree) : List Text → List Text → List Text → Nat → Prop
  | done {here : List Text} : Leads tree here [] here 0
  | step {here next names there : List Text} {name : Text} {n : Nat}
      (hstep : Step tree here name next) (h : Leads tree next names there n) :
      Leads tree here (name :: names) there n
  | link {here names there : List Text} {name target : Text} {n : Nat}
      (hlink : Looks tree here name (some (.link target)))
      (h : Leads tree (origin here target) (target.splitOn '/' ++ names) there n) :
      Leads tree here (name :: names) there (n + 1)

theorem stretch_cons_cases {creating : Bool} {stop : Stop}
    (h : tree.stretch creating here (name :: names) = .ok stop) :
    (∃ next, Step tree here name next ∧ tree.stretch creating next names = .ok stop) ∨
      (∃ target, Looks tree here name (some (.link target)) ∧
        stop = .link here target names) ∨
      Looks tree here name none ∧ names = [] ∧ stop = .arrival (.free here name) := by
  rw [stretch, bind_eq_ok_iff] at h
  obtain ⟨⟨⟩, hallow, h⟩ := h
  by_cases hslash : creating = true ∧ names ≠ [] ∧ names.all (· = []) = true
  · rw [if_pos hslash] at h
    cases h
  rw [if_neg hslash] at h
  by_cases hself : name = [] ∨ name = ['.']
  · rw [if_pos hself] at h
    exact .inl ⟨here, .stay hallow hself, h⟩
  rw [if_neg hself] at h
  by_cases hup : name = ['.', '.']
  · rw [if_pos hup] at h
    subst hup
    exact .inl ⟨_, .up hallow, h⟩
  rw [if_neg hup] at h
  by_cases hsize : 255 < name.size
  · rw [if_pos hsize] at h
    cases h
  rw [if_neg hsize] at h
  split at h
  · next hkind =>
    by_cases hnames : names = []
    · rw [if_pos hnames] at h
      exact .inr (.inr ⟨⟨hallow, hself, hup, hsize, hkind⟩, hnames, (Except.ok.inj h).symm⟩)
    · rw [if_neg hnames] at h
      cases h
  · next target hkind =>
    exact .inr (.inl ⟨target, ⟨hallow, hself, hup, hsize, hkind⟩, (Except.ok.inj h).symm⟩)
  · next kind hlink hkind =>
    exact .inl ⟨_, .down ⟨hallow, hself, hup, hsize, hkind⟩ fun t ht => hlink t ht, h⟩

theorem Step.stretch_eq (h : Step tree here name there) (names : List Text) :
    tree.stretch false here (name :: names) = tree.stretch false there names := by
  cases h with
  | stay hallow hname => simp [stretch, hallow, bind, Except.bind, hname]
  | up hallow => simp [stretch, hallow, bind, Except.bind]
  | @down _ kind h hkind =>
    obtain ⟨hallow, hself, hup, hsize, hkind?⟩ := h
    cases kind with
    | link target => exact absurd rfl (hkind target)
    | _ => simp [stretch, hallow, bind, Except.bind, hself, hup, hsize, hkind?]

theorem Looks.stretch_eq {target : Text} (h : Looks tree here name (some (.link target)))
    (names : List Text) :
    tree.stretch false here (name :: names) = .ok (.link here target names) := by
  obtain ⟨hallow, hself, hup, hsize, hkind⟩ := h
  simp [stretch, hallow, bind, Except.bind, hself, hup, hsize, hkind]

theorem walk_eq_ok_iff {creating : Bool} {links : Nat} {arrival : Arrival} :
    tree.walk creating links here names = .ok arrival ↔
      tree.stretch creating here names = .ok (.arrival arrival) ∨
      ∃ above target more n, tree.stretch creating here names = .ok (.link above target more) ∧
        links = n + 1 ∧ tree.walk creating n (origin above target)
          (target.splitOn '/' ++ more) = .ok arrival := by
  rw [walk.eq_def, bind_eq_ok_iff]
  constructor
  · rintro ⟨stop, hstop, h⟩
    cases stop with
    | arrival there =>
      cases h
      exact .inl hstop
    | link above target more =>
      cases links with
      | zero => cases h
      | succ n => exact .inr ⟨above, target, more, n, hstop, rfl, h⟩
  · rintro (hstop | ⟨above, target, more, n, hstop, rfl, h⟩)
    · exact ⟨_, hstop, rfl⟩
    · exact ⟨_, hstop, h⟩

theorem leads_of_stretch_link {above more : List Text} {target : Text} {n : Nat}
    (hstop : tree.stretch false here names = .ok (.link above target more))
    (h : Leads tree (origin above target) (target.splitOn '/' ++ more) there n) :
    Leads tree here names there (n + 1) := by
  induction names generalizing here with
  | nil => cases hstop
  | cons name names ih =>
    rcases stretch_cons_cases hstop with
      ⟨next, hstep, hnext⟩ | ⟨target', hlink, heq⟩ | ⟨-, -, heq⟩
    · exact .step hstep (ih hnext)
    · cases heq
      exact .link hlink h
    · cases heq

theorem leads_of_stretch_place
    (h : tree.stretch false here names = .ok (.arrival (.place there))) :
    Leads tree here names there 0 := by
  induction names generalizing here with
  | nil =>
    cases h
    exact .done
  | cons name names ih =>
    rcases stretch_cons_cases h with ⟨next, hstep, hnext⟩ | ⟨_, -, heq⟩ | ⟨-, -, heq⟩
    · exact .step hstep (ih hnext)
    · cases heq
    · cases heq

theorem Leads.walk_eq {n links : Nat} (h : Leads tree here names there n) (hn : n ≤ links) :
    tree.walk false links here names = .ok (.place there) := by
  induction h generalizing links with
  | done => exact walk_eq_ok_iff.mpr (.inl rfl)
  | step hstep h ih =>
    rw [walk_eq_ok_iff, hstep.stretch_eq, ← walk_eq_ok_iff]
    exact ih hn
  | @link here names there name target n hlink h ih =>
    obtain ⟨links, rfl⟩ : ∃ k, links = k + 1 := ⟨links - 1, by omega⟩
    exact walk_eq_ok_iff.mpr
      (.inr ⟨_, _, _, links, hlink.stretch_eq names, rfl, ih (by omega)⟩)

/-- The way that is walked is one that leads there, by no more links than are followed. -/
theorem walk_eq_place_iff {links : Nat} :
    tree.walk false links here names = .ok (.place there) ↔
      ∃ n, n ≤ links ∧ Leads tree here names there n := by
  constructor
  · intro h
    induction links generalizing here names with
    | zero =>
      rcases walk_eq_ok_iff.mp h with hstop | ⟨_, _, _, n, -, hn, -⟩
      · exact ⟨0, Nat.le_refl 0, leads_of_stretch_place hstop⟩
      · cases hn
    | succ links ih =>
      rcases walk_eq_ok_iff.mp h with hstop | ⟨above, target, more, n, hstop, hn, hrest⟩
      · exact ⟨0, Nat.zero_le _, leads_of_stretch_place hstop⟩
      · cases hn
        obtain ⟨n, hn, hleads⟩ := ih hrest
        exact ⟨n + 1, by omega, leads_of_stretch_link hstop hleads⟩
  · rintro ⟨n, hn, h⟩
    exact h.walk_eq hn

/-- A way can be cut wherever a name ends. -/
theorem leads_append_iff {more : List Text} {n : Nat} :
    Leads tree here (names ++ more) there n ↔
      ∃ mid k l, n = k + l ∧ Leads tree here names mid k ∧ Leads tree mid more there l := by
  constructor
  · intro h
    generalize hall : names ++ more = all at h
    induction h generalizing names with
    | @done here =>
      obtain ⟨rfl, rfl⟩ := List.append_eq_nil_iff.mp hall
      exact ⟨here, 0, 0, rfl, .done, .done⟩
    | @step here next rest there name n hstep h ih =>
      cases names with
      | nil =>
        obtain rfl : more = name :: rest := hall
        exact ⟨here, 0, n, by omega, .done, .step hstep h⟩
      | cons first names =>
        obtain ⟨rfl, hrest⟩ := List.cons_eq_cons.mp hall
        obtain ⟨mid, k, l, hn, hleft, hright⟩ := ih hrest
        exact ⟨mid, k, l, hn, .step hstep hleft, hright⟩
    | @link here rest there name target n hlink h ih =>
      cases names with
      | nil =>
        obtain rfl : more = name :: rest := hall
        exact ⟨here, 0, n + 1, by omega, .done, .link hlink h⟩
      | cons first names =>
        obtain ⟨rfl, rfl⟩ := List.cons_eq_cons.mp hall
        obtain ⟨mid, k, l, hn, hleft, hright⟩ := ih (List.append_assoc _ names more)
        exact ⟨mid, k + 1, l, by omega, .link hlink hleft, hright⟩
  · rintro ⟨mid, k, l, rfl, hleft, hright⟩
    induction hleft with
    | done => rwa [Nat.zero_add]
    | step hstep _ ih => exact .step hstep (ih hright)
    | @link here rest there name target n hlink _ ih =>
      have h := ih hright
      rw [List.append_assoc] at h
      have hlinks : n + 1 + l = n + l + 1 := by omega
      rw [hlinks]
      exact .link hlink h

/-- Only from a directory names lead on. -/
theorem Leads.eq_nil_or_directory {n : Nat} (h : Leads tree here names there n) :
    names = [] ∨ tree.kind? here = some .directory := by
  cases h with
  | done => exact .inl rfl
  | step hstep _ =>
    cases hstep with
    | stay hallow _ => exact .inr (allowLookup_eq_ok_iff.mp hallow).1
    | up hallow => exact .inr (allowLookup_eq_ok_iff.mp hallow).1
    | down h _ => exact .inr (allowLookup_eq_ok_iff.mp h.allow).1
  | link hlink _ => exact .inr (allowLookup_eq_ok_iff.mp hlink.allow).1

/-! ## What is at a path -/

theorem checkPath_eq_ok_iff :
    checkPath path = .ok () ↔ '\x00' ∉ path ∧ path ≠ [] ∧ path.size < pathLimit := by
  rw [checkPath]
  split
  · next hnul => simp_all
  split
  · next hnil => simp_all
  split
  · next hnul hnil hlong => simp_all
  · next hnul hnil hshort => simp_all

theorem resolve_eq_ok_iff : tree.resolve path = .ok there ↔
    checkPath path = .ok () ∧ ∃ n, n ≤ linkLimit ∧
      Leads tree (origin tree.here path) (path.splitOn '/') there n := by
  rw [resolve, bind_eq_ok_iff, ← walk_eq_place_iff]
  constructor
  · rintro ⟨arrival, hfollow, h⟩
    rw [follow, bind_eq_ok_iff] at hfollow
    obtain ⟨⟨⟩, hcheck, hwalk⟩ := hfollow
    cases arrival with
    | place names =>
      cases h
      exact ⟨hcheck, hwalk⟩
    | free above name => cases h
  · rintro ⟨hcheck, hwalk⟩
    exact ⟨.place there, bind_eq_ok_iff.mpr ⟨(), hcheck, hwalk⟩, rfl⟩

theorem ne_nil_of_resolve (h : tree.resolve path = .ok there) : path ≠ [] :=
  (checkPath_eq_ok_iff.mp (resolve_eq_ok_iff.mp h).1).2.1

theorem size_lt_of_resolve (h : tree.resolve path = .ok there) : path.size < pathLimit :=
  (checkPath_eq_ok_iff.mp (resolve_eq_ok_iff.mp h).1).2.2

theorem find?_of_resolve (h : tree.resolve path = .ok there) :
    tree.find? path = tree.lookup? there := by
  rw [find?, h]

theorem isDirectory_iff : tree.isDirectory path = true ↔
    ∃ there, tree.resolve path = .ok there ∧ tree.kind? there = some .directory := by
  rw [isDirectory, find?]
  cases tree.resolve path with
  | ok there => cases hentry : tree.lookup? there <;> simp [kind?, hentry]
  | error e => simp

theorem isFile_iff : tree.isFile path = true ↔
    ∃ there content, tree.resolve path = .ok there ∧
      tree.kind? there = some (.file content) := by
  rw [isFile, find?]
  cases tree.resolve path with
  | ok there => cases hentry : tree.lookup? there <;> simp [kind?, hentry, FileEntry.isFile_iff]
  | error e => simp

theorem isDirectory_eq_of_isFile (h : tree.isFile path = true) :
    tree.isDirectory path = false := by
  obtain ⟨there, content, hresolve, hkind⟩ := isFile_iff.mp h
  rw [Bool.eq_false_iff]
  intro hdirectory
  obtain ⟨there', hresolve', hkind'⟩ := isDirectory_iff.mp hdirectory
  cases hresolve.symm.trans hresolve'
  cases hkind.symm.trans hkind'

theorem list_eq_ok_iff : tree.list path = .ok names ↔
    ∃ there, tree.resolve path = .ok there ∧ tree.kind? there = some .directory ∧
      tree.allow there Faults.reading = .ok () ∧ names = tree.children there := by
  rw [list, bind_eq_ok_iff]
  apply exists_congr
  intro there
  apply and_congr_right
  intro _
  by_cases hkind : tree.kind? there = some .directory
  · rw [if_neg (not_not_intro hkind), bind_eq_ok_iff]
    exact ⟨fun ⟨⟨⟩, hallow, h⟩ => ⟨hkind, hallow, (Except.ok.inj h).symm⟩,
      fun ⟨_, hallow, h⟩ => ⟨(), hallow, h ▸ rfl⟩⟩
  · simp [hkind]

end FileTree

end LexScan
