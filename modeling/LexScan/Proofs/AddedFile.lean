import LexScan.Proofs.ExpandedPatterns

/-!
# A tree with one file more

When a file is made or written, what paths lead to stays as it was, except for the paths of
that file. Patterns then fit the files that they fitted before and perhaps this one:
nothing else can be found through it, since no file has anything below it.
-/

namespace LexScan

namespace FileTree

variable {tree tree' : FileTree} {here there above names place : List Text}
  {name path : Text} {content : Bytes}

/-- At a place there is a file or nothing. -/
def LeafAt (tree : FileTree) (place : List Text) : Prop :=
  ∀ kind, tree.kind? place = some kind → ∃ content, kind = .file content

/-- Two trees differ at most in a file at one place, which may be in one of them only. -/
structure SameBut (place : List Text) (tree tree' : FileTree) : Prop where
  here_eq : tree'.here = tree.here
  elsewhere : ∀ names, names ≠ place → tree'.lookup? names = tree.lookup? names
  leaf : LeafAt tree place
  leaf' : LeafAt tree' place

theorem SameBut.symm (h : SameBut place tree tree') : SameBut place tree' tree :=
  ⟨h.here_eq.symm, fun names hnames => (h.elsewhere names hnames).symm, h.leaf', h.leaf⟩

theorem LeafAt.ne_of_directory (h : LeafAt tree place)
    (hkind : tree.kind? names = some .directory) : names ≠ place := by
  rintro rfl
  obtain ⟨content, hfile⟩ := h _ hkind
  cases hfile

/-! ## Writing a file -/

theorem lookup?_put (tree : FileTree) (names : List Text) (e : FileEntry) :
    (tree.put names e).lookup? names = some e := by
  have hnone : (tree.entries.filter (·.1 ≠ names)).find? (·.1 = names) = none := by
    simp [List.find?_eq_none]
  have hlast : [(names, e)].find? (·.1 = names) = some (names, e) := by simp
  simp only [lookup?, put, List.find?_append, hnone, hlast, Option.none_or]

theorem lookup?_congr
    (hfind : tree'.entries.find? (·.1 = names) = tree.entries.find? (·.1 = names))
    (hsome : (tree'.lookup? names).isSome = (tree.lookup? names).isSome) :
    tree'.lookup? names = tree.lookup? names := by
  rw [lookup?, lookup?, hfind] at hsome ⊢
  cases hentry : tree.entries.find? (·.1 = names) with
  | some entry => rfl
  | none =>
    -- Without an entry of its own what stands under the names can only be a directory.
    rw [hentry] at hsome
    dsimp only at hsome ⊢
    split_ifs at hsome ⊢ <;> first | rfl | cases hsome

/-- Every directory above a place is there. -/
def HasAbove (tree : FileTree) (place : List Text) : Prop :=
  ∀ above, above <+: place → above ≠ place → (tree.lookup? above).isSome = true

theorem lookup?_put_of_ne (e : FileEntry) (habove : HasAbove tree place)
    (hne : names ≠ place) : (tree.put place e).lookup? names = tree.lookup? names := by
  have hfind : (tree.put place e).entries.find? (·.1 = names) =
      tree.entries.find? (·.1 = names) := by
    have hlast : [(place, e)].find? (·.1 = names) = none := by
      simpa using hne.symm
    rw [put, List.find?_append, hlast, Option.or_none, List.find?_filter]
    congr 1
    funext entry
    by_cases hentry : entry.1 = names
    · simp [hentry, hne]
    · simp [hentry]
  apply lookup?_congr hfind
  rw [Bool.eq_iff_iff]
  constructor
  · intro hsome
    rcases isSome_lookup?_iff.mp hsome with hhere | ⟨entry, hentry, hbegins⟩
    · exact isSome_lookup?_iff.mpr (.inl hhere)
    rcases List.mem_append.mp hentry with hentry | hentry
    · exact isSome_lookup?_iff.mpr (.inr ⟨entry, (List.mem_filter.mp hentry).1, hbegins⟩)
    · obtain rfl := List.mem_singleton.mp hentry
      exact habove names hbegins hne
  · rw [isSome_lookup?_iff, isSome_lookup?_iff]
    apply Or.imp_right
    rintro ⟨entry, hentry, hbegins⟩
    by_cases hsame : entry.1 = place
    · exact ⟨(place, e), List.mem_append_right _ (List.mem_singleton_self _), hsame ▸ hbegins⟩
    · exact ⟨entry, List.mem_append_left _ (List.mem_filter.mpr ⟨hentry, by simpa⟩), hbegins⟩

theorem kind?_write (tree : FileTree) (place : List Text) (content : Bytes) :
    (tree.write place content).kind? place = some (.file content) := by
  rw [kind?, write, lookup?_put]
  rfl

/-- What a file held before does not show. -/
theorem write_write (tree : FileTree) (place : List Text) (content written : Bytes) :
    (tree.write place content).write place written = tree.write place written := by
  have hfaults := congrArg (Option.map FileEntry.faults) (lookup?_put tree place
    ⟨.file content, ((tree.lookup? place).map (·.faults)).getD {}⟩)
  rw [write, write, write, hfaults]
  simp [put, List.filter_append]

theorem sameBut_write (hleaf : LeafAt tree place) (habove : HasAbove tree place)
    (content : Bytes) : SameBut place tree (tree.write place content) := by
  refine ⟨rfl, fun names hne => lookup?_put_of_ne _ habove hne, hleaf, fun kind hkind => ?_⟩
  rw [kind?_write] at hkind
  exact ⟨content, (Option.some.inj hkind).symm⟩

theorem hasAbove_of_kind? {kind : FileKind} (h : tree.kind? place = some kind) :
    HasAbove tree place :=
  fun _ hbegins _ => isSome_lookup?_of_prefix (isSome_lookup?_of_kind? h) hbegins

/-! ## Creating a file -/

/-- A name that is said to be free in a directory is. -/
theorem looks_of_walk_free {creating : Bool} {links : Nat}
    (h : tree.walk creating links here names = .ok (.free above name)) :
    Looks tree above name none := by
  have hstretch : ∀ {here names},
      tree.stretch creating here names = .ok (.arrival (.free above name)) →
      Looks tree above name none := by
    intro here names hstop
    induction names generalizing here with
    | nil => cases hstop
    | cons first names ih =>
      rcases stretch_cons_cases hstop with ⟨next, -, hnext⟩ | ⟨_, -, heq⟩ | ⟨hlooks, -, heq⟩
      · exact ih hnext
      · cases heq
      · cases heq
        exact hlooks
  induction links generalizing here names with
  | zero =>
    rcases walk_eq_ok_iff.mp h with hstop | ⟨_, _, _, n, -, hn, -⟩
    · exact hstretch hstop
    · cases hn
  | succ links ih =>
    rcases walk_eq_ok_iff.mp h with hstop | ⟨_, _, _, n, -, hn, hrest⟩
    · exact hstretch hstop
    · cases hn
      exact ih hrest

theorem Looks.leafAt (h : Looks tree above name none) : LeafAt tree (above ++ [name]) :=
  fun _ hkind => nomatch h.kind?_eq.symm.trans hkind

theorem Looks.hasAbove {kind? : Option FileKind} (h : Looks tree above name kind?) :
    HasAbove tree (above ++ [name]) := by
  intro names hbegins hne
  have hshort := (List.prefix_concat_iff.mp hbegins).resolve_left hne
  have hkind := (allowLookup_eq_ok_iff.mp h.allow).1
  exact isSome_lookup?_of_prefix (isSome_lookup?_of_kind? hkind) hshort

/-- To create a file writes it where there is a file or a free name in a directory, unless
what is written does not stay. -/
theorem create_cases {place? : Option (List Text)} (h : tree.create path = .ok (tree', place?)) :
    place? = none ∧ tree' = tree ∨ ∃ place, place? = some place ∧
      tree' = tree.write place [] ∧ LeafAt tree place ∧ HasAbove tree place := by
  rw [create, bind_eq_ok_iff] at h
  obtain ⟨arrival, hfollow, h⟩ := h
  rw [follow, bind_eq_ok_iff] at hfollow
  obtain ⟨-, -, hwalk⟩ := hfollow
  cases arrival with
  | free above name =>
    obtain ⟨-, -, h⟩ := bind_eq_ok_iff.mp h
    cases h
    have hlooks := looks_of_walk_free hwalk
    exact .inr ⟨_, rfl, rfl, hlooks.leafAt, hlooks.hasAbove⟩
  | place names =>
    dsimp only at h
    split at h
    · next content hkind =>
      obtain ⟨-, -, h⟩ := bind_eq_ok_iff.mp h
      cases h
      refine .inr ⟨_, rfl, rfl, fun kind hkind' => ⟨content, ?_⟩, hasAbove_of_kind? hkind⟩
      exact Option.some.inj (hkind'.symm.trans hkind)
    · obtain ⟨-, -, h⟩ := bind_eq_ok_iff.mp h
      cases h
      exact .inl ⟨rfl, rfl⟩
    · cases h

/-! ## Paths -/

namespace SameBut

variable (h : SameBut place tree tree')
include h

theorem kind?_eq (hnames : names ≠ place) : tree'.kind? names = tree.kind? names := by
  rw [kind?, kind?, h.elsewhere names hnames]

theorem allow_eq {fault : Faults → Option FileError} (hnames : names ≠ place) :
    tree'.allow names fault = tree.allow names fault := by
  rw [allow, allow, h.elsewhere names hnames]

theorem allowLookup (hallow : tree.allowLookup here name = .ok ()) :
    tree'.allowLookup here name = .ok () := by
  rw [allowLookup_eq_ok_iff] at hallow ⊢
  have hhere := h.leaf.ne_of_directory hallow.1
  rwa [h.kind?_eq hhere, h.allow_eq hhere]

theorem looks {kind? : Option FileKind} (hlooks : Looks tree here name kind?)
    (hnames : here ++ [name] ≠ place) : Looks tree' here name kind? :=
  { hlooks with
    allow := h.allowLookup hlooks.allow
    kind?_eq := (h.kind?_eq hnames).trans hlooks.kind?_eq }

theorem step {next : List Text} (hstep : Step tree here name next) (hnext : next ≠ place) :
    Step tree' here name next := by
  cases hstep with
  | stay hallow hname => exact .stay (h.allowLookup hallow) hname
  | up hallow => exact .up (h.allowLookup hallow)
  | @down _ kind hlooks hkind =>
    refine .down (h.looks hlooks ?_) hkind
    rintro rfl
    -- A file has its place where it stands.
    obtain ⟨content, rfl⟩ := h.leaf _ hlooks.kind?_eq
    exact hnext rfl

/-- But for the ways to the file all ways are the same: at the file a way has to end. -/
theorem leads {n : Nat} (hleads : Leads tree here names there n) (hthere : there ≠ place) :
    Leads tree' here names there n := by
  induction hleads with
  | done => exact .done
  | @step here next names there name n hstep hrest ih =>
    by_cases hnext : next = place
    · subst hnext
      rcases hrest.eq_nil_or_directory with rfl | hkind
      · cases hrest
        exact absurd rfl hthere
      · exact absurd rfl (h.leaf.ne_of_directory hkind)
    · exact .step (h.step hstep hnext) (ih hthere)
  | @link here names there name target n hlink hrest ih =>
    refine .link (h.looks hlink ?_) (ih hthere)
    rintro rfl
    obtain ⟨content, hfile⟩ := h.leaf _ hlink.kind?_eq
    cases hfile

theorem resolve (hresolve : tree.resolve path = .ok there) (hthere : there ≠ place) :
    tree'.resolve path = .ok there := by
  rw [resolve_eq_ok_iff] at hresolve ⊢
  obtain ⟨hcheck, n, hn, hleads⟩ := hresolve
  rw [h.here_eq]
  exact ⟨hcheck, n, hn, h.leads hleads hthere⟩

theorem isDirectory_eq (path : Text) : tree'.isDirectory path = tree.isDirectory path := by
  have hsame : ∀ {tree tree' : FileTree}, SameBut place tree tree' →
      tree.isDirectory path = true → tree'.isDirectory path = true := by
    intro tree tree' h hdirectory
    obtain ⟨there, hresolve, hkind⟩ := isDirectory_iff.mp hdirectory
    have hthere := h.leaf.ne_of_directory hkind
    exact isDirectory_iff.mpr ⟨there, h.resolve hresolve hthere, h.kind?_eq hthere ▸ hkind⟩
  exact Bool.eq_iff_iff.mpr ⟨hsame h.symm, hsame h⟩

/-- What a path leads to was there before, or it is the file. -/
theorem find?_cases {e : FileEntry} (hfind : tree'.find? path = some e) :
    tree.find? path = some e ∨ tree'.resolve path = .ok place := by
  cases hresolve : tree'.resolve path with
  | error cause =>
    rw [find?, hresolve] at hfind
    cases hfind
  | ok there =>
    by_cases hthere : there = place
    · exact .inr (hthere ▸ rfl)
    · left
      rw [find?_of_resolve hresolve, h.elsewhere there hthere] at hfind
      rw [find?_of_resolve (h.symm.resolve hresolve hthere), hfind]

theorem isFile_cases (hfile : tree'.isFile path = true) :
    tree.isFile path = true ∨ tree'.resolve path = .ok place := by
  rw [isFile, Option.any_eq_true] at hfile
  obtain ⟨e, hfind, hfile⟩ := hfile
  apply (h.find?_cases hfind).imp_left
  intro hbefore
  rw [isFile, hbefore]
  exact hfile

/-- A path that leads elsewhere leads to the same bytes. -/
theorem read_eq (hresolve : tree.resolve path = .ok there) (hthere : there ≠ place) :
    tree'.read path = tree.read path := by
  rw [read, read, hresolve, h.resolve hresolve hthere]
  simp only [bind, Except.bind, h.allow_eq hthere, h.kind?_eq hthere]

theorem isOk_list (hlist : (tree.list path).isOk = true) : (tree'.list path).isOk = true := by
  cases hnames : tree.list path with
  | error e => rw [hnames] at hlist; cases hlist
  | ok names =>
    obtain ⟨there, hresolve, hkind, hallow, -⟩ := list_eq_ok_iff.mp hnames
    have hthere := h.leaf.ne_of_directory hkind
    have hnames' : tree'.list path = .ok (tree'.children there) :=
      list_eq_ok_iff.mpr ⟨there, h.resolve hresolve hthere, h.kind?_eq hthere ▸ hkind,
        h.allow_eq hthere ▸ hallow, rfl⟩
    rw [hnames']
    rfl

end SameBut

end FileTree

namespace Glob

open FileTree (SameBut isDirectory_eq_of_isFile)

/-- A path that leads to nothing, and would lead away from the current directory. -/
structure Missing (tree : FileTree) (path : Text) : Prop where
  find?_eq : tree.find? path = none
  not_here : isHere path = false
  ne_nil : path ≠ []

variable {tree tree' : FileTree} {place : List Text} {path found : Text}

theorem Missing.isDirectory_eq (h : Missing tree path) : tree.isDirectory path = false := by
  rw [FileTree.isDirectory, h.find?_eq]
  rfl

theorem Missing.isFile_eq (h : Missing tree path) : tree.isFile path = false := by
  rw [FileTree.isFile, h.find?_eq]
  rfl

section SameBut

variable (h : SameBut place tree tree')
include h

/-! ## What is new -/

/-- A name that is looked up led somewhere before, or there was nothing. -/
theorem leads_cases {spelled : Text} (hleads : leads tree' path spelled = true) :
    leads tree path spelled = true ∨ Missing tree (below path spelled) := by
  rw [leads] at hleads ⊢
  split at hleads
  · next hdots =>
    rw [if_pos hdots, ← h.isDirectory_eq]
    exact .inl hleads
  · next hdots =>
    rw [if_neg hdots]
    cases hbefore : tree.find? (below path spelled) with
    | some e => exact .inl rfl
    | none =>
      right
      obtain ⟨e, hfind⟩ := Option.isSome_iff_exists.mp hleads
      have hresolve := (h.find?_cases hfind).resolve_left
        fun hold => Option.some_ne_none e (hold.symm.trans hbefore)
      refine ⟨hbefore, ?_, FileTree.ne_nil_of_resolve hresolve⟩
      rw [Bool.eq_false_iff]
      intro hhere
      exact h.leaf'.ne_of_directory (resolve_of_isHere hhere hresolve).2 rfl

/-- A name in a directory was in it before, or there was nothing under it. -/
theorem listing_cases {child : Text} (hmem : .ok child ∈ listing tree' path) :
    .ok child ∈ listing tree path ∨ Missing tree (below path child) := by
  obtain ⟨there, hresolve, hkind, hallow, hname, hsome⟩ := mem_listing_iff.mp hmem
  have hthere := h.leaf'.ne_of_directory hkind
  have hbefore := h.symm.resolve hresolve hthere
  by_cases hold : (tree.lookup? (there ++ [child])).isSome = true
  · exact .inl (mem_listing_iff.mpr ⟨there, hbefore, h.kind?_eq hthere ▸ hkind,
      h.allow_eq hthere ▸ hallow, hname, hold⟩)
  · refine .inr ⟨?_, isHere_below hname path, below_ne_nil hname path⟩
    rw [FileTree.find?]
    cases hnew : tree.resolve (below path child) with
    | error e => rfl
    | ok place => exact absurd (resolve_below hname hbefore hnew) hold

theorem descendants_cases {found : Text × Text} {n : Nat}
    (hmem : .ok found ∈ descendants tree' n path) :
    .ok found ∈ descendants tree n path ∨ Missing tree found.1 := by
  induction n generalizing path with
  | zero => cases hmem
  | succ n ih =>
    rw [descendants, mem_onward_iff] at hmem ⊢
    obtain ⟨child, hchild, hfound⟩ := hmem
    rw [h.isDirectory_eq] at hfound
    rcases listing_cases h hchild with hold | hmissing
    · rcases List.mem_cons.mp hfound with hhere | hdeep
      · exact .inl ⟨child, hold, hhere ▸ List.mem_cons_self⟩
      · split at hdeep
        · next hbelow =>
          apply (ih hdeep).imp_left
          intro hdeep
          refine ⟨child, hold, List.mem_cons_of_mem _ ?_⟩
          rwa [if_pos hbelow]
        · cases hdeep
    · -- Nothing is below it, so that it is found itself.
      rw [hmissing.isDirectory_eq, if_neg Bool.false_ne_true, List.mem_singleton] at hfound
      cases hfound
      exact .inr hmissing

/-! ## What fits -/

/-- From where there was nothing no file is found that was there. -/
theorem not_isFile_of_missing {names : List (List Token)} (hmissing : Missing tree path)
    (hmem : .ok found ∈ expandFrom tree' names path) : tree.isFile found = false := by
  cases names with
  | nil =>
    rw [expandFrom, List.mem_singleton] at hmem
    cases hmem
    exact hmissing.isFile_eq
  | cons next names =>
    rw [expandFrom_of_not_isDirectory (by rw [h.isDirectory_eq, hmissing.isDirectory_eq])
      hmissing.not_here hmissing.ne_nil] at hmem
    cases hmem

/-- A file that was there is found only if it was found before. -/
theorem mem_expandFrom {names : List (List Token)} (hfile : tree.isFile found = true)
    (hmem : .ok found ∈ expandFrom tree' names path) :
    .ok found ∈ expandFrom tree names path := by
  have hmissing : ∀ {names : List (List Token)} {path : Text},
      .ok found ∈ expandFrom tree' names path → ¬ Missing tree path := by
    intro names path hmem hmissing
    rw [not_isFile_of_missing h hmissing hmem] at hfile
    cases hfile
  -- By the recursion of the expansion: each step it takes was there before, for nothing is
  -- found behind a step that was not.
  fun_induction expandFrom tree' names path with
  | case1 path => exact hmem
  | case2 name names path spelled hliteral hleads ih =>
    have hbefore := (leads_cases h hleads).resolve_right (hmissing hmem)
    simp only [expandFrom.eq_def tree (name :: _), hliteral, if_pos hbefore]
    exact ih hmem
  | case3 name names path spelled hliteral hleads => cases hmem
  | case4 name names path hliteral hdirectory => cases hmem
  | case5 name path hliteral hdirectory hrecursive =>
    -- Only directories are found here.
    obtain ⟨⟨deep, last⟩, hdeep, hmem⟩ := mem_onward_iff.mp hmem
    dsimp only at hmem
    split at hmem
    · next hdirectory =>
      cases List.mem_singleton.mp hmem
      rw [h.isDirectory_eq, isDirectory_eq_of_isFile hfile] at hdirectory
      cases hdirectory
    · cases hmem
  | case6 name path hliteral hdirectory hrecursive next names hnext ih =>
    rw [h.isDirectory_eq] at hdirectory
    rw [expandFrom.eq_def tree (name :: _)]
    simp only [hliteral, if_neg hdirectory, if_pos hrecursive, if_pos hnext]
    exact ih hmem
  | case7 name path hliteral hdirectory hrecursive next names hnext ih =>
    rw [h.isDirectory_eq] at hdirectory
    simp only [expandFrom.eq_def tree (name :: _), hliteral, if_neg hdirectory,
      if_pos hrecursive, if_neg hnext, mem_onward_iff]
    obtain ⟨⟨deep, last⟩, hdeep, hmem⟩ := mem_onward_iff.mp hmem
    dsimp only at hmem
    split at hmem
    · next hfits =>
      have hbefore := (descendants_cases h hdeep).resolve_right (hmissing hmem)
      refine ⟨(deep, last), hbefore, ?_⟩
      rw [if_pos hfits]
      exact ih deep hmem
    · cases hmem
  | case8 name names path hliteral hdirectory hrecursive ihspecial ihchild =>
    rw [h.isDirectory_eq] at hdirectory
    simp only [expandFrom.eq_def tree (name :: _), hliteral, if_neg hdirectory,
      if_neg hrecursive, List.mem_append, mem_onward_iff] at hmem ⊢
    rcases hmem with hspecial | ⟨child, hchild, hmem⟩
    · left
      split at hspecial
      · next hlist =>
        rw [if_pos (h.symm.isOk_list hlist)]
        obtain ⟨special, hspecial, hmem⟩ := List.mem_flatMap.mp hspecial
        exact List.mem_flatMap.mpr ⟨special, hspecial, ihspecial special hmem⟩
      · cases hspecial
    · split at hmem
      · next hfits =>
        have hbefore := (listing_cases h hchild).resolve_right (hmissing hmem)
        refine .inr ⟨child, hbefore, ?_⟩
        rw [if_pos hfits]
        exact ihchild child hmem
      · cases hmem

theorem mem_expand (g : Glob) (hfile : tree.isFile found = true)
    (hmem : .ok found ∈ g.expand tree') : .ok found ∈ g.expand tree := by
  rw [expand, List.mem_filter] at hmem ⊢
  simp only [h.isDirectory_eq] at hmem
  exact ⟨mem_expandFrom h hfile hmem.1, hmem.2⟩

end SameBut

end Glob

end LexScan
