import LayeredUnits.Proofs.ByteOrder
import LayeredUnits.Volume.Basic

/-!
# Trees of files

A volume is a tree, and the tree of an operating system has a form that the
type does not show: what lies in one directory has different names, and these
can be written in a path. On such a tree the walk through it and the way down
to a single file agree.

* `mem_files_iff` — the walk finds a file exactly if there is a way down to it
  on which every directory can be listed. Ways lead through directories only, so
  that nothing is found behind a link.
* `mem_barred_iff`, `exists_barred` — what is missed is behind a directory that
  cannot be listed, and the walk says which.
* `stops_ordered` — it goes in the order of the ways, component by component and
  these by their bytes, each once.

All go by induction on the tree, that is on `WellFormed`. Below a child the walk
is the same with ways that are one name shorter, so `listed` is left free.
-/

namespace LayeredUnits

/-- What something in a directory can be called: not nothing, not one of the two names that go
elsewhere, and without slash and NUL. -/
structure IsFileName (name : String) : Prop where
  ne_empty : name ≠ ""
  ne_dot : name ≠ "."
  ne_dots : name ≠ ".."
  unslashed : '/' ∉ name.toList
  unended : '\x00' ∉ name.toList

instance (name : String) : Decidable (IsFileName name) :=
  decidable_of_iff
    (name ≠ "" ∧ name ≠ "." ∧ name ≠ ".." ∧ '/' ∉ name.toList ∧ '\x00' ∉ name.toList)
    ⟨fun h => ⟨h.1, h.2.1, h.2.2.1, h.2.2.2.1, h.2.2.2.2⟩,
      fun h => ⟨h.ne_empty, h.ne_dot, h.ne_dots, h.unslashed, h.unended⟩⟩

theorem IsFileName.not_blank {name : String} (h : IsFileName name) : ¬ (name = "" ∨ name = ".") :=
  not_or.mpr ⟨h.ne_empty, h.ne_dot⟩

namespace Node

/-- A tree as an operating system has it: names that can be names, each once in a directory. -/
inductive WellFormed : Node → Prop
  | file (number : Nat) : WellFormed (.file number)
  | link {target : String} (unended : '\x00' ∉ target.toList) : WellFormed (.link target)
  | directory {children : List (String × Node)} (distinct : (children.map (·.1)).Nodup)
      (named : ∀ child ∈ children, IsFileName child.1)
      (below : ∀ child ∈ children, child.2.WellFormed) : WellFormed (.directory children)

theorem lookup_iff_mem {children : List (String × Node)} (distinct : (children.map (·.1)).Nodup)
    {name : String} {child : Node} :
    children.lookup name = some child ↔ (name, child) ∈ children := by
  induction children with
  | nil => simp
  | cons first rest ih =>
    rw [List.map_cons, List.nodup_cons] at distinct
    obtain ⟨other, node⟩ := first
    by_cases hname : name = other
    · subst hname
      -- The name stands only here, so the rest has nothing under it.
      have hnot : (name, child) ∉ rest :=
        fun hmem => distinct.1 (List.mem_map.mpr ⟨(name, child), hmem, rfl⟩)
      rw [List.lookup_cons_self, List.mem_cons]
      constructor
      · intro heq
        cases heq
        exact .inl rfl
      · intro hor
        rcases hor with heq | hmem
        · cases heq
          rfl
        · exact absurd hmem hnot
    · have hne : (name == other) = false := beq_eq_false_iff_ne.mpr hname
      rw [List.lookup_cons, hne, List.mem_cons, ih distinct.2]
      constructor
      · exact .inr
      · intro hor
        rcases hor with heq | hmem
        · cases heq
          exact absurd rfl hname
        · exact hmem

theorem at?_append (node : Node) (way rest : List String) :
    node.at? (way ++ rest) = (node.at? way).bind fun found => found.at? rest := by
  induction way generalizing node with
  | nil => simp [at?]
  | cons name way ih =>
    cases node with
    | directory children =>
      rw [List.cons_append, at?, at?, Option.bind_assoc]
      cases children.lookup name with
      | none => rfl
      | some child => exact ih child
    | file number => rfl
    | link target => rfl

/-- The first step of a way down from a directory leads to one of its children. -/
theorem at?_directory {children : List (String × Node)} (distinct : (children.map (·.1)).Nodup)
    {name : String} {rest : List String} {found : Node} :
    (directory children).at? (name :: rest) = some found ↔
      ∃ child, (name, child) ∈ children ∧ child.at? rest = some found := by
  rw [at?, Option.bind_eq_some_iff]
  simp only [lookup_iff_mem distinct]

/-- What lies below a well-formed node is well-formed, and the names on the way to it are names. -/
theorem WellFormed.at? {node found : Node} {way : List String} (h : node.WellFormed)
    (hway : node.at? way = some found) : found.WellFormed ∧ ∀ name ∈ way, IsFileName name := by
  induction h generalizing way with
  | file number =>
    cases way with
    | nil =>
      cases hway
      exact ⟨.file number, by simp⟩
    | cons name rest => cases hway
  | link unended =>
    cases way with
    | nil =>
      cases hway
      exact ⟨.link unended, by simp⟩
    | cons name rest => cases hway
  | directory distinct named below ih =>
    cases way with
    | nil =>
      cases hway
      exact ⟨.directory distinct named below, by simp⟩
    | cons name rest =>
      obtain ⟨child, hchild, hrest⟩ := (at?_directory distinct).mp hway
      obtain ⟨hfound, hnames⟩ := ih (name, child) hchild hrest
      refine ⟨hfound, fun one hone => ?_⟩
      rcases List.mem_cons.mp hone with rfl | hone
      · exact named _ hchild
      · exact hnames one hone

/-! ## The walk -/

/-- Whether a walk gets to the end of a way: every directory on it can be listed. Whether what is at
the end can be listed makes no difference. -/
def IsOpen (listed : List String → Bool) (way : List String) : Prop :=
  ∀ front rest, way = front ++ rest → rest ≠ [] → listed front = true

theorem isOpen_nil (listed : List String → Bool) : IsOpen listed [] := by
  intro front rest hway hrest
  exact absurd (List.append_eq_nil_iff.mp hway.symm).2 hrest

/-- The first step needs the directory that it starts from, and the other steps those below. -/
theorem isOpen_cons {listed : List String → Bool} {name : String} {rest : List String} :
    IsOpen listed (name :: rest) ↔
      listed [] = true ∧ IsOpen (fun way => listed (name :: way)) rest := by
  constructor
  · intro h
    refine ⟨h [] (name :: rest) rfl (List.cons_ne_nil name rest), fun front later hrest hsome => ?_⟩
    exact h (name :: front) later (by rw [hrest, List.cons_append]) hsome
  · rintro ⟨hstart, hbelow⟩ front later hway hsome
    cases front with
    | nil => exact hstart
    | cons other front =>
      obtain ⟨rfl, hrest⟩ := List.cons.inj hway
      exact hbelow front later hrest hsome

/-- Where every directory can be listed, every way down is open. -/
theorem isOpen_of_directories {node found : Node} {listed : List String → Bool} {way : List String}
    (hfound : node.at? way = some found)
    (h : ∀ front children, node.at? front = some (.directory children) → listed front = true) :
    IsOpen listed way := by
  rintro front rest rfl hsome
  rw [at?_append] at hfound
  obtain ⟨passed, hpassed, hrest⟩ := Option.bind_eq_some_iff.mp hfound
  obtain ⟨name, later, rfl⟩ := List.exists_cons_of_ne_nil hsome
  -- Only a directory has something below it.
  cases passed with
  | directory children => exact h front children hpassed
  | file number => cases hrest
  | link target => cases hrest

/-- What a walk makes of the node at the end of an open way. Of a link, and of a directory that is
listed, it makes nothing. -/
inductive ComesUpon (listed : Bool) : Node → Stop → Prop
  | file (number : Nat) : ComesUpon listed (.file number) (.file number)
  | barred (children : List (String × Node)) (h : listed = false) :
      ComesUpon listed (.directory children) .barred

theorem branches_eq (listed : List String → Bool) (children : List (String × Node)) :
    branches listed children =
      children.map fun child => (child.1, child.2.stops fun way => listed (child.1 :: way)) := by
  induction children with
  | nil => rfl
  | cons child rest ih => rw [branches, ih, List.map_cons]

/-- The walk through a directory is that through its children, if they can be listed. -/
theorem mem_stops_directory {listed : List String → Bool} {children : List (String × Node)}
    {way : List String} {stop : Stop} :
    (way, stop) ∈ (directory children).stops listed ↔
      (listed [] = true ∧ ∃ name child rest, (name, child) ∈ children ∧ way = name :: rest ∧
        (rest, stop) ∈ child.stops fun below => listed (name :: below)) ∨
      (listed [] = false ∧ way = [] ∧ stop = .barred) := by
  rw [stops]
  cases hlisted : listed [] with
  | false => simp
  | true =>
    rw [if_pos rfl, List.mem_flatMap]
    simp only [List.mem_mergeSort, branches_eq, List.mem_map]
    constructor
    · intro h
      obtain ⟨_, ⟨⟨name, child⟩, hchild, rfl⟩, ⟨rest, _⟩, hrest, heq⟩ := h
      cases heq
      exact .inl ⟨trivial, name, child, rest, hchild, rfl, hrest⟩
    · intro h
      rcases h with ⟨-, name, child, rest, hchild, rfl, hrest⟩ | ⟨habsurd, -⟩
      · exact ⟨_, ⟨(name, child), hchild, rfl⟩, (rest, stop), hrest, rfl⟩
      · cases habsurd

/-- The walk comes upon what is at the end of an open way, and upon nothing else. This is all that
the proofs about sources need of it. -/
theorem mem_stops_iff {node : Node} {listed : List String → Bool} {way : List String} {stop : Stop}
    (h : node.WellFormed) :
    (way, stop) ∈ node.stops listed ↔
      IsOpen listed way ∧ ∃ found, node.at? way = some found ∧ ComesUpon (listed way) found stop := by
  induction h generalizing way listed with
  | file other =>
    cases way with
    | nil =>
      simp only [stops, List.mem_singleton, Prod.mk.injEq, true_and, isOpen_nil, at?,
        Option.some.injEq, exists_eq_left']
      exact ⟨fun heq => heq ▸ .file other, by rintro ⟨⟩; rfl⟩
    | cons name rest => simp [stops, at?]
  | link unended =>
    -- A walk does not follow links, and does not tell of them either.
    cases way with
    | nil =>
      simp only [stops, List.not_mem_nil, isOpen_nil, at?, Option.some.injEq, exists_eq_left',
        true_and, false_iff]
      nofun
    | cons name rest => simp [stops, at?]
  | @directory children distinct named below ih =>
    rw [mem_stops_directory]
    cases way with
    | nil =>
      simp only [List.nil_eq, List.cons_ne_nil, false_and, and_false, exists_false, false_or,
        true_and, isOpen_nil, at?, Option.some.injEq, exists_eq_left']
      constructor
      · -- The walk stops at the directory itself only if it cannot list it.
        rintro ⟨hlisted, rfl⟩
        exact .barred children hlisted
      · rintro ⟨⟩
        exact ⟨‹_›, rfl⟩
    | cons name rest =>
      simp only [at?_directory distinct, isOpen_cons]
      constructor
      · -- Else it goes on in a child, from where the directories are the same with the
        -- name of the child in front.
        rintro (⟨hlisted, _, child, _, hchild, heq, hrest⟩ | ⟨-, habsurd, -⟩)
        · cases heq
          obtain ⟨hopen, found, hfound, hstop⟩ := (ih _ hchild).mp hrest
          exact ⟨⟨hlisted, hopen⟩, found, ⟨child, hchild, hfound⟩, hstop⟩
        · cases habsurd
      · rintro ⟨⟨hlisted, hopen⟩, found, ⟨child, hchild, hfound⟩, hstop⟩
        exact .inl ⟨hlisted, name, child, rest, hchild, rfl,
          (ih _ hchild).mpr ⟨hopen, found, hfound, hstop⟩⟩

theorem mem_files_iff_stops {node : Node} {listed : List String → Bool} {way : List String}
    {number : Nat} :
    (way, number) ∈ node.files listed ↔ (way, .file number) ∈ node.stops listed := by
  unfold files
  rw [List.mem_filterMap]
  constructor
  · rintro ⟨⟨below, stop⟩, hstop, heq⟩
    cases stop with
    | file other => cases heq; exact hstop
    | barred => cases heq
  · exact fun hstop => ⟨_, hstop, rfl⟩

/-- The walk finds a file exactly if there is a way down to it on which everything can be listed. -/
theorem mem_files_iff {node : Node} {listed : List String → Bool} {way : List String} {number : Nat}
    (h : node.WellFormed) :
    (way, number) ∈ node.files listed ↔
      node.at? way = some (.file number) ∧ IsOpen listed way := by
  rw [mem_files_iff_stops, mem_stops_iff h, and_comm]
  refine and_congr_left fun _ => ⟨?_, fun hfound => ⟨_, hfound, .file number⟩⟩
  rintro ⟨found, hfound, ⟨⟩⟩
  exact hfound

/-- The files below a directory have names all the way down, so their ways can be written
as paths. -/
theorem names_of_file {children : List (String × Node)} {way : List String} {number : Nat}
    (h : (directory children).WellFormed) (hway : (directory children).at? way = some (.file number)) :
    way ≠ [] ∧ ∀ name ∈ way, IsFileName name := by
  refine ⟨?_, (h.at? hway).2⟩
  intro hnil
  rw [hnil] at hway
  cases hway

theorem names_of_mem_files {listed : List String → Bool} {children : List (String × Node)}
    {way : List String} {number : Nat} (h : (directory children).WellFormed)
    (hmem : (way, number) ∈ (directory children).files listed) :
    way ≠ [] ∧ ∀ name ∈ way, IsFileName name :=
  names_of_file h ((mem_files_iff h).mp hmem).1

/-- One way comes before another: their components are compared in turn, each by its bytes. -/
def Precedes (way other : List String) : Prop := way.map Text.bytes < other.map Text.bytes

theorem Precedes.irrefl (way : List String) : ¬ Precedes way way := List.lt_irrefl _

/-- Below one name, the ways are ordered by what comes after it. -/
theorem Precedes.cons {way other : List String} (name : String) (h : Precedes way other) :
    Precedes (name :: way) (name :: other) :=
  List.cons_lt_cons_iff.mpr (.inr ⟨rfl, h⟩)

/-- All ways below a name come before those below a later name. -/
theorem Precedes.of_lt {name later : String} (h : name < later) (way other : List String) :
    Precedes (name :: way) (later :: other) :=
  List.cons_lt_cons_iff.mpr (.inl (Text.bytes_lt_iff.mpr h))

/-- The children of a directory are walked by their names, each of which comes once. -/
theorem branches_ordered (listed : List String → Bool) {children : List (String × Node)}
    (distinct : (children.map (·.1)).Nodup) :
    ((branches listed children).mergeSort fun a b => decide (a.1 ≤ b.1)).Pairwise
      fun a b => a.1 < b.1 := by
  -- Sorted by names, none of which comes twice, is strictly sorted.
  have hsorted : ((branches listed children).mergeSort fun a b => decide (a.1 ≤ b.1)).Pairwise
      fun a b => decide (a.1 ≤ b.1) = true :=
    List.pairwise_mergeSort (by intro a b c; simpa using String.le_trans)
      (by intro a b; simpa using String.le_total _ _) _
  have hnames : ((branches listed children).mergeSort fun a b => decide (a.1 ≤ b.1)).Pairwise
      fun a b => a.1 ≠ b.1 := by
    have hperm := (List.mergeSort_perm (branches listed children)
      fun a b => decide (a.1 ≤ b.1)).map (·.1)
    have hchildren : (branches listed children).map (·.1) = children.map (·.1) := by
      rw [branches_eq, List.map_map]
      rfl
    exact List.pairwise_map.mp (hperm.nodup_iff.mpr (hchildren ▸ distinct))
  refine hsorted.imp₂ (fun a b hle hne => ?_) hnames
  exact lt_of_le_of_ne (of_decide_eq_true hle) hne

/-- The walk goes in the order of the ways. The induction follows the tree, and each directory is in
order because its names are. -/
theorem stops_ordered {node : Node} (listed : List String → Bool) (h : node.WellFormed) :
    (node.stops listed).Pairwise fun a b => Precedes a.1 b.1 := by
  induction h generalizing listed with
  | file number => simp [stops]
  | link unended => simp [stops]
  | directory distinct named below ih =>
    rw [stops]
    split
    · rw [List.pairwise_flatMap]
      constructor
      · -- Below one child the order is that of the ways from there on.
        intro branch hbranch
        rw [List.mem_mergeSort, branches_eq] at hbranch
        obtain ⟨child, hchild, rfl⟩ := List.mem_map.mp hbranch
        rw [List.pairwise_map]
        exact (ih child hchild _).imp fun hrest => hrest.cons child.1
      · -- Between two children the names decide, whatever comes after them.
        refine (branches_ordered listed distinct).imp fun hlt found hfound other hother => ?_
        obtain ⟨rest, -, rfl⟩ := List.mem_map.mp hfound
        obtain ⟨rest', -, rfl⟩ := List.mem_map.mp hother
        exact .of_lt hlt _ _
    · exact List.pairwise_singleton _ _

/-- The walk finds the files in the order of their ways. -/
theorem files_ordered {node : Node} (listed : List String → Bool) (h : node.WellFormed) :
    (node.files listed).Pairwise fun a b => Precedes a.1 b.1 := by
  unfold files
  rw [List.pairwise_filterMap]
  refine (stops_ordered listed h).imp ?_
  intro stop other hlt file hfile file' hfile'
  obtain ⟨number, -, rfl⟩ := Option.map_eq_some_iff.mp hfile
  obtain ⟨number', -, rfl⟩ := Option.map_eq_some_iff.mp hfile'
  exact hlt

end Node

/-- A volume as an operating system has it. One that was empty at first is like that after whatever
edits, which is `Volume.wellFormed_of_edits`. -/
def Volume.WellFormed (volume : Volume) : Prop := volume.root.WellFormed

end LayeredUnits
