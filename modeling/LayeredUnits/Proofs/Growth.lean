import LayeredUnits.Proofs.Upkeep
import LayeredUnits.Volume.Read

/-!
# Volumes that grow

Making a directory or a new file puts something where nothing was, and leaves
everything else where it is: the tree grows. Whatever a path led to in the tree
before, it leads to afterwards, so that a directory once made stays made and a
file once written stays readable, whatever is made after it.

* `Node.Grows`, `Node.grows_put` — what it is for a tree to grow, and that it
  does if something is put in a vacant place.
* `Volume.resolve_of_grows` — walks through a tree that has grown.
* `Volume.resolve_of_vacant` — the walk that ended at a vacant place finds what
  has been put there.
* `Volume.makeDirectories_grown` — directories that have been made are there.
-/

namespace LayeredUnits

namespace Node

variable {old new : Node} {way above : List String} {name : String}

/-! ## Trees -/

/-- Two nodes that are the same but for what a directory holds. A tree that grows keeps every node
up to this. -/
inductive Alike : Node → Node → Prop
  | same (node : Node) : Alike node node
  | directories (children others : List (String × Node)) :
    Alike (.directory children) (.directory others)

theorem Alike.trans {a b c : Node} (h : Alike a b) (h' : Alike b c) : Alike a c := by
  cases h with
  | same => exact h'
  | directories children others =>
    cases h' with
    | same => exact .directories _ _
    | directories => exact .directories _ _

/-- Whether a tree has all that another one has, in the same places. Directories may hold
more. -/
def Grows (old new : Node) : Prop :=
  ∀ way node, old.at? way = some node → ∃ other, new.at? way = some other ∧ node.Alike other

theorem Grows.refl (node : Node) : Grows node node := fun _ one hone => ⟨one, hone, .same one⟩

theorem Grows.trans {a b c : Node} (h : Grows a b) (h' : Grows b c) : Grows a c := by
  intro way node hnode
  obtain ⟨other, hother, halike⟩ := h way node hnode
  obtain ⟨last, hlast, halike'⟩ := h' way other hother
  exact ⟨last, hlast, halike.trans halike'⟩

/-- A file stays the file that it is. -/
theorem Grows.file (h : Grows old new) {number : Nat} (hfile : old.at? way = some (.file number)) :
    new.at? way = some (.file number) := by
  obtain ⟨other, hother, halike⟩ := h way _ hfile
  cases halike
  exact hother

/-- A link stays the link that it is. -/
theorem Grows.link (h : Grows old new) {target : String}
    (hlink : old.at? way = some (.link target)) : new.at? way = some (.link target) := by
  obtain ⟨other, hother, halike⟩ := h way _ hlink
  cases halike
  exact hother

/-- A directory stays a directory. -/
theorem Grows.directory (h : Grows old new) {children : List (String × Node)}
    (hdirectory : old.at? way = some (.directory children)) :
    ∃ others, new.at? way = some (.directory others) := by
  obtain ⟨other, hother, halike⟩ := h way _ hdirectory
  cases halike
  · exact ⟨_, hother⟩
  · exact ⟨_, hother⟩

/-- A way down leads through directories only. A file or a link has nothing below it. -/
theorem directory_of_append {front back : List String} {children : List (String × Node)}
    (h : old.at? (front ++ back) = some (.directory children)) :
    ∃ others, old.at? front = some (.directory others) := by
  rw [at?_append] at h
  obtain ⟨node, hnode, hback⟩ := Option.bind_eq_some_iff.mp h
  cases node with
  | directory others => exact ⟨others, hnode⟩
  | file number => cases back <;> cases hback
  | link target => cases back <;> cases hback

theorem lookup_putChild (children : List (String × Node)) (name : String) (node : Node) :
    (putChild children name (some node)).lookup name = some node := by
  unfold putChild
  dsimp only
  split
  · next hany =>
    -- The name is there: its first entry is replaced where it stands.
    induction children with
    | nil => cases hany
    | cons child rest ih =>
      rw [List.map_cons, List.lookup_cons]
      by_cases hname : child.1 = name
      · simp [hname]
      · have hrest : (rest.any fun child => child.1 == name) = true := by
          simpa [hname] using hany
        have hne : (name == child.1) = false := beq_eq_false_iff_ne.mpr (Ne.symm hname)
        have hsame : (child.1 == name) = false := beq_eq_false_iff_ne.mpr hname
        simp only [hsame, Bool.false_eq_true, if_false, hne]
        exact ih hrest
  · next hany =>
    -- The name is new, and comes at the end.
    have hnone : children.lookup name = none := by
      rw [List.lookup_eq_none_iff]
      intro child hchild
      rw [bne_iff_ne]
      rintro rfl
      exact hany (List.any_eq_true.mpr ⟨child, hchild, beq_self_eq_true _⟩)
    rw [List.lookup_append, hnone]
    simp

theorem lookup_putChild_of_ne (children : List (String × Node)) {name other : String}
    (h : other ≠ name) (new : Option Node) :
    (putChild children name new).lookup other = children.lookup other := by
  have hne : (other == name) = false := beq_eq_false_iff_ne.mpr h
  cases new with
  | none =>
    -- What is taken out has another name, and so has what is put in.
    induction children with
    | nil => rfl
    | cons child rest ih =>
      unfold putChild at ih ⊢
      by_cases hchild : child.1 = name
      · rw [List.filter_cons_of_neg (by simp [hchild]), ih, List.lookup_cons, hchild, hne]
      · rw [List.filter_cons_of_pos (by simp [hchild]), List.lookup_cons, List.lookup_cons, ih]
  | some node =>
    unfold putChild
    dsimp only
    split
    · clear * - hne
      induction children with
      | nil => rfl
      | cons child rest ih =>
        rw [List.map_cons, List.lookup_cons, List.lookup_cons, ih]
        by_cases hchild : child.1 = name
        · simp [hchild, hne]
        · simp [hchild]
    · rw [List.lookup_append, List.lookup_cons, hne]
      simp

theorem put_cons (new : Option Node) {first : String} {rest : List String} (h : rest ≠ [])
    {children : List (String × Node)} {child : Node} (hchild : children.lookup first = some child) :
    (directory children).put new (first :: rest) =
      .directory (putChild children first (some (child.put new rest))) := by
  rw [put, hchild]
  exact fun heq => h heq

/-- What is put in a directory is there, and at every other way there is what was there. -/
theorem at?_put {children : List (String × Node)} (node : Node)
    (hdirectory : old.at? above = some (.directory children)) :
    (old.put (some node) (above ++ [name])).at? (above ++ [name]) = some node := by
  induction above generalizing old with
  | nil =>
    cases hdirectory
    rw [List.nil_append, put, at?, lookup_putChild]
    rfl
  | cons first rest ih =>
    cases old with
    | directory others =>
      obtain ⟨child, hchild, hrest⟩ := Option.bind_eq_some_iff.mp hdirectory
      rw [List.cons_append, put_cons _ (by simp) hchild, at?, lookup_putChild]
      exact ih hrest
    | file number => cases hdirectory
    | link target => cases hdirectory

/-- A tree grows if something is put in a vacant place of it. Nothing that was there is covered by
it. -/
theorem grows_put {children : List (String × Node)} (node : Node)
    (hdirectory : old.at? above = some (.directory children))
    (hvacant : old.at? (above ++ [name]) = none) :
    Grows old (old.put (some node) (above ++ [name])) := by
  induction above generalizing old with
  | nil =>
    cases hdirectory
    rw [List.nil_append, put]
    -- The way of anything that was there parts from the way of the new name here, or is that of
    -- this directory. It cannot go on with the new name, which was vacant.
    intro way one hone
    cases way with
    | nil =>
      cases hone
      exact ⟨_, rfl, .directories _ _⟩
    | cons first rest =>
      have hne : first ≠ name := by
        rintro rfl
        obtain ⟨child, hchild, -⟩ := Option.bind_eq_some_iff.mp hone
        rw [List.nil_append, at?, hchild] at hvacant
        cases hvacant
      rw [at?, lookup_putChild_of_ne _ hne]
      exact ⟨one, hone, .same one⟩
  | cons first rest ih =>
    cases old with
    | directory others =>
      obtain ⟨child, hchild, hrest⟩ := Option.bind_eq_some_iff.mp hdirectory
      rw [List.cons_append, at?, hchild, Option.bind_some] at hvacant
      rw [List.cons_append, put_cons _ (by simp) hchild]
      intro way one hone
      cases way with
      | nil =>
        cases hone
        exact ⟨_, rfl, .directories _ _⟩
      | cons other below =>
        -- The two ways part here, or they go on together.
        by_cases hsame : other = first
        · subst hsame
          rw [at?, hchild, Option.bind_some] at hone
          rw [at?, lookup_putChild, Option.bind_some]
          exact ih hrest hvacant below one hone
        · rw [at?, lookup_putChild_of_ne _ hsame]
          exact ⟨one, hone, .same one⟩
    | file number => cases hdirectory
    | link target => cases hdirectory

/-- A directory stays one, whatever is put into it or taken out of it. -/
theorem directory_of_put {new : Option Node} (children : List (String × Node))
    (h : new = none ∨ way ≠ []) : ∃ others, (directory children).put new way = .directory others := by
  match way with
  | [] =>
    rcases h with rfl | hne
    · exact ⟨children, rfl⟩
    · exact absurd rfl hne
  | [name] => exact ⟨_, rfl⟩
  | first :: second :: rest =>
    cases hchild : children.lookup first with
    | none =>
      refine ⟨children, ?_⟩
      rw [put, hchild]
      exact fun heq => List.cons_ne_nil _ _ heq
    | some child => exact ⟨_, put_cons new (List.cons_ne_nil _ _) hchild⟩

/-- A file of a tree that was changed at one place was there before, or has been put there. -/
theorem file_of_put {root : Node} {new : Option Node} {way below : List String} {number : Nat}
    (h : (root.put new way).at? below = some (.file number)) :
    (∃ before, root.at? before = some (.file number)) ∨
      ∃ node before, new = some node ∧ node.at? before = some (.file number) := by
  fun_induction Node.put new way root generalizing below with
  | case1 node =>
    cases new with
    | none => exact .inl ⟨below, h⟩
    | some one => exact .inr ⟨one, below, rfl, h⟩
  | case2 name children =>
    -- The place itself: what is below the name is new, and all else is as before.
    cases below with
    | nil => cases h
    | cons first rest =>
      by_cases hsame : first = name
      · subst hsame
        cases new with
        | none =>
          have hnone : (putChild children first none).lookup first = none := by
            rw [List.lookup_eq_none_iff]
            intro child hchild
            have := List.of_mem_filter hchild
            rw [bne_iff_ne] at this ⊢
            exact this.symm
          rw [at?, hnone] at h
          cases h
        | some one =>
          rw [at?, lookup_putChild] at h
          exact .inr ⟨one, rest, rfl, h⟩
      · rw [at?, lookup_putChild_of_ne _ hsame] at h
        exact .inl ⟨first :: rest, h⟩
  | case3 name rest children hrest child hchild ih =>
    -- A directory on the way: only what is below this child may have changed.
    cases below with
    | nil => cases h
    | cons first more =>
      by_cases hsame : first = name
      · subst hsame
        rw [at?, lookup_putChild, Option.bind_some] at h
        rcases ih h with ⟨before, hbefore⟩ | hnew
        · refine .inl ⟨first :: before, ?_⟩
          rw [at?, hchild]
          exact hbefore
        · exact .inr hnew
      · rw [at?, lookup_putChild_of_ne _ hsame] at h
        exact .inl ⟨first :: more, h⟩
  | case4 => exact .inl ⟨below, h⟩
  | case5 => exact .inl ⟨below, h⟩

end Node

namespace Volume

/-! ## Walks -/

section

variable {root old new : Node} {follow slashed : Bool} {links : Nat}
  {here segments directory way : List String} {name : String}

/-- A walk that starts in a directory and ends at a vacant place ends in a directory. -/
theorem directory_of_vacant {children : List (String × Node)}
    (hhere : root.at? here = some (.directory children))
    (h : resolve root follow links here segments = .ok (.vacant directory name slashed)) :
    (∃ others, root.at? directory = some (.directory others)) ∧
      root.at? (directory ++ [name]) = none := by
  fun_induction resolve root follow links here segments generalizing children with
  | case1 | case2 | case6 | case8 | case9 | case10 | case11 => cases h
  | case3 _ _ _ _ _ ih => exact ih hhere h
  | case4 links here rest hdots ih =>
    -- A step up from a directory leads to a directory, or stays at the root.
    obtain ⟨others, hothers⟩ : ∃ others, root.at? here.dropLast = some (.directory others) := by
      by_cases hnil : here = []
      · subst hnil
        exact ⟨_, hhere⟩
      · rw [← List.dropLast_append_getLast hnil] at hhere
        exact Node.directory_of_append hhere
    exact ih hothers h
  | case5 links here segment rest hblank hdots hnone =>
    cases h
    exact ⟨⟨_, hhere⟩, hnone⟩
  | case7 links here segment rest hblank hdots others hdirectory ih => exact ih hdirectory h
  | case12 here segment rest hblank hdots target hlink hend links ih =>
    -- A link is followed from the root or from the directory that it is in.
    obtain ⟨others, hothers⟩ : ∃ others,
        root.at? (if Path.isAbsolute target = true then [] else here) =
          some (.directory others) := by
      split
      · exact Node.directory_of_append (List.nil_append here ▸ hhere)
      · exact ⟨_, hhere⟩
    exact ih (by simpa using hothers) (by simpa using h)

/-- Where a walk led, it leads when the tree has grown. The induction follows the walk, link by link
and segment by segment. -/
theorem resolve_of_grows {node : Node} (hgrows : Node.Grows old new)
    (h : resolve old follow links here segments = .ok (.found way node)) :
    ∃ other, resolve new follow links here segments = .ok (.found way other) ∧
      node.Alike other := by
  fun_induction resolve old follow links here segments with
  | case1 links here node hhere =>
    cases h
    obtain ⟨other, hother, halike⟩ := hgrows _ _ hhere
    exact ⟨other, by rw [resolve, hother], halike⟩
  | case2 | case5 | case6 | case9 | case11 => cases h
  | case3 links here segment rest hblank ih =>
    rw [resolve, if_pos hblank]
    exact ih h
  | case4 links here rest hblank ih =>
    rw [resolve, if_neg hblank, if_pos rfl]
    exact ih h
  | case7 links here segment rest hblank hdots children hdirectory ih =>
    -- What was a directory still is one, and what was a file or a link is the same.
    obtain ⟨others, hothers⟩ := hgrows.directory hdirectory
    rw [resolve, if_neg hblank, if_neg hdots, hothers]
    exact ih h
  | case8 links here segment hblank hdots number hfile =>
    cases h
    refine ⟨_, ?_, .same _⟩
    rw [resolve, if_neg hblank, if_neg hdots, hgrows.file hfile]
    rfl
  | case10 links here segment rest hblank hdots target hlink hend =>
    cases h
    refine ⟨_, ?_, .same _⟩
    rw [resolve, if_neg hblank, if_neg hdots, hgrows.link hlink]
    exact if_pos hend
  | case12 here segment rest hblank hdots target hlink hend links ih =>
    rw [resolve, if_neg hblank, if_neg hdots, hgrows.link hlink]
    simp only [if_neg hend]
    exact ih (by simpa using h)

/-- Segments that are empty lead nowhere else. -/
theorem resolve_empty (hempty : segments.all (· == "") = true) {node : Node}
    (hhere : root.at? here = some node) :
    resolve root follow links here segments = .ok (.found here node) := by
  induction segments with
  | nil => rw [resolve, hhere]
  | cons segment rest ih =>
    rw [List.all_cons, Bool.and_eq_true, beq_iff_eq] at hempty
    rw [resolve, if_pos (.inl hempty.1), ih hempty.2]

/-- The walk that ended at a vacant place finds what is there when the tree has grown. -/
theorem resolve_of_vacant {node : Node} (hgrows : Node.Grows old new)
    (h : resolve old follow links here segments = .ok (.vacant directory name slashed))
    (hnew : new.at? (directory ++ [name]) = some node)
    (hfits : (∃ children, node = .directory children) ∨
      slashed = false ∧ ∃ number, node = .file number) :
    resolve new follow links here segments = .ok (.found (directory ++ [name]) node) := by
  fun_induction resolve old follow links here segments with
  | case1 | case2 | case6 | case8 | case9 | case10 | case11 => cases h
  | case3 links here segment rest hblank ih =>
    rw [resolve, if_pos hblank]
    exact ih h
  | case4 links here rest hblank ih =>
    rw [resolve, if_neg hblank, if_pos rfl]
    exact ih h
  | case5 links here segment rest hblank hdots hnone hempty =>
    -- The walk ended here because nothing was there. Now there is the new node, and
    -- at most slashes are left.
    cases h
    rw [resolve, if_neg hblank, if_neg hdots, hnew]
    rcases hfits with ⟨children, rfl⟩ | ⟨hslashed, number, rfl⟩
    · exact resolve_empty hempty hnew
    · exact if_pos (by simpa using hslashed)
  | case7 links here segment rest hblank hdots children hdirectory ih =>
    -- Up to there it goes through what has been there all the time.
    obtain ⟨others, hothers⟩ := hgrows.directory hdirectory
    rw [resolve, if_neg hblank, if_neg hdots, hothers]
    exact ih h
  | case12 here segment rest hblank hdots target hlink hend links ih =>
    rw [resolve, if_neg hblank, if_neg hdots, hgrows.link hlink]
    simp only [if_neg hend]
    exact ih (by simpa using h)

/-- A place that is vacant is so whether links are followed or not. -/
theorem resolve_followed
    (h : resolve root false links here segments = .ok (.vacant directory name slashed)) :
    resolve root true links here segments = .ok (.vacant directory name slashed) := by
  fun_induction resolve root false links here segments with
  | case1 | case2 | case6 | case8 | case9 | case10 | case11 => cases h
  | case3 links here segment rest hblank ih =>
    rw [resolve, if_pos hblank]
    exact ih h
  | case4 links here rest hblank ih =>
    rw [resolve, if_neg hblank, if_pos rfl]
    exact ih h
  | case5 links here segment rest hblank hdots hnone hempty =>
    rw [resolve, if_neg hblank, if_neg hdots, hnone]
    exact (if_pos hempty).trans h
  | case7 links here segment rest hblank hdots children hdirectory ih =>
    rw [resolve, if_neg hblank, if_neg hdots, hdirectory]
    exact ih h
  | case12 here segment rest hblank hdots target hlink hend links ih =>
    rw [resolve, if_neg hblank, if_neg hdots, hlink]
    simp only [Bool.true_eq_false, and_false, if_false]
    exact ih (by simpa using h)

/-- What is there is there too if the last link is not followed. So a name that is taken is not
taken for vacant. -/
theorem resolve_unfollowed {node : Node}
    (h : resolve root true links here segments = .ok (.found way node)) :
    ∃ way node, resolve root false links here segments = .ok (.found way node) := by
  fun_induction resolve root true links here segments with
  | case1 links here node hhere => exact ⟨here, node, by rw [resolve, hhere]⟩
  | case2 | case5 | case6 | case9 | case11 => cases h
  | case3 links here segment rest hblank ih =>
    rw [resolve, if_pos hblank]
    exact ih h
  | case4 links here rest hblank ih =>
    rw [resolve, if_neg hblank, if_pos rfl]
    exact ih h
  | case7 links here segment rest hblank hdots children hdirectory ih =>
    rw [resolve, if_neg hblank, if_neg hdots, hdirectory]
    exact ih h
  | case8 links here segment hblank hdots number hfile =>
    exact ⟨_, _, by rw [resolve, if_neg hblank, if_neg hdots, hfile]; rfl⟩
  | case10 links here segment rest hblank hdots target hlink hend => cases hend.2
  | case12 here segment rest hblank hdots target hlink hend links ih =>
    rw [resolve, if_neg hblank, if_neg hdots, hlink]
    by_cases hlast : rest = []
    · exact ⟨_, _, if_pos ⟨hlast, rfl⟩⟩
    · simp only [hlast, false_and, if_false]
      exact ih (by simpa using h)

end

/-! ## Directories -/

/-- A volume that a program can work on: it starts in a directory, and every file has contents. -/
structure Mounted (volume : Volume) : Prop where
  home : ∃ children, volume.root.at? volume.home = some (.directory children)
  stored : ∀ way number, volume.root.at? way = some (.file number) → number < volume.contents.size

/-- Whether a volume comes of another by making directories. Files and links are the same
in both. -/
structure Grown (before after : Volume) : Prop where
  grows : Node.Grows before.root after.root
  home : after.home = before.home
  contents : after.contents = before.contents
  files : ∀ way number, after.root.at? way = some (.file number) →
    ∃ way, before.root.at? way = some (.file number)

variable {volume changed later : Volume} {path : String} {content : ByteArray} {follow : Bool}

theorem Grown.refl (volume : Volume) : Grown volume volume :=
  ⟨.refl _, rfl, rfl, fun way _ h => ⟨way, h⟩⟩

theorem Grown.trans (h : Grown volume changed) (h' : Grown changed later) : Grown volume later where
  grows := h.grows.trans h'.grows
  home := h'.home.trans h.home
  contents := h'.contents.trans h.contents
  files way number hfile := by
    obtain ⟨before, hbefore⟩ := h'.files way number hfile
    exact h.files before number hbefore

theorem Mounted.grown (h : volume.Mounted) (hgrown : Grown volume changed) : changed.Mounted where
  home := by
    obtain ⟨children, hhome⟩ := h.home
    exact hgrown.home ▸ hgrown.grows.directory hhome
  stored way number hfile := by
    obtain ⟨before, hbefore⟩ := hgrown.files way number hfile
    exact hgrown.contents ▸ h.stored before number hbefore

/-- A walk starts in a directory, be it at the root or at the home of the volume. -/
theorem Mounted.start (h : volume.Mounted) (path : String) : ∃ children,
    volume.root.at? (if Path.isAbsolute path then [] else volume.home) =
      some (.directory children) := by
  obtain ⟨children, hhome⟩ := h.home
  split
  · exact Node.directory_of_append (List.nil_append volume.home ▸ hhome)
  · exact ⟨children, hhome⟩

/-- A path that can be walked at all is walked in every volume segment by segment. -/
theorem walk_eq_resolve {spot : Spot} (h : volume.walk follow path = .ok spot) (later : Volume)
    (follow : Bool) : later.walk follow path = resolve later.root follow maxLinks
      (if Path.isAbsolute path then [] else later.home) (Text.pieces '/' path) := by
  unfold walk at h ⊢
  split at h
  · cases h
  · next hempty =>
    split at h
    · cases h
    · next hnul => rw [if_neg hempty, if_neg hnul]

section

variable {directory way : List String} {name : String} {slashed : Bool} {node : Node}

/-- A vacant place lies in a directory, so something can be put there. -/
theorem Mounted.vacant (h : volume.Mounted)
    (hwalk : volume.walk follow path = .ok (.vacant directory name slashed)) :
    (∃ children, volume.root.at? directory = some (.directory children)) ∧
      volume.root.at? (directory ++ [name]) = none := by
  obtain ⟨children, hstart⟩ := h.start path
  exact directory_of_vacant hstart (resolve_of_walk hwalk).2

/-- What a path leads to, it leads to when the volume has grown. New things lie only where nothing
was. -/
theorem walk_of_grows (hgrows : Node.Grows volume.root later.root)
    (hhome : later.home = volume.home) (h : volume.walk follow path = .ok (.found way node)) :
    ∃ other, later.walk follow path = .ok (.found way other) ∧ node.Alike other := by
  rw [walk_eq_resolve h later, hhome]
  exact resolve_of_grows hgrows (resolve_of_walk h).2

/-- A path that led to a vacant place leads to what has been put there. -/
theorem walk_of_vacant (hgrows : Node.Grows volume.root later.root)
    (hhome : later.home = volume.home)
    (h : volume.walk follow path = .ok (.vacant directory name slashed))
    (hnew : later.root.at? (directory ++ [name]) = some node)
    (hfits : (∃ children, node = .directory children) ∨
      slashed = false ∧ ∃ number, node = .file number) :
    later.walk follow path = .ok (.found (directory ++ [name]) node) := by
  rw [walk_eq_resolve h later, hhome]
  exact resolve_of_vacant hgrows (resolve_of_walk h).2 hnew hfits

theorem walk_followed (h : volume.walk false path = .ok (.vacant directory name slashed)) :
    volume.walk true path = .ok (.vacant directory name slashed) := by
  rw [walk_eq_resolve h volume true]
  exact resolve_followed (resolve_of_walk h).2

theorem walk_unfollowed (h : volume.walk true path = .ok (.found way node)) :
    ∃ way node, volume.walk false path = .ok (.found way node) := by
  rw [walk_eq_resolve h volume false]
  exact resolve_unfollowed (resolve_of_walk h).2

end

theorem isDirectory_iff : volume.isDirectory path = true ↔
    ∃ way children, volume.walk true path = .ok (.found way (.directory children)) := by
  unfold isDirectory locate
  constructor
  · intro h
    split at h
    · next heq =>
      split at heq
      · next hwalk =>
        cases heq
        exact ⟨_, _, hwalk⟩
      · cases heq
      · cases heq
    · cases h
  · rintro ⟨way, children, hwalk⟩
    rw [hwalk]

/-- A directory stays a directory. -/
theorem isDirectory_of_grows (hgrows : Node.Grows volume.root later.root)
    (hhome : later.home = volume.home) (h : volume.isDirectory path = true) :
    later.isDirectory path = true := by
  obtain ⟨way, children, hwalk⟩ := isDirectory_iff.mp h
  obtain ⟨other, hother, halike⟩ := walk_of_grows hgrows hhome hwalk
  cases halike <;> exact isDirectory_iff.mpr ⟨way, _, hother⟩

/-- A directory that has been made is there, and nothing else has changed. -/
theorem makeDirectory_grown (h : volume.Mounted) (hmade : volume.makeDirectory path = .ok changed) :
    Grown volume changed ∧ changed.isDirectory path = true := by
  obtain ⟨spot, hwalk, hspot⟩ := ok_of_bind hmade
  split at hspot
  · cases hspot
  · next directory name slashed =>
    cases hspot
    obtain ⟨⟨children, hdirectory⟩, hvacant⟩ := h.vacant hwalk
    have hgrows := Node.grows_put (.directory []) hdirectory hvacant
    have hthere : walk { volume with
        root := volume.root.put (some (.directory [])) (directory ++ [name]) } true path =
          .ok (.found (directory ++ [name]) (.directory [])) :=
      walk_of_vacant hgrows rfl (walk_followed hwalk) (Node.at?_put _ hdirectory) (.inl ⟨_, rfl⟩)
    refine ⟨⟨hgrows, rfl, rfl, fun way number hfile => ?_⟩, isDirectory_iff.mpr ⟨_, _, hthere⟩⟩
    rcases Node.file_of_put hfile with hold | ⟨node, way, hnode, hnew⟩
    · exact hold
    · cases hnode
      cases way <;> cases hnew

theorem ensureDirectory_grown (h : volume.Mounted)
    (hmade : volume.ensureDirectory path = .ok changed) :
    Grown volume changed ∧ changed.isDirectory path = true := by
  unfold ensureDirectory at hmade
  split at hmade
  · next hone =>
    cases hmade
    exact makeDirectory_grown h hone
  · split at hmade
    · next hthere =>
      cases hmade
      exact ⟨.refl _, hthere⟩
    · cases hmade

theorem makeDirectoriesWithin_grown {depth : Nat} (h : volume.Mounted)
    (hmade : volume.makeDirectoriesWithin depth path = .ok changed) :
    Grown volume changed ∧ (depth ≠ 0 → path ≠ "" → changed.isDirectory path = true) := by
  induction depth generalizing path changed with
  | zero =>
    cases hmade
    exact ⟨.refl _, fun hzero => absurd rfl hzero⟩
  | succ depth ih =>
    rw [makeDirectoriesWithin] at hmade
    split at hmade
    · next hempty =>
      cases hmade
      exact ⟨.refl _, fun _ hne => absurd hempty hne⟩
    · split at hmade
      · next hone =>
        cases hmade
        obtain ⟨hgrown, hthere⟩ := makeDirectory_grown h hone
        exact ⟨hgrown, fun _ _ => hthere⟩
      · split at hmade
        · cases hmade
        · -- The directory above is made first, and then this one in what has grown from that.
          obtain ⟨before, hbefore, hlast⟩ := ok_of_bind hmade
          have hgrown := (ih hbefore).1
          obtain ⟨hgrown', hthere⟩ := ensureDirectory_grown (h.grown hgrown) hlast
          exact ⟨hgrown.trans hgrown', fun _ _ => hthere⟩
      · split at hmade
        · next hthere =>
          cases hmade
          exact ⟨.refl _, fun _ _ => hthere⟩
        · cases hmade

/-- Directories that have been made are there, and nothing else has changed. -/
theorem makeDirectories_grown (h : volume.Mounted)
    (hmade : volume.makeDirectories path = .ok changed) :
    Grown volume changed ∧ (path ≠ "" → changed.isDirectory path = true) := by
  obtain ⟨hgrown, hthere⟩ := makeDirectoriesWithin_grown h hmade
  exact ⟨hgrown, hthere (Nat.succ_ne_zero _)⟩

/-- A directory that is there is not made again, and neither is one on the way to it. -/
theorem makeDirectories_again (h : path ≠ "" → volume.isDirectory path = true) :
    volume.makeDirectories path = .ok volume := by
  unfold makeDirectories
  rw [makeDirectoriesWithin]
  by_cases hempty : path = ""
  · rw [if_pos hempty]
  · have hthere := h hempty
    obtain ⟨way, children, hwalk⟩ := isDirectory_iff.mp hthere
    obtain ⟨way, node, hunfollowed⟩ := walk_unfollowed hwalk
    have hmade : volume.makeDirectory path = .error .alreadyExists := by
      unfold makeDirectory
      rw [hunfollowed]
      rfl
    rw [if_neg hempty, hmade]
    exact if_pos hthere

/-! ## Files -/

/-- Whether something can be written to a path: it leads to a file, or to a vacant place under
a name without slashes after it. -/
def Writable (volume : Volume) (path : String) : Prop :=
  (∃ way number, volume.walk true path = .ok (.found way (.file number))) ∨
    ∃ directory name, volume.walk true path = .ok (.vacant directory name false)

theorem locate_of_walk {way : List String} {node : Node}
    (h : volume.walk true path = .ok (.found way node)) : volume.locate path = .ok (way, node) := by
  unfold locate
  rw [h]

theorem fileBytes_of_walk {way : List String} {number : Nat}
    (h : volume.walk true path = .ok (.found way (.file number))) :
    volume.fileBytes path = .ok (volume.content number) := by
  unfold fileBytes open?
  rw [locate_of_walk h]
  rfl

/-- What a file holds, it holds when directories have been made. -/
theorem Grown.fileBytes (h : Grown volume changed) (hbytes : volume.fileBytes path = .ok content) :
    changed.fileBytes path = .ok content := by
  obtain ⟨blob, hopened, hread⟩ := ok_of_bind hbytes
  unfold open? at hopened
  split at hopened
  · cases hopened
  · next way number hlocate =>
    have hwalk := walk_of_locate hlocate
    obtain ⟨other, hother, halike⟩ := walk_of_grows h.grows h.home hwalk
    cases halike
    rw [fileBytes_of_walk hwalk] at hbytes
    rw [fileBytes_of_walk hother, Volume.content, h.contents]
    exact hbytes
  · cases hopened
    cases hread

/-- A file that holds these bytes. Writing them to it changes nothing. -/
theorem holds_of_walk {way : List String} {number : Nat}
    (h : volume.walk true path = .ok (.found way (.file number)))
    (hcontent : volume.contents[number]? = some content) :
    volume.exists? path = true ∧ volume.fileBytes path = .ok content ∧
      volume.writeFile path content = .ok volume := by
  refine ⟨?_, ?_, ?_⟩
  · unfold exists?
    rw [locate_of_walk h]
  · rw [fileBytes_of_walk h, Volume.content, Array.getD_eq_getD_getElem?, hcontent]
    rfl
  · have hsame : volume.contents.setIfInBounds number content = volume.contents := by
      obtain ⟨hlt, hget⟩ := Array.getElem?_eq_some_iff.mp hcontent
      rw [Array.setIfInBounds_def, dif_pos hlt, ← hget, Array.set_getElem_self]
    unfold writeFile
    rw [h]
    change Except.ok { volume with contents := volume.contents.setIfInBounds number content } = _
    rw [hsame]

/-- What has been written can be read, and to write it again changes nothing. -/
theorem writeFile_of_writable (h : volume.Mounted) (hwritable : volume.Writable path)
    (content : ByteArray) :
    ∃ changed, volume.writeFile path content = .ok changed ∧
      Node.Grows volume.root changed.root ∧ changed.home = volume.home ∧
      changed.exists? path = true ∧ changed.fileBytes path = .ok content ∧
      changed.writeFile path content = .ok changed := by
  rcases hwritable with ⟨way, number, hwalk⟩ | ⟨directory, name, hwalk⟩
  · -- A file that is there keeps its number and its names, and has other contents.
    have hnumber := h.stored way number (at?_of_resolve (resolve_of_walk hwalk).2)
    have hwritten : volume.writeFile path content =
        .ok { volume with contents := volume.contents.setIfInBounds number content } := by
      unfold writeFile
      rw [hwalk]
      rfl
    have hthere : walk { volume with
        contents := volume.contents.setIfInBounds number content } true path =
          .ok (.found way (.file number)) := hwalk
    exact ⟨_, hwritten, .refl _, rfl,
      holds_of_walk hthere (Array.getElem?_setIfInBounds_self_of_lt hnumber)⟩
  · -- A new file has the next number, and the vacant place as its name.
    obtain ⟨⟨children, hdirectory⟩, hvacant⟩ := h.vacant hwalk
    have hwritten : volume.writeFile path content = .ok (volume.addFile directory name content) := by
      unfold writeFile
      rw [hwalk]
      rfl
    have hgrows := Node.grows_put (.file volume.contents.size) hdirectory hvacant
    have hthere : (volume.addFile directory name content).walk true path =
        .ok (.found (directory ++ [name]) (.file volume.contents.size)) :=
      walk_of_vacant hgrows rfl hwalk (Node.at?_put _ hdirectory) (.inr ⟨rfl, _, rfl⟩)
    exact ⟨_, hwritten, hgrows, rfl, holds_of_walk hthere Array.getElem?_push_size⟩

/-! ## Edits -/

/-- A volume that starts at its root can be worked on if its files have contents, whatever is
put in its tree or taken out of it. -/
theorem Mounted.put {contents : Array ByteArray} {new : Option Node} {way : List String}
    (h : volume.Mounted) (hhome : volume.home = [])
    (hsize : volume.contents.size ≤ contents.size) (hway : new = none ∨ way ≠ [])
    (hnew : ∀ node below number, new = some node → node.at? below = some (.file number) →
      number < contents.size) :
    Mounted { volume with root := volume.root.put new way, contents := contents } where
  home := by
    obtain ⟨children, hroot⟩ := h.home
    rw [hhome] at hroot ⊢
    have hdirectory : volume.root = .directory children := Option.some.inj hroot
    obtain ⟨others, hothers⟩ := Node.directory_of_put children hway
    exact ⟨others, by rw [hdirectory, hothers]; rfl⟩
  stored below number hfile := by
    rcases Node.file_of_put hfile with ⟨before, hbefore⟩ | ⟨node, before, hnode, hbefore⟩
    · exact Nat.lt_of_lt_of_le (h.stored before number hbefore) hsize
    · exact hnew node before number hnode hbefore

/-- Whatever is written, a volume that starts at its root can be worked on. -/
theorem Mounted.writeFile (h : volume.Mounted) (hhome : volume.home = [])
    (hwritten : volume.writeFile path content = .ok changed) :
    changed.Mounted ∧ changed.home = [] := by
  obtain ⟨spot, hwalk, hspot⟩ := ok_of_bind hwritten
  split at hspot
  · cases hspot
    refine ⟨⟨h.home, fun way number hfile => ?_⟩, hhome⟩
    rw [Array.size_setIfInBounds]
    exact h.stored way number hfile
  · cases hspot
  · split at hspot
    · cases hspot
    · cases hspot
      refine ⟨h.put hhome (by simp) (.inr (by simp)) ?_, hhome⟩
      intro node below number hnode hfile
      cases hnode
      cases below <;> cases hfile
      simp

theorem Mounted.makeLink {target : String} (h : volume.Mounted) (hhome : volume.home = [])
    (hmade : volume.makeLink path target = .ok changed) :
    changed.Mounted ∧ changed.home = [] := by
  obtain ⟨spot, hwalk, hspot⟩ := ok_of_bind hmade
  split at hspot
  · cases hspot
  · cases hspot
    refine ⟨h.put hhome (Nat.le_refl _) (.inr (by simp)) ?_, hhome⟩
    intro node below number hnode hfile
    cases hnode
    cases below <;> cases hfile

theorem Mounted.remove (h : volume.Mounted) (hhome : volume.home = [])
    (hremoved : volume.remove path = .ok changed) : changed.Mounted ∧ changed.home = [] := by
  obtain ⟨spot, hwalk, hspot⟩ := ok_of_bind hremoved
  split at hspot
  · cases hspot
    refine ⟨h.put hhome (Nat.le_refl _) (.inl rfl) ?_, hhome⟩
    exact fun _ _ _ hnone => nomatch hnone
  · cases hspot

theorem Mounted.makeDirectories (h : volume.Mounted) (hhome : volume.home = [])
    (hmade : volume.makeDirectories path = .ok changed) : changed.Mounted ∧ changed.home = [] := by
  obtain ⟨hgrown, -⟩ := makeDirectories_grown h hmade
  exact ⟨h.grown hgrown, hgrown.home.trans hhome⟩

theorem Mounted.withParent (h : volume.Mounted) (hhome : volume.home = [])
    (hmade : Edit.withParent volume path = .ok changed) : changed.Mounted ∧ changed.home = [] := by
  unfold Edit.withParent at hmade
  split at hmade
  · cases hmade
    exact ⟨h, hhome⟩
  · exact h.makeDirectories hhome hmade

/-- An edit leaves a volume that starts at its root one that can be worked on. -/
theorem Mounted.edited (h : volume.Mounted) (hhome : volume.home = []) (edit : Edit) :
    (edit.apply volume).Mounted ∧ (edit.apply volume).home = [] := by
  unfold Edit.apply
  split
  · next changed hchanged =>
    cases edit with
    | file path content =>
      obtain ⟨before, hbefore, hlast⟩ := ok_of_bind hchanged
      obtain ⟨hmounted, hhome⟩ := h.withParent hhome hbefore
      exact hmounted.writeFile hhome hlast
    | link path target =>
      obtain ⟨before, hbefore, hlast⟩ := ok_of_bind hchanged
      obtain ⟨hmounted, hhome⟩ := h.withParent hhome hbefore
      exact hmounted.makeLink hhome hlast
    | directory path => exact h.makeDirectories hhome hchanged
    | removal path => exact h.remove hhome hchanged
  · exact ⟨h, hhome⟩

/-- A volume that was empty at first can be worked on after whatever edits. -/
theorem mounted_of_edits (edits : List Edit) : (edits.foldl Edit.apply {}).Mounted := by
  suffices h : ∀ volume : Volume, volume.Mounted → volume.home = [] →
      (edits.foldl Edit.apply volume).Mounted from
    h {} ⟨⟨[], rfl⟩, fun way _ hfile => by cases way <;> cases hfile⟩ rfl
  induction edits with
  | nil => exact fun volume h _ => h
  | cons edit rest ih =>
    intro volume h hhome
    obtain ⟨hmounted, hhome⟩ := h.edited hhome edit
    exact ih _ hmounted hhome

end Volume

end LayeredUnits
