import LayeredUnits.Proofs.Splitting
import LayeredUnits.Proofs.Tree

/-!
# Walking along a path

A path is text and a way down is a list of names. This module is about the
paths that are written from a way: such a path leads down that way, name by
name, and meets neither a link nor a segment that is no name.

* `at?_of_locate` — wherever a path leads, by links or not, there is a way down
  to it without links. This is the canonical way.
* `resolve_append` — names that lead to a directory are walked one by one.
* `locate_of_at?` — the path of a way leads to what is at the end of it.
* `at?_of_resolve_unlinked` — where there are no links, a walk goes the way that
  its segments spell.
* `ofComponents_append` — a path joined to another is the path of both ways.
-/

namespace LayeredUnits

namespace Volume

/-! ## Walks and ways -/

/-- Wherever a walk ends, there is a way down to it, which no link is on. -/
theorem at?_of_resolve {root node : Node} {follow : Bool} {links : Nat}
    {here segments way : List String}
    (h : resolve root follow links here segments = .ok (.found way node)) :
    root.at? way = some node := by
  fun_induction resolve root follow links here segments with
  | case1 links here child hhere =>
    cases h
    exact hhere
  | case8 links here segment hblank hdots number hfile =>
    cases h
    exact hfile
  | case10 links here segment rest hblank hdots target hlink hend =>
    cases h
    exact hlink
  | case2 | case5 | case6 | case9 | case11 => cases h
  | case3 _ _ _ _ _ ih | case4 _ _ _ _ ih | case7 _ _ _ _ _ _ _ _ ih => exact ih h
  | case12 _ _ _ _ _ _ _ _ _ ih => exact ih (by simpa using h)

theorem walk_of_locate {volume : Volume} {path : String} {way : List String} {node : Node}
    (h : volume.locate path = .ok (way, node)) : volume.walk true path = .ok (.found way node) := by
  unfold locate at h
  split at h
  · next hwalk =>
    cases h
    exact hwalk
  · cases h
  · cases h

/-- A path that leads somewhere has no NUL in it, and its segments are walked to the end. -/
theorem resolve_of_walk {volume : Volume} {follow : Bool} {path : String} {spot : Spot}
    (h : volume.walk follow path = .ok spot) :
    '\x00' ∉ path.toList ∧
      resolve volume.root follow maxLinks (if Path.isAbsolute path then [] else volume.home)
        (Text.pieces '/' path) = .ok spot := by
  unfold walk at h
  split at h
  · cases h
  · split at h
    · cases h
    · next hended => exact ⟨hended, h⟩

theorem at?_of_locate {volume : Volume} {path : String} {way : List String} {node : Node}
    (h : volume.locate path = .ok (way, node)) : volume.root.at? way = some node :=
  at?_of_resolve (resolve_of_walk (walk_of_locate h)).2

/-- Names that lead to a directory are walked one by one, and the walk goes on from there. -/
theorem resolve_append {root : Node} {follow : Bool} {links : Nat} {here way : List String}
    {children : List (String × Node)} (hway : ∀ name ∈ way, IsFileName name)
    (hdirectory : root.at? (here ++ way) = some (.directory children)) (rest : List String) :
    resolve root follow links here (way ++ rest) =
      resolve root follow links (here ++ way) rest := by
  induction way generalizing here with
  | nil => rw [List.nil_append, List.append_nil]
  | cons name more ih =>
    have hname := hway name List.mem_cons_self
    have happend : here ++ name :: more = (here ++ [name]) ++ more := by
      rw [List.append_assoc]
      rfl
    rw [happend] at hdirectory ⊢
    have hsplit := hdirectory
    rw [Node.at?_append] at hsplit
    obtain ⟨child, hchild, hbelow⟩ := Option.bind_eq_some_iff.mp hsplit
    rw [List.cons_append, resolve, if_neg hname.not_blank, if_neg hname.ne_dots, hchild]
    -- There is a directory at the end of the way, so there is one here too.
    cases child with
    | directory others =>
      exact ih (fun other hother => hway other (List.mem_cons_of_mem _ hother)) hdirectory
    | file number => cases more <;> cases hbelow
    | link target => cases more <;> cases hbelow

/-- Names lead down the way that they are, if there is no link on it. -/
theorem resolve_of_at? {root found : Node} {follow : Bool} {links : Nat} {here way : List String}
    (hway : ∀ name ∈ way, IsFileName name) (hfound : root.at? (here ++ way) = some found)
    (hlink : ∀ target, found ≠ .link target) :
    resolve root follow links here way = .ok (.found (here ++ way) found) := by
  by_cases hnil : way = []
  · subst hnil
    rw [List.append_nil] at hfound ⊢
    rw [resolve, hfound]
  · obtain ⟨front, last, rfl⟩ : ∃ front last, way = front ++ [last] :=
      ⟨_, _, (List.dropLast_append_getLast hnil).symm⟩
    have hlast := hway last List.mem_concat_self
    rw [← List.append_assoc] at hfound
    have hsplit := hfound
    rw [Node.at?_append] at hsplit
    obtain ⟨parent, hparent, hbelow⟩ := Option.bind_eq_some_iff.mp hsplit
    cases parent with
    | file number => cases hbelow
    | link target => cases hbelow
    | directory children =>
      -- All names but the last lead to this directory, and the last one is looked up in it.
      rw [resolve_append (fun name hname => hway name (List.mem_append_left _ hname)) hparent,
        resolve, if_neg hlast.not_blank, if_neg hlast.ne_dots, hfound, ← List.append_assoc]
      cases found with
      | directory others =>
        dsimp only
        rw [resolve, hfound]
      | file number => rfl
      | link target => exact absurd rfl (hlink target)

end Volume

/-! ## Paths that are written from ways -/

namespace Path

open Text (segments joined pieces)

private theorem toList_foldl (way : List String) (text : String) :
    (way.foldl (fun text component => text ++ "/" ++ component) text).toList =
      text.toList ++ way.flatMap fun name => '/' :: name.toList := by
  induction way generalizing text with
  | nil => simp
  | cons name rest ih =>
    rw [List.foldl_cons, ih, List.flatMap_cons]
    simp

/-- The text of a way is each of its names with a slash before it. -/
theorem toList_ofComponents {way : List String} (h : way ≠ []) :
    (ofComponents way).toList = way.flatMap fun name => '/' :: name.toList := by
  cases way with
  | nil => exact absurd rfl h
  | cons name rest => exact toList_foldl (name :: rest) ""

theorem ofComponents_nil : ofComponents [] = "/" := rfl

theorem isAbsolute_ofComponents (way : List String) : isAbsolute (ofComponents way) = true := by
  cases way with
  | nil => rfl
  | cons name rest =>
    unfold isAbsolute
    rw [toList_ofComponents (List.cons_ne_nil _ _), List.flatMap_cons]
    rfl

theorem toList_intercalate (names : List String) :
    ("/".intercalate names).toList = joined '/' (names.map String.toList) := by
  rw [String.toList_intercalate]
  induction names with
  | nil => rfl
  | cons first rest ih =>
    cases rest with
    | nil => simp [joined, List.intercalate]
    | cons second more =>
      have hjoined : joined '/' ((first :: second :: more).map String.toList) =
          first.toList ++ '/' :: joined '/' ((second :: more).map String.toList) := rfl
      rw [hjoined, ← ih]
      simp [List.intercalate]

theorem isAbsolute_intercalate {names : List String} (h : ∀ name ∈ names, IsFileName name) :
    isAbsolute ("/".intercalate names) = false := by
  unfold isAbsolute
  rw [toList_intercalate]
  cases names with
  | nil => rfl
  | cons name rest =>
    have hname := h name List.mem_cons_self
    cases hchars : name.toList with
    | nil => exact absurd (String.toList_eq_nil_iff.mp hchars) hname.ne_empty
    | cons c more =>
      have hc : c ≠ '/' := by
        intro heq
        subst heq
        exact hname.unslashed (hchars ▸ List.mem_cons_self)
      cases rest with
      | nil => simpa [joined, hchars] using hc
      | cons second others => simpa [joined, hchars] using hc

theorem ofComponents_ne_empty (way : List String) : ofComponents way ≠ "" := by
  intro h
  have habsolute := isAbsolute_ofComponents way
  rw [h] at habsolute
  cases habsolute

private theorem segments_slashed {way : List String} (h : ∀ name ∈ way, '/' ∉ name.toList) :
    segments '/' (way.flatMap fun name => '/' :: name.toList) = [] :: way.map String.toList := by
  induction way with
  | nil => rfl
  | cons name rest ih =>
    have hrest := ih fun other hother => h other (List.mem_cons_of_mem _ hother)
    have hname := h name List.mem_cons_self
    rw [List.flatMap_cons, List.map_cons, List.cons_append, segments, if_pos rfl]
    cases rest with
    | nil =>
      rw [List.flatMap_nil, List.append_nil, Text.segments_of_notMem hname]
      rfl
    | cons second more =>
      rw [List.flatMap_cons, List.cons_append, segments, if_pos rfl] at hrest
      rw [List.flatMap_cons, List.cons_append, Text.segments_cons hname, (List.cons.inj hrest).2]

private theorem map_ofList_toList (names : List String) :
    (names.map String.toList).map String.ofList = names := by
  rw [List.map_map]
  have hid : String.ofList ∘ String.toList = id := funext fun name => String.ofList_toList
  rw [hid, List.map_id]

/-- Split at its slashes, the text of a way is its names again, after an empty piece for
the root. -/
theorem pieces_ofComponents {way : List String} (hway : way ≠ [])
    (h : ∀ name ∈ way, '/' ∉ name.toList) : pieces '/' (ofComponents way) = "" :: way := by
  unfold pieces
  rw [toList_ofComponents hway, segments_slashed h, List.map_cons, map_ofList_toList]

/-- Names that are joined by slashes are split at them again. -/
theorem pieces_intercalate {names : List String} (hsome : names ≠ [])
    (h : ∀ name ∈ names, '/' ∉ name.toList) : pieces '/' ("/".intercalate names) = names := by
  unfold pieces
  rw [toList_intercalate, Text.segments_joined (by simpa using hsome) (by simpa using h),
    map_ofList_toList]

private theorem slashed_eq {names : List String} (h : names ≠ []) :
    (names.flatMap fun name => '/' :: name.toList) = '/' :: joined '/' (names.map String.toList) := by
  induction names with
  | nil => exact absurd rfl h
  | cons first rest ih =>
    cases rest with
    | nil => simp [joined]
    | cons second more =>
      rw [List.flatMap_cons, ih (List.cons_ne_nil _ _)]
      rfl

/-- The text of a way does not end with a slash, unless it is the way to the root. -/
theorem endsWith_ofComponents {way : List String} (hway : way ≠ [])
    (h : ∀ name ∈ way, IsFileName name) : Text.endsWith "/" (ofComponents way) = false := by
  rw [← Bool.not_eq_true]
  intro hends
  unfold Text.endsWith at hends
  obtain ⟨before, hbefore⟩ := List.isSuffixOf_iff_suffix.mp hends
  obtain ⟨front, last, rfl⟩ : ∃ front last, way = front ++ [last] :=
    ⟨_, _, (List.dropLast_append_getLast hway).symm⟩
  have hlast := h last List.mem_concat_self
  rw [toList_ofComponents hway, List.flatMap_append] at hbefore
  have hsome : last.toList ≠ [] := fun hnil => hlast.ne_empty (String.toList_eq_nil_iff.mp hnil)
  obtain ⟨most, final, hfinal⟩ : ∃ most final, last.toList = most ++ [final] :=
    ⟨_, _, (List.dropLast_append_getLast hsome).symm⟩
  have hmem : final ∈ last.toList := by
    rw [hfinal]
    exact List.mem_concat_self
  have hslash : '/' = final := by
    have hreverse := congrArg List.reverse hbefore
    simp [hfinal] at hreverse
    exact hreverse.1
  exact hlast.unslashed (hslash ▸ hmem)

/-- A path below another is the path of both ways, one after the other. -/
theorem ofComponents_append {way names : List String} (hway : ∀ name ∈ way, IsFileName name)
    (hnames : names ≠ []) (hrelative : isAbsolute ("/".intercalate names) = false) :
    join (ofComponents way) ("/".intercalate names) = ofComponents (way ++ names) := by
  have hboth : way ++ names ≠ [] := by simp [hnames]
  have hbase : (ofComponents way).isEmpty = false := by
    rw [← Bool.not_eq_true, String.isEmpty_iff]
    exact ofComponents_ne_empty way
  unfold join
  rw [hrelative, hbase, Bool.false_or, if_neg Bool.false_ne_true]
  apply String.toList_injective
  rw [toList_ofComponents hboth, List.flatMap_append, slashed_eq hnames, ← toList_intercalate]
  by_cases hroot : way = []
  · subst hroot
    rw [ofComponents_nil, if_pos (by decide), String.toList_append]
    rfl
  · rw [endsWith_ofComponents hroot hway, if_neg Bool.false_ne_true, String.toList_append,
      String.toList_append, toList_ofComponents hroot, List.append_assoc]
    rfl

end Path

namespace Volume

/-- The path of a way is walked name by name, from the root on. -/
theorem walk_ofComponents {way : List String} (volume : Volume) (follow : Bool)
    (h : ∀ name ∈ way, IsFileName name) :
    volume.walk follow (Path.ofComponents way) = resolve volume.root follow maxLinks [] way := by
  unfold walk
  rw [if_neg (Path.ofComponents_ne_empty way), Path.isAbsolute_ofComponents]
  by_cases hroot : way = []
  · subst hroot
    rw [Path.ofComponents_nil, if_neg (by decide), if_pos rfl,
      show Text.pieces '/' "/" = ["", ""] by decide]
    conv => lhs; rw [resolve, if_pos (Or.inl rfl), resolve, if_pos (Or.inl rfl)]
  · have hended : '\x00' ∉ (Path.ofComponents way).toList := by
      rw [Path.toList_ofComponents hroot, List.mem_flatMap]
      intro hmem
      obtain ⟨name, hname, hchar⟩ := hmem
      rcases List.mem_cons.mp hchar with heq | hchar
      · exact absurd heq (by decide)
      · exact (h name hname).unended hchar
    rw [if_neg hended, if_pos rfl, Path.pieces_ofComponents hroot fun name hname =>
      (h name hname).unslashed, resolve, if_pos (.inl rfl)]

/-- The path of a way leads to what is at its end. So a path that a walk through the tree has put
together can be opened. -/
theorem locate_of_at? {volume : Volume} {way : List String} {found : Node}
    (h : ∀ name ∈ way, IsFileName name) (hfound : volume.root.at? way = some found)
    (hlink : ∀ target, found ≠ .link target) :
    volume.locate (Path.ofComponents way) = .ok (way, found) := by
  unfold locate
  rw [walk_ofComponents volume true h, resolve_of_at? h hfound hlink]
  rfl

end Volume

end LayeredUnits
