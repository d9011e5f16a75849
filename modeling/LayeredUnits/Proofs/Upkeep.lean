import Mathlib.Data.List.Nodup
import LayeredUnits.Proofs.Walking
import LayeredUnits.Volume.Edit

/-!
# Volumes stay as an operating system has them

A volume is changed at one place of its tree at a time, and the name that is
put there is one that a walk ended with. Such a name is a file name, because a
walk passes over what is none: it is cut out between slashes, and a segment that
is blank or goes up is never the last one. So a volume that is well-formed stays
so, whatever is done to it.

* `Node.WellFormed.put` — one place of a tree is changed.
* `Volume.name_of_walk` — a walk ends at a name.
* `Volume.WellFormed.edited` — one edit keeps the volume well-formed, and so
  does a run of edits. The condition is on links only: an operating system does
  not take a target with a NUL in it.
-/

namespace LayeredUnits

/-- What comes of two steps comes of the second one, after the first has succeeded. -/
theorem ok_of_bind {ε α β : Type} {first : Except ε α} {second : α → Except ε β} {result : β}
    (h : first >>= second = .ok result) : ∃ one, first = .ok one ∧ second one = .ok result := by
  cases first with
  | error kind => cases h
  | ok one => exact ⟨one, rfl, h⟩

namespace Node

variable {children : List (String × Node)} {name : String} {node : Node}

/-! ## Trees -/

/-- A directory without one of its children is still one: names that differ go on to differ. -/
theorem WellFormed.without (h : (Node.directory children).WellFormed) (name : String) :
    (Node.directory (putChild children name none)).WellFormed := by
  obtain _ | _ | ⟨distinct, named, below⟩ := h
  unfold putChild
  exact .directory (distinct.sublist (List.filter_sublist.map _))
    (fun child hchild => named child (List.mem_of_mem_filter hchild))
    (fun child hchild => below child (List.mem_of_mem_filter hchild))

/-- A directory with a child changed or added. The name has to be one, and it stands once. -/
theorem WellFormed.with (h : (Node.directory children).WellFormed) (hname : IsFileName name)
    (hnode : node.WellFormed) : (Node.directory (putChild children name (some node))).WellFormed := by
  obtain _ | _ | ⟨distinct, named, below⟩ := h
  unfold putChild
  dsimp only
  split
  · -- The names are the same as before.
    have hnames : (children.map fun child => if child.1 == name then (name, node) else child).map
        (·.1) = children.map (·.1) := by
      rw [List.map_map]
      refine List.map_congr_left fun child _ => ?_
      by_cases hchild : child.1 = name <;> simp [hchild]
    refine .directory (hnames ▸ distinct) ?_ ?_
    · intro child hchild
      obtain ⟨other, hother, rfl⟩ := List.mem_map.mp hchild
      split
      · exact hname
      · exact named other hother
    · intro child hchild
      obtain ⟨other, hother, rfl⟩ := List.mem_map.mp hchild
      split
      · exact hnode
      · exact below other hother
  · next hnew =>
    have hfresh : name ∉ children.map (·.1) := by
      intro hmem
      obtain ⟨child, hchild, heq⟩ := List.mem_map.mp hmem
      exact hnew (List.any_eq_true.mpr ⟨child, hchild, by simpa using heq⟩)
    refine .directory ?_ ?_ ?_
    · rw [List.map_append, List.map_singleton]
      exact distinct.append (List.nodup_singleton _) (List.disjoint_singleton.mpr hfresh)
    · intro child hchild
      rcases List.mem_append.mp hchild with hold | hadded
      · exact named child hold
      · rw [List.mem_singleton.mp hadded]
        exact hname
    · intro child hchild
      rcases List.mem_append.mp hchild with hold | hadded
      · exact below child hold
      · rw [List.mem_singleton.mp hadded]
        exact hnode

/-- A tree that is changed at one place. Only what is put there has to have a name: the names on the
way are there already, or nothing is changed. -/
theorem WellFormed.put {new : Option Node} {way : List String} (h : node.WellFormed)
    (hnew : ∀ one, new = some one → one.WellFormed ∧ ∀ name ∈ way.getLast?, IsFileName name) :
    (node.put new way).WellFormed := by
  fun_induction Node.put new way node with
  | case1 node =>
    cases new with
    | none => exact h
    | some one => exact (hnew one rfl).1
  | case2 name children =>
    cases new with
    | none => exact h.without name
    | some one => exact h.with ((hnew one rfl).2 name rfl) (hnew one rfl).1
  | case3 name rest children hrest child hchild ih =>
    -- The name on the way is that of a child which is there, so it is a name.
    have hbelow : (Node.directory children).at? [name] = some child := by
      rw [Node.at?, hchild]
      rfl
    obtain ⟨hold, hname⟩ := h.at? hbelow
    refine h.with (hname name List.mem_cons_self) (ih hold fun one hone => ?_)
    obtain ⟨hfits, hlast⟩ := hnew one hone
    refine ⟨hfits, fun last hmem => hlast last ?_⟩
    rw [List.getLast?_cons, hmem]
    rfl
  | case4 => exact h
  | case5 => exact h

end Node

namespace Volume

variable {volume changed : Volume} {path : String} {content : ByteArray}

/-! ## Walks end at names -/

/-- The segments of a path without a NUL have neither that nor a slash in them. -/
theorem clean_of_mem_pieces {text one : String} (h : '\x00' ∉ text.toList)
    (hone : one ∈ Text.pieces '/' text) : '/' ∉ one.toList ∧ '\x00' ∉ one.toList := by
  obtain ⟨piece, hpiece, rfl⟩ := List.mem_map.mp hone
  rw [String.toList_ofList]
  refine ⟨Text.notMem_of_mem_segments hpiece, fun hnul => h ?_⟩
  rw [← Text.joined_segments '/' text.toList]
  exact (Text.mem_joined_iff (by decide)).mpr ⟨piece, hpiece, hnul⟩

/-- Where there is nothing, there can be something with the name that a walk ended with. -/
theorem name_of_resolve {root : Node} {follow : Bool} {links : Nat}
    {here segments directory : List String} {name : String} {slashed : Bool}
    (h : root.WellFormed) (hsegments : ∀ one ∈ segments, '/' ∉ one.toList ∧ '\x00' ∉ one.toList)
    (hwalk : resolve root follow links here segments = .ok (.vacant directory name slashed)) :
    IsFileName name := by
  fun_induction resolve root follow links here segments with
  | case1 | case2 | case6 | case8 | case9 | case10 | case11 => cases hwalk
  | case3 _ _ _ _ _ ih | case4 _ _ _ _ ih | case7 _ _ _ _ _ _ _ _ ih =>
    exact ih (fun one hone => hsegments one (List.mem_cons_of_mem _ hone)) hwalk
  | case5 links here segment rest hblank hdots =>
    cases hwalk
    obtain ⟨hslash, hnul⟩ := hsegments _ List.mem_cons_self
    rw [not_or] at hblank
    exact ⟨hblank.1, hblank.2, hdots, hslash, hnul⟩
  | case12 here segment rest _ _ target hlink _ links ih =>
    obtain _ | htarget | _ := (h.at? hlink).1
    refine ih ?_ (by simpa using hwalk)
    intro one hone
    rcases List.mem_append.mp hone with hone | hone
    · exact clean_of_mem_pieces htarget hone
    · exact hsegments one (List.mem_cons_of_mem _ hone)

theorem name_of_walk {follow slashed : Bool} {directory : List String} {name : String}
    (h : volume.WellFormed)
    (hwalk : volume.walk follow path = .ok (.vacant directory name slashed)) :
    IsFileName name := by
  obtain ⟨hended, hresolve⟩ := resolve_of_walk hwalk
  exact name_of_resolve h (fun one hone => clean_of_mem_pieces hended hone) hresolve

/-! ## Changes -/

/-- Something new under the name that a walk ended with. The walk has made sure that it is
a name. -/
theorem WellFormed.add {follow slashed : Bool} {directory : List String} {name : String}
    {new : Node} (h : volume.WellFormed)
    (hwalk : volume.walk follow path = .ok (.vacant directory name slashed))
    (hnew : new.WellFormed) : (volume.root.put (some new) (directory ++ [name])).WellFormed := by
  refine Node.WellFormed.put h fun one hone => ?_
  obtain rfl := Option.some.inj hone
  refine ⟨hnew, fun last hlast => ?_⟩
  rw [List.getLast?_concat] at hlast
  obtain rfl := Option.some.inj hlast
  exact name_of_walk h hwalk

theorem WellFormed.writeFile (h : volume.WellFormed)
    (hchanged : volume.writeFile path content = .ok changed) : changed.WellFormed := by
  obtain ⟨spot, hwalk, hspot⟩ := ok_of_bind hchanged
  split at hspot
  · cases hspot
    exact h
  · cases hspot
  · split at hspot
    · cases hspot
    · cases hspot
      exact h.add hwalk (.file _)

theorem WellFormed.makeDirectory (h : volume.WellFormed)
    (hchanged : volume.makeDirectory path = .ok changed) : changed.WellFormed := by
  obtain ⟨spot, hwalk, hspot⟩ := ok_of_bind hchanged
  split at hspot
  · cases hspot
  · cases hspot
    exact h.add hwalk (.directory List.nodup_nil (by simp) (by simp))

theorem WellFormed.ensureDirectory (h : volume.WellFormed)
    (hchanged : volume.ensureDirectory path = .ok changed) : changed.WellFormed := by
  unfold Volume.ensureDirectory at hchanged
  split at hchanged
  · next hmade =>
    cases hchanged
    exact h.makeDirectory hmade
  · split at hchanged
    · cases hchanged
      exact h
    · cases hchanged

theorem WellFormed.makeDirectoriesWithin {depth : Nat} (h : volume.WellFormed)
    (hchanged : volume.makeDirectoriesWithin depth path = .ok changed) : changed.WellFormed := by
  induction depth generalizing path changed with
  | zero =>
    cases hchanged
    exact h
  | succ depth ih =>
    rw [Volume.makeDirectoriesWithin] at hchanged
    split at hchanged
    · cases hchanged
      exact h
    · split at hchanged
      · next hmade =>
        cases hchanged
        exact h.makeDirectory hmade
      · split at hchanged
        · cases hchanged
        · -- The directory above has been made first.
          obtain ⟨before, hbefore, hlast⟩ := ok_of_bind hchanged
          exact (ih hbefore).ensureDirectory hlast
      · split at hchanged
        · cases hchanged
          exact h
        · cases hchanged

theorem WellFormed.makeLink {target : String} (h : volume.WellFormed)
    (htarget : '\x00' ∉ target.toList) (hchanged : volume.makeLink path target = .ok changed) :
    changed.WellFormed := by
  obtain ⟨spot, hwalk, hspot⟩ := ok_of_bind hchanged
  split at hspot
  · cases hspot
  · cases hspot
    exact h.add hwalk (.link htarget)

theorem WellFormed.remove (h : volume.WellFormed) (hchanged : volume.remove path = .ok changed) :
    changed.WellFormed := by
  obtain ⟨spot, -, hspot⟩ := ok_of_bind hchanged
  split at hspot
  · cases hspot
    exact Node.WellFormed.put h fun one hone => nomatch hone
  · cases hspot

theorem WellFormed.withParent (h : volume.WellFormed)
    (hchanged : Edit.withParent volume path = .ok changed) : changed.WellFormed := by
  unfold Edit.withParent at hchanged
  split at hchanged
  · cases hchanged
    exact h
  · exact h.makeDirectoriesWithin hchanged

end Volume

/-! ## Edits -/

/-- An edit that an operating system carries out: the target of a link has no NUL in it. -/
def Edit.IsClean : Edit → Prop
  | .link _ target => '\x00' ∉ target.toList
  | _ => True

/-- An edit keeps a volume well-formed, whether it is possible or not. -/
theorem Volume.WellFormed.edited {volume : Volume} {edit : Edit} (h : volume.WellFormed)
    (hedit : edit.IsClean) : (edit.apply volume).WellFormed := by
  unfold Edit.apply
  split
  · next changed hchanged =>
    cases edit with
    | file path content =>
      obtain ⟨before, hbefore, hlast⟩ := ok_of_bind hchanged
      exact (h.withParent hbefore).writeFile hlast
    | link path target =>
      obtain ⟨before, hbefore, hlast⟩ := ok_of_bind hchanged
      exact (h.withParent hbefore).makeLink hedit hlast
    | directory path => exact h.makeDirectoriesWithin hchanged
    | removal path => exact h.remove hchanged
  · exact h

/-- A volume that was empty at first is well-formed after whatever edits. -/
theorem Volume.wellFormed_of_edits {edits : List Edit} (hedits : ∀ edit ∈ edits, edit.IsClean) :
    (edits.foldl Edit.apply {}).WellFormed := by
  suffices h : ∀ volume : Volume, volume.WellFormed →
      (edits.foldl Edit.apply volume).WellFormed from
    h {} (.directory List.nodup_nil (by simp) (by simp))
  induction edits with
  | nil => exact fun volume h => h
  | cons edit rest ih =>
    intro volume h
    exact ih (fun one hone => hedits one (List.mem_cons_of_mem _ hone)) _
      (h.edited (hedits edit List.mem_cons_self))

end LayeredUnits
