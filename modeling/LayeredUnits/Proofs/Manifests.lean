import Mathlib.Data.List.Nodup
import LayeredUnits.Source.Archive

/-!
# What a manifest says

A manifest is a document with a section `package`, and the section has five
fields. Nothing has to be there: a document without the section says nothing,
and a field that is left out has its standard value. What is there has to be of
the right kind, or the whole manifest is of no use. Other sections and other
fields are not looked at.

* `Value.Has`, `Value.IsSection` — how a section is written: as a table, or as a
  list of the values in the order of the fields. A point in time is a table as
  well, with no field that anybody asks for.
* `Manifest.SaysText`, `Manifest.SaysWhether` — what a field says.
* `Manifest.Says` — what a document says about a package, field by field.
* `Package.ofToml_iff` — that is what the loader takes from it. A manifest that
  says nothing in this sense, not even nothing at all, is malformed.
-/

namespace LayeredUnits

/-! ## Sections -/

namespace Value

/-- A section has a value under a name. `names` are the fields of such a section in order. -/
inductive Has (names : List String) : Value → String → Value → Prop
  /-- A table has what stands under the name. -/
  | named {fields : List (String × Value)} {name : String} {value : Value}
      (h : fields.lookup name = some value) : Has names (.table fields) name value
  /-- A list has what stands in the place of the name. -/
  | placed {items : List Value} {index : Nat} {name : String} {value : Value}
      (hname : names[index]? = some name) (hitem : items[index]? = some value) :
      Has names (.list items) name value

/-- Whether a value can be a section. What is none of these makes the manifest malformed. -/
inductive IsSection : Value → Prop
  | table (fields : List (String × Value)) : IsSection (.table fields)
  | list (items : List Value) : IsSection (.list items)
  | moment : IsSection .moment

/-- The lookup in a list of fields goes by place, since no two fields have one name. -/
theorem lookup_zip_iff {names : List String} (hnodup : names.Nodup) {items : List Value}
    {name : String} {value : Value} :
    (names.zip items).lookup name = some value ↔
      ∃ index : Nat, names[index]? = some name ∧ items[index]? = some value := by
  induction names generalizing items with
  | nil => simp
  | cons first names ih =>
    obtain ⟨hfirst, hrest⟩ := List.nodup_cons.mp hnodup
    cases items with
    | nil => simp
    | cons item items =>
      rw [List.zip_cons_cons, List.lookup_cons]
      by_cases hname : name = first
      · subst hname
        rw [beq_self_eq_true]
        constructor
        · intro h
          exact ⟨0, rfl, h⟩
        · intro h
          obtain ⟨index, hindex, hitem⟩ := h
          cases index with
          | zero => exact hitem
          | succ index =>
            rw [List.getElem?_cons_succ] at hindex
            -- The first name stands nowhere else.
            exact absurd (List.mem_of_getElem? hindex) hfirst
      · rw [beq_false_of_ne hname]
        dsimp only
        rw [ih hrest]
        constructor
        · intro h
          obtain ⟨index, hindex, hitem⟩ := h
          exact ⟨index + 1, hindex, hitem⟩
        · intro h
          obtain ⟨index, hindex, hitem⟩ := h
          cases index with
          | zero => exact absurd (Option.some.inj hindex).symm hname
          | succ index => exact ⟨index, hindex, hitem⟩

/-- A section is read as what it has, field by field, whichever way it is written. -/
theorem record?_of_isSection {names : List String} (hnodup : names.Nodup) {value : Value}
    (h : value.IsSection) :
    ∃ record, value.record? .toml names = some record ∧
      ∀ name field, record name = some field ↔ value.Has names name field := by
  cases h with
  | table fields =>
    refine ⟨_, rfl, fun name field => ⟨.named, ?_⟩⟩
    rintro ⟨hfield⟩
    exact hfield
  | list items =>
    refine ⟨fun name => (names.zip items).lookup name, rfl, fun name field => ?_⟩
    rw [lookup_zip_iff hnodup]
    constructor
    · rintro ⟨index, hname, hitem⟩
      exact .placed hname hitem
    · rintro (_ | ⟨hname, hitem⟩)
      exact ⟨_, hname, hitem⟩
  | moment =>
    refine ⟨_, rfl, fun name field => ⟨(fun h => nomatch h), ?_⟩⟩
    intro h
    cases h

theorem isSection_of_record? {dialect : Dialect} {names : List String} {value : Value}
    {record : String → Option Value} (h : value.record? dialect names = some record) :
    value.IsSection := by
  cases value with
  | table fields => exact .table fields
  | list items => exact .list items
  | moment => exact .moment
  | _ => cases h

end Value

/-! ## Fields -/

/-- The fields of the section about a package, in the order that counts when the section is
a list. -/
def Package.fields : List String := ["title", "version", "vendor", "sealed", "seal_base"]

namespace Manifest

/-- What a section says under a name where a text is expected: a text, or nothing. Anything else is
said by no section that fits. -/
inductive SaysText (part : Value) (name : String) : Option String → Prop
  | said {text : String} (h : part.Has Package.fields name (.text text)) :
      SaysText part name (some text)
  /-- Nothing is said by leaving the field out, and by `null` where there is such a value. -/
  | silent (h : ∀ value, part.Has Package.fields name value → value = .null) :
      SaysText part name none

/-- What a section says under a name where a truth value is expected. -/
inductive SaysWhether (part : Value) (name : String) : Bool → Prop
  | said {answer : Bool} (h : part.Has Package.fields name (.boolean answer)) :
      SaysWhether part name answer
  | silent (h : ∀ value, ¬ part.Has Package.fields name value) : SaysWhether part name false

/-- What a section says about a package, field by field. -/
structure PartSays (part : Value) (package : Package) : Prop where
  isSection : part.IsSection
  title : SaysText part "title" package.title
  version : SaysText part "version" package.version
  vendor : SaysText part "vendor" package.vendor
  isSealed : SaysWhether part "sealed" package.isSealed
  sealBase : SaysText part "seal_base" package.sealBase

/-- What the text of a manifest says about its package. A text that is no document, or whose section
does not fit, says nothing in this sense. -/
inductive Says (text : String) : Package → Prop
  /-- A document without the section says nothing. -/
  | nothing {document : List (String × Value)} (hread : Toml.read? text = some document)
      (h : document.lookup "package" = none) : Says text .empty
  | part {document : List (String × Value)} {part : Value} {package : Package}
      (hread : Toml.read? text = some document) (hpart : document.lookup "package" = some part)
      (h : PartSays part package) : Says text package

section

variable {part : Value} {record : String → Option Value}
  (hrecord : ∀ name field, record name = some field ↔ part.Has Package.fields name field)

include hrecord

theorem saysText_iff (name : String) (answer : Option String) :
    SaysText part name answer ↔
      Value.field? record name Value.optionalText? none = some answer := by
  unfold Value.field?
  constructor
  · -- A field says a text, or it is silent. Either way that is what is read of it.
    rintro (h | h)
    · rw [(hrecord _ _).mpr h]
      rfl
    · cases hfield : record name with
      | none => rfl
      | some value =>
        rw [h value ((hrecord _ _).mp hfield)]
        rfl
  · intro h
    cases hfield : record name with
    | none =>
      rw [hfield] at h
      cases h
      refine .silent fun value hvalue => ?_
      rw [← hrecord, hfield] at hvalue
      cases hvalue
    | some value =>
      rw [hfield] at h
      cases value with
      | null =>
        -- A field that is null says as little as one that is not there.
        cases h
        refine .silent fun value hvalue => ?_
        rw [← hrecord, hfield] at hvalue
        exact (Option.some.inj hvalue).symm
      | text said =>
        cases h
        exact .said ((hrecord _ _).mp hfield)
      | _ => cases h

theorem saysWhether_iff (name : String) (answer : Bool) :
    SaysWhether part name answer ↔
      Value.field? record name Value.boolean? false = some answer := by
  unfold Value.field?
  constructor
  · rintro (h | h)
    · rw [(hrecord _ _).mpr h]
      rfl
    · cases hfield : record name with
      | none => rfl
      | some value => exact absurd ((hrecord _ _).mp hfield) (h value)
  · intro h
    cases hfield : record name with
    | none =>
      rw [hfield] at h
      cases h
      refine .silent fun value hvalue => ?_
      rw [← hrecord, hfield] at hvalue
      cases hvalue
    | some value =>
      rw [hfield] at h
      cases value with
      | boolean said =>
        cases h
        exact .said ((hrecord _ _).mp hfield)
      | _ => cases h

end

end Manifest

/-! ## Manifests -/

namespace Package

open Manifest

theorem fields_nodup : fields.Nodup := by decide

theorem ofValue?_iff {part : Value} {package : Package} :
    Package.ofValue? .toml part = some package ↔ PartSays part package := by
  constructor
  · -- Each of the five fields has been read, so each says what was read of it.
    intro h
    unfold ofValue? at h
    simp only [Option.bind_eq_bind, Option.bind_eq_some_iff, Option.some.injEq] at h
    obtain ⟨record, hpart, title, htitle, version, hversion, vendor, hvendor, isSealed, hsealed,
      sealBase, hbase, rfl⟩ := h
    have hsection := Value.isSection_of_record? hpart
    obtain ⟨_, hsame, hrecord⟩ := Value.record?_of_isSection fields_nodup hsection
    cases hpart.symm.trans hsame
    exact ⟨hsection, (saysText_iff hrecord ..).mpr htitle, (saysText_iff hrecord ..).mpr hversion,
      (saysText_iff hrecord ..).mpr hvendor, (saysWhether_iff hrecord ..).mpr hsealed,
      (saysText_iff hrecord ..).mpr hbase⟩
  · intro h
    obtain ⟨record, hpart, hrecord⟩ := Value.record?_of_isSection fields_nodup h.isSection
    have htitle := (saysText_iff hrecord ..).mp h.title
    have hversion := (saysText_iff hrecord ..).mp h.version
    have hvendor := (saysText_iff hrecord ..).mp h.vendor
    have hsealed := (saysWhether_iff hrecord ..).mp h.isSealed
    have hbase := (saysText_iff hrecord ..).mp h.sealBase
    unfold ofValue?
    simp only [Option.bind_eq_bind, Option.bind_eq_some_iff, Option.some.injEq]
    exact ⟨record, hpart, _, htitle, _, hversion, _, hvendor, _, hsealed, _, hbase, rfl⟩

/-- What the loader takes from a manifest is what it says, and it takes something exactly if the
manifest says something. -/
theorem ofToml_iff {text : String} {package : Package} :
    Package.ofToml text = .ok package ↔ Says text package := by
  unfold Package.ofToml
  cases hread : Toml.read? text with
  | none =>
    -- What is no document says nothing.
    refine ⟨(fun h => nomatch h), ?_⟩
    rintro (⟨hdocument, -⟩ | ⟨hdocument, -, -⟩) <;> cases hread.symm.trans hdocument
  | some document =>
    simp only [Option.bind_eq_bind, Option.bind_some]
    cases hpart : document.lookup "package" with
    | none =>
      constructor
      · intro h
        cases h
        exact .nothing hread hpart
      · rintro (_ | ⟨hdocument, hlookup, -⟩)
        · rfl
        · cases hread.symm.trans hdocument
          cases hpart.symm.trans hlookup
    | some part =>
      dsimp only
      constructor
      · -- The section is there, and what it says is what is read of it, field by field.
        intro h
        cases hvalue : Package.ofValue? .toml part with
        | none =>
          rw [hvalue] at h
          cases h
        | some said =>
          rw [hvalue] at h
          cases h
          exact .part hread hpart (ofValue?_iff.mp hvalue)
      · rintro (⟨hdocument, hlookup⟩ | ⟨hdocument, hlookup, hsays⟩)
        · cases hread.symm.trans hdocument
          cases hpart.symm.trans hlookup
        · cases hread.symm.trans hdocument
          cases hpart.symm.trans hlookup
          rw [ofValue?_iff.mpr hsays]

end Package

end LayeredUnits
