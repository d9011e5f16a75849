import LayeredUnits.Text.Segments

/-!
# Unit names and the files that hold them

A unit is known by a dotted name such as `org.example.Foo`, and its bytes lie
in a file of the same shape with slashes, `org/example/Foo.unit`. `ofPath?`
reads a name off a relative path and `toPath` writes the path of a name; they
undo each other on well-formed names, which is what `WellFormed` says.

A resource is known by a slash-separated path; only leading slashes are
dropped from it.
-/

namespace LayeredUnits

/-- The suffix of unit files unless options say otherwise. The dot belongs to it. -/
def defaultUnitSuffix : String := ".unit"

namespace UnitName

/-- A stem names a unit if it is not empty and none of its slash-separated segments is empty or has
a dot in it. With a dot in a segment the name would be that of another file. -/
def stemNames (stem : List Char) : Bool :=
  !stem.isEmpty && (Text.segments '/' stem).all fun s => !s.isEmpty && !s.contains '.'

/-- The unit name of a relative path, if the path carries the suffix and its stem names a unit.
Files without a name are no units, and a source passes over them. -/
def ofPath? (suffix rel : String) : Option String :=
  match Text.stripSuffix? suffix.toList rel.toList with
  | none => none
  | some stem =>
    if stemNames stem then some (String.ofList (Text.exchanged '/' '.' stem)) else none

/-- The relative path at which a unit of this name lies. It is defined for every text; that it leads
back is so for well-formed names. -/
def toPath (suffix name : String) : String :=
  String.ofList (Text.exchanged '.' '/' name.toList) ++ suffix

/-- A name is well-formed if it is not empty, has no slash, and has no empty segment between its
dots. These are the names that some path stands for. -/
def WellFormed (name : String) : Prop :=
  name.toList ≠ [] ∧ '/' ∉ name.toList ∧ ∀ s ∈ Text.segments '.' name.toList, s ≠ []

instance (name : String) : Decidable (WellFormed name) :=
  inferInstanceAs (Decidable (_ ∧ _ ∧ _))

end UnitName

namespace ResourceName

/-- A resource name without its leading slashes. A name is normalized before anything is looked up
or remembered, so that both spellings of it share one outcome. -/
def normalize (name : String) : String :=
  String.ofList (name.toList.dropWhile (· == '/'))

/-- A name without leading slashes stays as it is. -/
@[simp] theorem normalize_normalize (name : String) :
    normalize (normalize name) = normalize name := by
  unfold normalize
  rw [String.toList_ofList]
  congr 1
  induction name.toList with
  | nil => rfl
  | cons c rest ih =>
    by_cases h : c = '/'
    · simpa [List.dropWhile_cons, h] using ih
    · simp [h]

end ResourceName

end LayeredUnits
