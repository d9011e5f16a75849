import LayeredUnits.Loader.Lookup
import LayeredUnits.Loader.Register
import LayeredUnits.Loader.Resource

/-!
# What operations tell

Two events are told in one place each: that a copy of a unit was passed over,
when the places of a lookup are tried, and that a host has failed, when a loader
asks another one. All that operations tell otherwise is `Plain`, and whoever
counts or excludes one of the two starts from that.
-/

namespace LayeredUnits

/-- Whether an event is neither about a copy that was passed over nor about a host that failed. -/
def Event.isPlain : Event → Bool
  | .copySkipped .. | .hostFailed .. => false
  | _ => true

/-- No copy was passed over, and no host failed. Registrations and what is remembered tell of
nothing else than that. -/
def Plain (events : List Event) : Prop := ∀ event ∈ events, event.isPlain = true

namespace Plain

variable {events more : List Event} {event : Event}

theorem nil : Plain [] := fun _ hmem => absurd hmem List.not_mem_nil

theorem singleton (h : event.isPlain = true) : Plain [event] := by
  intro other hmem
  rw [List.mem_singleton.mp hmem]
  exact h

theorem append (h : Plain events) (hmore : Plain more) : Plain (events ++ more) :=
  fun other hmem => (List.mem_append.mp hmem).elim (h other) (hmore other)

theorem map {α : Type} {tell : α → Event} (items : List α)
    (h : ∀ item, (tell item).isPlain = true) : Plain (items.map tell) := by
  intro other hmem
  obtain ⟨item, -, rfl⟩ := List.mem_map.mp hmem
  exact h item

end Plain

/-! ## Sources that are opened -/

theorem Directory.scan_plain (volume : Volume) (path suffix : String) :
    Plain (Directory.scan volume path suffix).2 := by
  unfold Directory.scan
  split
  · exact .nil
  · exact ((Plain.map _ fun _ => rfl).append (.map _ fun _ => rfl)).append (.singleton rfl)
  · exact .nil

theorem Archive.openImage_plain (volume : Volume) (image : Image) (origin suffix : String) :
    Plain (Archive.openImage volume image origin suffix).2 := by
  unfold Archive.openImage
  split
  · exact .nil
  · exact .singleton rfl

theorem Archive.openPath_plain (volume : Volume) (path suffix : String) :
    Plain (Archive.openPath volume path suffix).2 := by
  unfold Archive.openPath
  split
  · exact Archive.openImage_plain volume _ _ suffix
  · exact .nil

namespace Loader

theorem addDirectory_plain (loader : Loader) (directory : Directory) :
    Plain (loader.addDirectory directory).events :=
  (Plain.map _ fun _ => rfl).append (.singleton rfl)

theorem addArchive_plain (loader : Loader) (archive : Archive) :
    Plain (loader.addArchive archive).events :=
  (Plain.map _ fun _ => rfl).append (.singleton rfl)

theorem register_plain {α : Type} (loader : Loader) {opened : Except Fault α × List Event}
    {add : α → Turn Nat} (hopened : Plain opened.2) (hadd : ∀ source, Plain (add source).events) :
    Plain (loader.register opened add).events := by
  obtain ⟨result, events⟩ := opened
  cases result with
  | error fault => exact hopened
  | ok source => exact hopened.append (hadd source)

/-! ## Units -/

theorem beginLookup_plain (loader : Loader) (name : String) :
    Plain (loader.beginLookup name).events := by
  unfold beginLookup
  split
  · exact .singleton rfl
  · split
    · exact .singleton rfl
    · exact .nil

/-- A manifest that cannot be used is told of, and that is neither of the two. -/
theorem package_plain (loader : Loader) (volume : Volume) (number : Nat) (archive : Archive) :
    Plain (loader.package volume number archive).events := by
  unfold package Archive.package
  split
  · exact .nil
  · dsimp only
    split
    · split
      · exact .nil
      · exact .singleton rfl
    · exact .nil

theorem domainAt_plain (loader : Loader) (volume : Volume) (place : Place) :
    Plain (loader.domainAt volume place).events := by
  cases place with
  | file root path => exact .nil
  | entry number archive name =>
    show Plain (loader.domainOf volume number archive).events
    unfold domainOf
    split
    · exact .nil
    · exact package_plain loader volume number archive

theorem define_plain (loader : Loader) (volume : Volume) (name : String) (bytes : ByteArray)
    (place : Place) : Plain (loader.define volume name bytes place).events := by
  have hdomain := domainAt_plain loader volume place
  unfold define
  generalize loader.domainAt volume place = turn at hdomain ⊢
  obtain ⟨domain, found, events⟩ := turn
  dsimp only
  split
  · exact hdomain
  · exact hdomain.append (.singleton rfl)

theorem recordMiss_plain (loader : Loader) (ticket : Ticket) :
    Plain (loader.recordMiss ticket).events := by
  unfold recordMiss
  dsimp only
  split <;> exact .singleton rfl

/-! ## Resources -/

theorem rememberResource_plain (loader : Loader) (name : String) (found : Option Location) :
    Plain (loader.rememberResource name found).events := by
  unfold rememberResource
  split <;> exact .nil

theorem rememberList_plain (loader : Loader) (name : String) (found : List Location) :
    Plain (loader.rememberList name found).events := by
  unfold rememberList
  split <;> exact .nil

end Loader

end LayeredUnits
