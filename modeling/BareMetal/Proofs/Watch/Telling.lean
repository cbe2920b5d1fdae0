import BareMetal.Watch.Event

/-!
# What a watcher may tell

A collection evolves while a watcher tells of it.  A listing goes through the objects in any order,
and the collection stays the same meanwhile; it may be cut off after any object.  From a listing
that was cut off until the next one begins the collection changes without a word.  After a complete
listing every change is told.  Failures may be told at any time.
-/

namespace BareMetal

variable {α κ : Type} [Resource α] [DecidableEq κ] {key : α → κ}

/-- The objects of a collection: all have names, and no two have the same key. -/
structure Roster (key : α → κ) where
  objects : List α
  named : ∀ object ∈ objects, (Resource.metadata object).name.isSome = true
  distinct : (objects.map key).Nodup

namespace Roster

/-- The collection without the object of a key. -/
def drop (roster : Roster key) (gone : κ) : Roster key where
  objects := roster.objects.filter fun object => key object ≠ gone
  named object member := roster.named object (List.mem_filter.1 member).1
  distinct := roster.distinct.sublist (List.filter_sublist.map key)

theorem mem_drop {roster : Roster key} {gone : κ} {object : α} :
    object ∈ (roster.drop gone).objects ↔ object ∈ roster.objects ∧ key object ≠ gone := by
  simp [drop]

/-- The collection with an object in the place of that with the same key, if there is one. -/
def put (roster : Roster key) (object : α)
    (named : (Resource.metadata object).name.isSome = true) : Roster key where
  objects := (roster.drop (key object)).objects ++ [object]
  named other member := by
    rcases List.mem_append.1 member with old | new
    · exact (roster.drop (key object)).named other old
    · rwa [List.mem_singleton.1 new]
  distinct := by
    rw [List.map_append, List.nodup_append]
    refine ⟨(roster.drop (key object)).distinct, by simp, ?_⟩
    intro first old second new same
    obtain ⟨other, member, rfl⟩ := List.mem_map.1 old
    obtain rfl := List.mem_singleton.1 new
    exact (mem_drop.1 member).2 same

theorem mem_put {roster : Roster key} {object other : α}
    (named : (Resource.metadata object).name.isSome = true) :
    other ∈ (roster.put object named).objects ↔
      other ∈ roster.objects ∧ key other ≠ key object ∨ other = object := by
  simp [put, mem_drop]

end Roster

/-- How far a watcher got. -/
inductive WatchPhase (α : Type) where
  /-- No listing is going on, and none was completed since the last one began. -/
  | adrift
  /-- A listing is going on and told of these objects. -/
  | listing (told : List α)
  /-- A listing was completed, and every change is told. -/
  | live

/-- A collection and its watcher. -/
structure Scene (key : α → κ) where
  roster : Roster key
  phase : WatchPhase α

namespace Scene

/-- What can happen next, and the event that the watcher tells, if it tells one. -/
inductive Step : Scene key → Option (WatchEvent α) → Scene key → Prop where
  | begins {roster : Roster key} {phase : WatchPhase α} :
      Step ⟨roster, phase⟩ (some .listBegins) ⟨roster, .listing []⟩
  | lists {roster : Roster key} {told : List α} {object : α} (member : object ∈ roster.objects)
      (untold : object ∉ told) :
      Step ⟨roster, .listing told⟩ (some (.listed object)) ⟨roster, .listing (told ++ [object])⟩
  | ends {roster : Roster key} {told : List α}
      (complete : ∀ object ∈ roster.objects, object ∈ told) :
      Step ⟨roster, .listing told⟩ (some .listEnds) ⟨roster, .live⟩
  | breaks {roster : Roster key} {told : List α} :
      Step ⟨roster, .listing told⟩ none ⟨roster, .adrift⟩
  | drifts {roster later : Roster key} : Step ⟨roster, .adrift⟩ none ⟨later, .adrift⟩
  /-- An object is created or changed. -/
  | changes {roster : Roster key} {object : α}
      (named : (Resource.metadata object).name.isSome = true) :
      Step ⟨roster, .live⟩ (some (.changed object)) ⟨roster.put object named, .live⟩
  /-- An object is deleted; the event carries the last that was seen of it. -/
  | deletes {roster : Roster key} {object : α}
      (named : (Resource.metadata object).name.isSome = true) :
      Step ⟨roster, .live⟩ (some (.deleted object)) ⟨roster.drop (key object), .live⟩
  | fails {scene : Scene key} : Step scene (some .failed) scene

/-- The events that a watcher tells while a collection comes from one state to another. -/
inductive Told (start : Scene key) : List (WatchEvent α) → Scene key → Prop where
  | nothing : Told start [] start
  | next {events : List (WatchEvent α)} {event? : Option (WatchEvent α)} {now later : Scene key}
      (told : Told start events now) (step : now.Step event? later) :
      Told start (events ++ event?.toList) later

/-- Only objects with a name are told to be deleted. -/
theorem Told.named_of_deleted {start now : Scene key} {events : List (WatchEvent α)}
    (told : start.Told events now) {object : α} (member : .deleted object ∈ events) :
    (Resource.metadata object).name.isSome = true := by
  induction told with
  | nothing => simp at member
  | next _ step ih =>
      rcases List.mem_append.1 member with earlier | latest
      · exact ih earlier
      · cases step with
        | deletes named =>
            obtain rfl : object = _ := by simpa using latest
            exact named
        | _ => simp at latest

end Scene

end BareMetal
