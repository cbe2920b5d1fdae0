import BareMetal.Proofs.Json.Dictionaries
import BareMetal.Proofs.Watch.Telling
import Mathlib.Data.List.Induction

/-!
# A table that follows a watcher

A table notes of each object of a collection what the object is about.  It takes over a listing when
the listing is complete, and from then on every single change.  So while every change is told, its
entries mirror the collection; from the beginning of a listing to its end they stay as they were,
however often a listing is cut off and begun anew.
-/

namespace BareMetal

/-! ## Tables -/

/-- Under which key an object is noted, and what is noted of it, if there is something to note. -/
structure Table (α κ τ : Type) where
  key : α → κ
  entry? : α → Option τ

/-- A table that follows a watcher, with the objects of the listing that is going on. -/
structure Notes (α κ τ : Type) [Ord κ] where
  staged : List α
  entries : Dict κ τ

/-- Keys in ascending order. -/
def ascending {κ : Type} [Ord κ] (keys : List κ) : List κ :=
  keys.mergeSort fun first second => (compare first second).isLE

/-- Keys that ascend strictly are any keys with the same members, in ascending order. -/
theorem eq_ascending {κ : Type} [Ord κ] [Std.LawfulEqOrd κ] [Std.TransOrd κ] {keys others : List κ}
    (ascends : keys.Pairwise fun first second => compare first second = .lt)
    (distinct : others.Nodup) (same : ∀ key, key ∈ keys ↔ key ∈ others) :
    keys = ascending others := by
  have keys_distinct : keys.Nodup := ascends.imp fun before equal => by simp [equal] at before
  have perm : keys.Perm (ascending others) :=
    ((List.perm_ext_iff_of_nodup keys_distinct distinct).2 same).trans
      (List.mergeSort_perm others _).symm
  have keys_ordered : keys.Pairwise fun first second => (compare first second).isLE = true :=
    ascends.imp fun before => by simp [before]
  have others_ordered : (ascending others).Pairwise fun first second =>
      (compare first second).isLE = true := by
    apply List.pairwise_mergeSort
    · intro first second third
      exact Std.TransCmp.isLE_trans
    · intro first second
      rw [Std.OrientedOrd.eq_swap]
      cases compare second first <;> rfl
  apply perm.eq_of_pairwise _ keys_ordered others_ordered
  intro first second _ _ before after
  exact Std.LawfulEqCmp.eq_of_compare (Std.OrientedCmp.isLE_antisymm before after)

/-- The keys of a dictionary ascend strictly. -/
theorem Dict.ascending_keys {κ υ : Type} [Ord κ] (dict : Dict κ υ) :
    dict.keys.Pairwise fun first second => compare first second = .lt :=
  List.pairwise_map.2 dict.ascending

theorem Dict.nodup_keys {κ υ : Type} [Ord κ] [Std.LawfulEqOrd κ] (dict : Dict κ υ) :
    dict.keys.Nodup :=
  dict.ascending_keys.imp fun before equal => by simp [equal] at before

/-- What links tell of a target is what a search of the targets of all keys tells. -/
theorem Links.keysOf_eq_filter {κ τ : Type} [Ord κ] [Std.LawfulEqOrd κ] [Std.TransOrd κ] [Ord τ]
    [DecidableEq τ] (links : Links κ τ) (target : τ) :
    links.keysOf target = (links.forth.filter fun entry => entry.2 == target).keys := by
  have searched := Dict.nodup_keys (links.forth.filter fun entry => entry.2 == target)
  trans ascending (links.forth.filter fun entry => entry.2 == target).keys
  · refine eq_ascending (Dict.ascending_keys _) searched fun key => ?_
    refine Links.mem_keysOf.trans ?_
    simp [Dict.get?_eq_some_iff, Dict.keys, Dict.filter]
  · exact (eq_ascending (Dict.ascending_keys _) searched fun _ => Iff.rfl).symm

namespace Table

variable {α κ τ : Type} [Ord κ] {table : Table α κ τ} {entries : Dict κ τ} {objects : List α}

/-! ### Entries and the objects that they stand for -/

/-- What is noted of objects is in the entries, and nothing else is. -/
def Mirrors (table : Table α κ τ) (entries : Dict κ τ) (objects : List α) : Prop :=
  ∀ key target, entries.get? key = some target ↔
    ∃ object ∈ objects, table.key object = key ∧ table.entry? object = some target

theorem mirrors_nil (table : Table α κ τ) : table.Mirrors Dict.empty [] := by
  intro key target
  simp [Dict.get?, Dict.empty, Dict.lookup]

/-- It does not matter in which order the objects are. -/
theorem Mirrors.congr {others : List α} (mirrors : table.Mirrors entries objects)
    (same : ∀ object, object ∈ others ↔ object ∈ objects) : table.Mirrors entries others := by
  intro key target
  simp [mirrors key target, same]

section

variable [Std.LawfulEqOrd κ]

theorem Mirrors.erase {others : List α} {gone : κ} (mirrors : table.Mirrors entries objects)
    (members : ∀ other, other ∈ others ↔ other ∈ objects ∧ table.key other ≠ gone) :
    table.Mirrors (entries.erase gone) others := by
  intro key target
  rw [Dict.get?_erase_eq_some, mirrors key target]
  constructor
  · rintro ⟨stays, other, member, rfl, noted⟩
    exact ⟨other, (members other).2 ⟨member, stays⟩, rfl, noted⟩
  · rintro ⟨other, member, rfl, noted⟩
    obtain ⟨old, stays⟩ := (members other).1 member
    exact ⟨stays, other, old, rfl, noted⟩

variable [Std.TransOrd κ]

/-- The keys of the objects of which a target is noted, found by going through all objects. -/
def scan [DecidableEq τ] (table : Table α κ τ) (objects : List α) (target : τ) : List κ :=
  ascending ((objects.filter fun object => table.entry? object = some target).map table.key)

/-- Entries that mirror objects answer as a scan of the objects. -/
theorem Mirrors.keys_eq_scan [DecidableEq τ] (mirrors : table.Mirrors entries objects)
    (distinct : (objects.map table.key).Nodup) (target : τ) :
    (entries.filter fun entry => entry.2 == target).keys = table.scan objects target := by
  have ascends := (entries.filter fun entry => entry.2 == target).ascending
  apply eq_ascending (List.pairwise_map.2 ascends)
    (distinct.sublist (List.filter_sublist.map table.key))
  intro key
  have noted := mirrors key target
  rw [Dict.get?_eq_some_iff] at noted
  have kept : key ∈ (entries.filter fun entry => entry.2 == target).keys ↔
      (key, target) ∈ entries.entries := by
    simp [Dict.keys, Dict.filter]
  refine kept.trans (noted.trans ?_)
  simp [and_left_comm, and_comm]

/-! ### Following a watcher -/

/-- The entries after an object was seen. -/
def note (table : Table α κ τ) (entries : Dict κ τ) (object : α) : Dict κ τ :=
  match table.entry? object with
  | none => entries.erase (table.key object)
  | some target => entries.insert (table.key object) target

/-- The notes after an event. -/
def follow (table : Table α κ τ) (notes : Notes α κ τ) : WatchEvent α → Notes α κ τ
  | .listBegins => { notes with staged := [] }
  | .listed object => { notes with staged := notes.staged ++ [object] }
  | .listEnds => ⟨[], notes.staged.foldl table.note Dict.empty⟩
  | .changed object => { notes with entries := table.note notes.entries object }
  | .deleted object => { notes with entries := notes.entries.erase (table.key object) }
  | .failed => notes

variable [DecidableEq κ]

theorem get?_note (table : Table α κ τ) (entries : Dict κ τ) (object : α) (key : κ) :
    (table.note entries object).get? key =
      if key = table.key object then table.entry? object else entries.get? key := by
  unfold note
  cases table.entry? object with
  | some target => exact Dict.get?_insert entries (table.key object) key target
  | none =>
      by_cases same : key = table.key object
      · simp [same]
      · simp [same, Dict.get?_erase_of_ne same]

/-- An object that is noted takes the place of that with the same key. -/
theorem Mirrors.note {others : List α} {object : α} (mirrors : table.Mirrors entries objects)
    (members : ∀ other, other ∈ others ↔
      other ∈ objects ∧ table.key other ≠ table.key object ∨ other = object) :
    table.Mirrors (table.note entries object) others := by
  intro key target
  rw [get?_note]
  by_cases same : key = table.key object
  · subst same
    constructor
    · intro noted
      exact ⟨object, (members object).2 (.inr rfl), rfl, by simpa using noted⟩
    · rintro ⟨other, member, same_key, noted⟩
      obtain rfl : other = object :=
        ((members other).1 member).resolve_left fun old => old.2 same_key
      simpa using noted
  · rw [if_neg same, mirrors key target]
    constructor
    · rintro ⟨other, member, rfl, noted⟩
      exact ⟨other, (members other).2 (.inl ⟨member, same⟩), rfl, noted⟩
    · rintro ⟨other, member, rfl, noted⟩
      rcases (members other).1 member with ⟨old, -⟩ | rfl
      · exact ⟨other, old, rfl, noted⟩
      · exact absurd rfl same

/-- Objects with different keys, noted one after the other, are all noted. -/
theorem mirrors_foldl_note (table : Table α κ τ) {objects : List α}
    (distinct : (objects.map table.key).Nodup) :
    table.Mirrors (objects.foldl table.note Dict.empty) objects := by
  -- From the end of the list, because the last object is noted last.
  induction objects using List.reverseRecOn with
  | nil => exact table.mirrors_nil
  | append_singleton earlier object ih =>
      rw [List.map_append, List.nodup_append] at distinct
      obtain ⟨earlier_distinct, -, apart⟩ := distinct
      rw [List.foldl_append]
      apply (ih earlier_distinct).note
      intro other
      have other_key : other ∈ earlier → table.key other ≠ table.key object := fun member =>
        apart _ (List.mem_map_of_mem member) _ (by simp)
      grind

end

end Table

/-! ## Watchers -/

section

variable {α κ τ : Type} [Resource α] [Ord κ] [Std.LawfulEqOrd κ] [Std.TransOrd κ] [DecidableEq κ]
  {table : Table α κ τ} {start now later : Scene table.key} {notes : Notes α κ τ}
  {events : List (WatchEvent α)}

/-- The notes are right as far as the watcher got: all objects are noted while every change is told,
and what a listing told of is staged. -/
structure Scene.NotedIn (now : Scene table.key) (notes : Notes α κ τ) : Prop where
  live : now.phase = .live → table.Mirrors notes.entries now.roster.objects
  listing : ∀ told, now.phase = .listing told →
    notes.staged = told ∧ told.Nodup ∧ ∀ object ∈ told, object ∈ now.roster.objects

theorem Scene.NotedIn.step {event? : Option (WatchEvent α)} (noted : now.NotedIn notes)
    (step : now.Step event? later) :
    later.NotedIn (event?.toList.foldl table.follow notes) := by
  cases step with
  | begins => exact ⟨nofun, fun told phase => by cases phase; simp [Table.follow]⟩
  | @lists roster told object member untold =>
      obtain ⟨staged, distinct, within⟩ := noted.listing told rfl
      refine ⟨nofun, fun told' phase => ?_⟩
      cases phase
      refine ⟨by simp [Table.follow, staged], ?_, ?_⟩
      · rw [List.nodup_append]
        refine ⟨distinct, by simp, ?_⟩
        intro first old second new same
        obtain rfl := List.mem_singleton.1 new
        exact untold (same ▸ old)
      · simp only [List.mem_append, List.mem_singleton]
        rintro other (old | rfl)
        · exact within other old
        · exact member
  | @ends roster told complete =>
      obtain ⟨staged, distinct, within⟩ := noted.listing told rfl
      refine ⟨fun _ => ?_, nofun⟩
      have same : ∀ object, object ∈ roster.objects ↔ object ∈ told := fun object =>
        ⟨complete object, within object⟩
      have roster_distinct : roster.objects.Nodup :=
        (List.pairwise_map.1 roster.distinct).imp fun apart same => apart (congrArg _ same)
      have perm : roster.objects.Perm told :=
        (List.perm_ext_iff_of_nodup roster_distinct distinct).2 same
      have told_distinct : (told.map table.key).Nodup :=
        (perm.map table.key).nodup_iff.1 roster.distinct
      have mirrors := table.mirrors_foldl_note told_distinct
      rw [← staged] at mirrors
      exact mirrors.congr fun object => by rw [staged, same]
  | breaks | drifts => exact ⟨nofun, nofun⟩
  | changes named => exact ⟨fun _ => (noted.live rfl).note fun _ => Roster.mem_put named, nofun⟩
  | deletes named => exact ⟨fun _ => (noted.live rfl).erase fun _ => Roster.mem_drop, nofun⟩
  | fails => exact ⟨noted.live, noted.listing⟩

/-- Whatever a watcher tells, the notes stay right. -/
theorem Scene.NotedIn.told (noted : start.NotedIn notes) (told : start.Told events now) :
    now.NotedIn (events.foldl table.follow notes) := by
  induction told with
  | nothing => exact noted
  | next _ step ih =>
      rw [List.foldl_append]
      exact ih.step step

/-- Since a listing began the entries stay the same, unless one was completed. -/
theorem Scene.Told.entries_eq (told : start.Told events now) (notes : Notes α κ τ)
    {front back : List (WatchEvent α)} (listing : events = front ++ .listBegins :: back)
    (incomplete : .listEnds ∉ back) :
    now.phase ≠ .live ∧
      (events.foldl table.follow notes).entries = (front.foldl table.follow notes).entries := by
  induction told generalizing front back with
  | nothing => simp at listing
  | @next events event? now later told step ih =>
      cases event? with
      | none =>
          rw [Option.toList_none, List.append_nil] at listing ⊢
          have kept := ih listing incomplete
          refine ⟨?_, kept.2⟩
          cases step <;> simp
      | some event =>
          rw [List.foldl_append]
          rcases List.eq_nil_or_concat back with rfl | ⟨earlier, last, rfl⟩
          · -- The last event is the beginning of the listing.
            obtain ⟨rfl, same⟩ := List.append_inj' listing rfl
            obtain rfl : event = .listBegins := by simpa using same
            cases step
            exact ⟨nofun, rfl⟩
          · rw [List.concat_eq_append, ← List.cons_append, ← List.append_assoc] at listing
            obtain ⟨before, same⟩ := List.append_inj' listing rfl
            obtain rfl : event = last := by simpa using same
            simp only [List.concat_eq_append, List.mem_append, List.mem_singleton,
              not_or] at incomplete
            obtain ⟨dead, kept⟩ := ih before incomplete.1
            rw [← kept]
            cases step with
            | begins | lists => exact ⟨nofun, rfl⟩
            | ends => exact absurd rfl incomplete.2
            | changes | deletes => exact absurd rfl dead
            | fails => exact ⟨dead, rfl⟩

end

end BareMetal
