import BareMetal.Dict

/-!
# Links

Each key is linked to at most one target.  Links are kept both ways, so that the target of a key and
the keys of a target are each found by one look-up.  Both ways always tell the same, and a target to
which no key is linked is left out.
-/

namespace BareMetal

/-! ## Groups of keys -/

/-- A group of keys for each target that has any. -/
structure Groups (κ τ : Type) [Ord κ] [Ord τ] where
  /-- The group of each target. -/
  members : Dict τ (Dict κ Unit)
  /-- No group is empty. -/
  occupied : ∀ target group, members.get? target = some group → group.isEmpty = false
  deriving DecidableEq

namespace Groups

variable {κ τ : Type} [Ord κ] [Ord τ]

/-- No groups. -/
def empty : Groups κ τ := ⟨Dict.empty, nofun⟩

/-- The group of a target; of a target that was left out it is empty. -/
def group (groups : Groups κ τ) (target : τ) : Dict κ Unit :=
  (groups.members.get? target).getD Dict.empty

variable [Std.LawfulEqOrd τ] [Std.TransOrd τ]

/-- The groups with another group for a target.  An empty group is left out. -/
def replace (groups : Groups κ τ) (target : τ) (group : Dict κ Unit) : Groups κ τ :=
  if vacant : group.isEmpty then
    { members := groups.members.erase target
      occupied := fun other _ found =>
        groups.occupied other _ (Dict.get?_erase_eq_some.1 found).2 }
  else
    { members := groups.members.insert target group
      occupied := by
        intro other present found
        rcases Dict.get?_insert_eq_some.1 found with ⟨-, rfl⟩ | ⟨-, found⟩
        · exact Bool.eq_false_iff.2 vacant
        · exact groups.occupied other present found }

theorem group_replace_self (groups : Groups κ τ) (target : τ) (group : Dict κ Unit) :
    (groups.replace target group).group target = group := by
  unfold replace Groups.group
  split
  · rename_i vacant
    cases group with
    | mk entries ascending =>
        cases entries with
        | nil => simp [Dict.empty]
        | cons entry rest => simp [Dict.isEmpty] at vacant
  · simp

theorem group_replace_of_ne {target other : τ} (differs : other ≠ target) (groups : Groups κ τ)
    (group : Dict κ Unit) : (groups.replace target group).group other = groups.group other := by
  unfold replace Groups.group
  split
  · rw [Dict.get?_erase_of_ne differs]
  · rw [Dict.get?_insert_of_ne differs]

variable [Std.LawfulEqOrd κ]

/-- Takes a key out of the group of a target. -/
def drop (groups : Groups κ τ) (target : τ) (key : κ) : Groups κ τ :=
  groups.replace target ((groups.group target).erase key)

theorem get?_group_drop {groups : Groups κ τ} {target other : τ} {key member : κ} :
    ((groups.drop target key).group other).get? member = some () ↔
      ¬(other = target ∧ member = key) ∧ (groups.group other).get? member = some () := by
  by_cases same : other = target
  · subst same
    rw [drop, group_replace_self, Dict.get?_erase_eq_some]
    simp
  · rw [drop, group_replace_of_ne same]
    simp [same]

variable [Std.TransOrd κ]

/-- Puts a key into the group of a target. -/
def add (groups : Groups κ τ) (target : τ) (key : κ) : Groups κ τ :=
  groups.replace target ((groups.group target).insert key ())

theorem get?_group_add {groups : Groups κ τ} {target other : τ} {key member : κ} :
    ((groups.add target key).group other).get? member = some () ↔
      other = target ∧ member = key ∨ (groups.group other).get? member = some () := by
  by_cases same : other = target
  · subst same
    rw [add, group_replace_self]
    by_cases same_key : member = key
    · simp [same_key]
    · simp [same_key, Dict.get?_insert_of_ne same_key]
  · rw [add, group_replace_of_ne same]
    simp [same]

end Groups

/-! ## Links both ways -/

/-- Links from keys to targets. -/
structure Links (κ τ : Type) [Ord κ] [Ord τ] where
  /-- The target of each key. -/
  forth : Dict κ τ
  /-- The keys of each target. -/
  back : Groups κ τ
  /-- Both ways tell the same. -/
  inverse : ∀ key target, forth.get? key = some target ↔ (back.group target).get? key = some ()
  deriving DecidableEq

namespace Links

variable {κ τ : Type} [Ord κ] [Ord τ]

/-- No links. -/
def empty : Links κ τ := ⟨Dict.empty, Groups.empty, fun _ _ => iff_of_false nofun nofun⟩

instance : Inhabited (Links κ τ) := ⟨empty⟩

/-- The keys that are linked to a target, ascending. -/
def keysOf (links : Links κ τ) (target : τ) : List κ := (links.back.group target).keys

variable [Std.LawfulEqOrd κ]

theorem mem_keysOf {links : Links κ τ} {key : κ} {target : τ} :
    key ∈ links.keysOf target ↔ links.forth.get? key = some target := by
  rw [links.inverse]
  exact Dict.mem_keys.trans ⟨fun ⟨_, found⟩ => found, fun found => ⟨(), found⟩⟩

variable [Std.LawfulEqOrd τ] [Std.TransOrd τ]

/-- Takes the link of a key away, if there is one. -/
def unlink (links : Links κ τ) (key : κ) : Links κ τ where
  forth := links.forth.erase key
  back := (links.forth.get? key).elim links.back fun target => links.back.drop target key
  inverse other goal := by
    rw [Dict.get?_erase_eq_some, links.inverse]
    have linked := links.inverse key goal
    cases found : links.forth.get? key with
    | none =>
        -- Nothing has to be taken back, because no group has the key.
        dsimp only [Option.elim]
        grind
    | some target =>
        dsimp only [Option.elim]
        rw [Groups.get?_group_drop]
        grind

@[simp] theorem forth_unlink (links : Links κ τ) (key : κ) :
    (links.unlink key).forth = links.forth.erase key :=
  rfl

variable [Std.TransOrd κ]

/-- Links a key to a target, and to no other. -/
def link (links : Links κ τ) (key : κ) (target : τ) : Links κ τ where
  forth := (links.unlink key).forth.insert key target
  back := (links.unlink key).back.add target key
  inverse other goal := by
    have unlinked : (links.unlink key).forth.get? key = none := Dict.get?_erase_self _ key
    rw [Dict.get?_insert_eq_some, Groups.get?_group_add, ← (links.unlink key).inverse]
    grind

@[simp] theorem forth_link (links : Links κ τ) (key : κ) (target : τ) :
    (links.link key target).forth = links.forth.insert key target :=
  Dict.ext_get? fun other => Option.ext fun found => by
    simp only [link, forth_unlink, Dict.get?_insert_eq_some, Dict.get?_erase_eq_some]
    grind

end Links

end BareMetal
