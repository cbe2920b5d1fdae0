import BareMetal.Rehearsal.Stage

/-!
# Snapshots of a stage

All that can be seen of the objects on a stage, by the kind and key of each object, and what
differs between two snapshots.
-/

namespace BareMetal

/-- The JSON form of each object by its kind and key. -/
abbrev Snapshot := Dict String Json

namespace Snapshot

/-- The entry of an object. -/
def entry {α : Type} [Resource α] (object : α) : String × Json :=
  ((Resource.kind α).name ++ "/" ++ (Resource.key object).display, Resource.write object)

/-- The snapshot of a store and of workload nodes. -/
def take (store : Store) (nodes : Nodes) : Snapshot :=
  Dict.ofList <|
    store.servers.values.map entry ++
    store.serverClasses.values.map entry ++
    store.serverBindings.values.map entry ++
    store.metalMachines.values.map entry ++
    nodes.keys.map (fun uuid => ("Node/" ++ uuid, Json.ofOption .str (nodes.providerId? uuid))) ++
    [("binding_creates", .int store.bindingCreates)]

/-- What differs in the second of two snapshots: the new form of each object that is new or
changed, and nothing for each object that is gone. -/
def changes (before after : Snapshot) : List (String × Option Json) :=
  let changed := after.entries.filter fun entry => before.get? entry.1 != some entry.2
  let gone := before.keys.filter fun key => !after.contains key
  changed.map (fun entry => (entry.1, some entry.2)) ++ gone.map (fun key => (key, none))

/-- An object without its version. -/
def withoutVersion : Json → Json
  | .obj members => .obj <| members.map fun
      | ("metadata", .obj metadata) =>
          ("metadata", .obj (Json.dropMember "resourceVersion" metadata))
      | member => member
  | other => other

end Snapshot

end BareMetal
