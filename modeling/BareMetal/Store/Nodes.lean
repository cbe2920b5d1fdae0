import BareMetal.Dict
import BareMetal.Store.Error

/-!
# Workload nodes in memory

The nodes of the workload clusters by the identity of the server that each runs on, with the
provider ID of each node once it has one.
-/

namespace BareMetal

/-- For each server's identity the provider IDs of the nodes that run on it. -/
abbrev Nodes := Dict String (List (Option String))

namespace Nodes

/-- Adds a node without a provider ID. -/
def add (nodes : Nodes) (uuid : String) : Nodes :=
  nodes.insert uuid ((nodes.get? uuid).getD [] ++ [none])

/-- The provider ID of the first node of a server. -/
def providerId? (nodes : Nodes) (uuid : String) : Option String :=
  ((nodes.get? uuid).bind List.head?).join

/-- Sets the provider ID of a server's node, which has to be the only one. -/
def stamp (nodes : Nodes) (uuid providerId : String) : Except StoreError Unit × Nodes :=
  match (nodes.get? uuid).getD [] with
  | [] => (.error (.invalidRequest ("no matching nodes found for " ++ uuid)), nodes)
  | [_] => (.ok (), nodes.insert uuid [some providerId])
  | _ => (.error (.invalidRequest ("multiple nodes found for " ++ uuid)), nodes)

end Nodes

end BareMetal
