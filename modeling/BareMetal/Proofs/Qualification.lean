import BareMetal.Proofs.Names
import BareMetal.Proofs.Pass.Allocation
import BareMetal.Proofs.Store.WellKept
import Mathlib.Data.List.Sort

/-!
# Servers that a class offers

With a well-formed selector every server either belongs to a class or does not, and the qualified
servers of a list come in the order of their names.
-/

namespace BareMetal

/-- A selector is absent or well formed. -/
def ServerClassSpec.IsWellFormed (spec : ServerClassSpec) : Prop :=
  ∀ selector, spec.selector = some selector → selector.fault? = none

/-- All servers have the names that they lie under. -/
def Store.ServersByName (store : Store) : Prop :=
  ∀ name server, store.servers.get? name = some server → server.metadata.name = some name

theorem Store.serversByName_of_all {store : Store}
    (same : store.servers.entries.all
      (fun entry => entry.2.metadata.name == some entry.1) = true) : store.ServersByName :=
  fun _ _ found => beq_iff_eq.1 (List.all_eq_true.1 same _ (Dict.get?_eq_some_iff.1 found))

theorem Store.ServersByName.anyName_eq {store : Store} (named : store.ServersByName)
    {name : String} {server : Server} (found : store.servers.get? name = some server) :
    server.anyName = name := by
  simp [Server.anyName, Metadata.anyName, named name server found]

/-- Whether a server belongs to a class; with a malformed selector none does. -/
def Server.belongs (serverClass : ServerClassSpec) (server : Server) : Bool :=
  match server.qualifies serverClass with
  | .ok belongs => belongs
  | .error _ => false

/-- The names of a class's available servers that are stored, belong to the class, are free and
are clean; ascending, each once. -/
def Store.eligible (store : Store) (serverClass : ServerClass) : List String :=
  sortedNames <| serverClass.availableServers.filter fun name =>
    (store.servers.get? name).any fun server =>
      server.belongs serverClass.spec && server.isClaimable

section

variable {serverClass : ServerClassSpec}

theorem Server.qualifies_eq (wellFormed : serverClass.IsWellFormed) (server : Server) :
    server.qualifies serverClass = .ok (server.belongs serverClass) := by
  unfold belongs
  cases outcome : server.qualifies serverClass with
  | ok _ => rfl
  | error fault =>
      unfold qualifies at outcome
      split at outcome
      · exact nomatch outcome
      · split at outcome
        · exact nomatch outcome
        · rename_i selector selected
          have matched : selector.matches? server.labels =
              .ok (selector.accepts server.labels) := by
            rw [Selector.matches?, wellFormed selector selected]
          rw [matched] at outcome
          exact nomatch outcome

theorem qualifying_eq (wellFormed : serverClass.IsWellFormed) (servers : List Server) :
    qualifying serverClass servers = .ok (servers.filter (Server.belongs serverClass)) := by
  induction servers with
  | nil => rfl
  | cons server rest ih =>
      rw [qualifying, Server.qualifies_eq wellFormed, ih, List.filter_cons]
      rfl

/-- With a well-formed selector the qualified servers are those that belong to the class. -/
theorem qualifiedServers_eq (wellFormed : serverClass.IsWellFormed) (servers : List Server) :
    qualifiedServers serverClass servers =
      .ok ((servers.filter (Server.belongs serverClass)).mergeSort Server.inNameOrder) := by
  unfold qualifiedServers
  split
  · rw [qualifying_eq wellFormed]
    rfl
  · rename_i selector selected
    rw [Selector.validate, wellFormed selector selected, qualifying_eq wellFormed]
    rfl

end

/-- With a malformed selector there is an error whatever the servers are. -/
theorem qualifiedServers_of_malformed {spec : ServerClassSpec} {selector : Selector}
    {fault : SelectorFault} (selected : spec.selector = some selector)
    (faulty : selector.fault? = some fault) (servers : List Server) :
    qualifiedServers spec servers = .error fault := by
  rw [qualifiedServers, selected]
  dsimp only
  rw [Selector.validate, faulty]
  rfl

theorem Server.inNameOrder_trans (first second third : Server)
    (front : first.inNameOrder second = true) (back : second.inNameOrder third = true) :
    first.inNameOrder third = true := by
  unfold inNameOrder at *
  cases first_name : first.metadata.name with
  | none => rfl
  | some left =>
      cases second_name : second.metadata.name with
      | none => simp [first_name, second_name] at front
      | some middle =>
          cases third_name : third.metadata.name with
          | none => simp [second_name, third_name] at back
          | some right =>
              simp only [first_name, second_name, third_name, decide_eq_true_eq] at front back ⊢
              exact Std.le_trans front back

theorem Server.inNameOrder_total (left right : Server) :
    (left.inNameOrder right || right.inNameOrder left) = true := by
  unfold inNameOrder
  cases left.metadata.name with
  | none => rfl
  | some left_name =>
      cases right.metadata.name with
      | none => simp
      | some right_name => simpa using Std.le_total

/-- Qualified servers come in the order of their names. -/
theorem pairwise_mergeSort_inNameOrder (servers : List Server) :
    (servers.mergeSort Server.inNameOrder).Pairwise fun earlier later =>
      earlier.inNameOrder later = true :=
  List.pairwise_mergeSort Server.inNameOrder_trans Server.inNameOrder_total servers

/-- The order in which qualified servers come is that of an insertion of one after the other. -/
theorem mergeSort_inNameOrder_eq (servers : List Server) : servers.mergeSort Server.inNameOrder =
    servers.insertionSort fun left right => left.inNameOrder right = true := by
  induction servers with
  | nil => exact List.mergeSort_nil
  | cons server rest ih =>
      obtain ⟨front, back, sorted, sorted_rest, before⟩ :=
        List.mergeSort_cons Server.inNameOrder_trans Server.inNameOrder_total server rest
      have ascends := pairwise_mergeSort_inNameOrder (server :: rest)
      rw [sorted] at ascends
      have follows := (List.pairwise_cons.1 (List.pairwise_append.1 ascends).2.1).1
      have passed : ∀ other ∈ front, decide ¬server.inNameOrder other = true := by
        simpa using before
      rw [List.insertionSort_cons_eq_take_drop, ← ih, sorted, sorted_rest,
        List.takeWhile_append_of_pos passed, List.dropWhile_append_of_pos passed]
      cases back with
      | nil => simp
      | cons next others =>
          have stops := follows next List.mem_cons_self
          simp [stops]

theorem Server.anyName_le_of_inNameOrder {left right : Server}
    (ordered : left.inNameOrder right = true) (named : left.metadata.name.isSome = true) :
    left.anyName ≤ right.anyName := by
  obtain ⟨left_name, left_named⟩ := Option.isSome_iff_exists.1 named
  unfold inNameOrder at ordered
  cases right_named : right.metadata.name with
  | none => simp [left_named, right_named] at ordered
  | some right_name =>
      simp only [left_named, right_named, decide_eq_true_eq] at ordered
      simpa [anyName, Metadata.anyName, left_named, right_named] using ordered

/-- Candidates in the order of their names; those that may be claimed have the eligible names. -/
structure Offers (candidates : List Server) (eligible : List String) : Prop where
  /-- No candidate comes before one with a smaller name. -/
  ordered : candidates.Pairwise fun earlier later => earlier.anyName ≤ later.anyName
  /-- The eligible names are those of the claimable candidates. -/
  names : ∀ name, name ∈ eligible ↔
    ∃ server ∈ candidates, server.isClaimable = true ∧ server.anyName = name

/-- An eligible name before that of a candidate belongs to a candidate that comes earlier. -/
theorem Offers.earlier {candidates front back : List Server} {eligible : List String}
    {server : Server} {name : String} (offers : Offers candidates eligible)
    (splits : candidates = front ++ server :: back) (member : name ∈ eligible)
    (before : name < server.anyName) :
    ∃ earlier ∈ front, earlier.isClaimable = true ∧ earlier.anyName = name := by
  obtain ⟨earlier, among, claimable, rfl⟩ := (offers.names name).1 member
  subst splits
  obtain ⟨_, tail_ordered, _⟩ := List.pairwise_append.1 offers.ordered
  rcases List.mem_append.1 among with in_front | in_tail
  · exact ⟨earlier, in_front, claimable, rfl⟩
  · rcases List.mem_cons.1 in_tail with rfl | in_back
    · exact absurd before Std.lt_irrefl
    · have not_before := (List.pairwise_cons.1 tail_ordered).1 earlier in_back
      exact absurd before (Std.not_lt.2 not_before)

/-- The candidates for a machine that names a class: the available servers that are stored and
belong to the class. -/
def Store.candidates (store : Store) (serverClass : ServerClass) : List Server :=
  ((serverClass.availableServers.filterMap store.servers.get?).filter
    (Server.belongs serverClass.spec)).mergeSort Server.inNameOrder

theorem Store.mem_candidates {store : Store} {serverClass : ServerClass} {server : Server} :
    server ∈ store.candidates serverClass ↔
      (∃ name ∈ serverClass.availableServers, store.servers.get? name = some server) ∧
        server.belongs serverClass.spec = true := by
  simp only [candidates, List.mem_mergeSort, List.mem_filter, List.mem_filterMap]

/-- Candidates that have names come in the order of their names. -/
theorem Store.pairwise_candidates {store : Store} {serverClass : ServerClass}
    (named : ∀ server ∈ store.candidates serverClass, server.metadata.name.isSome = true) :
    (store.candidates serverClass).Pairwise fun earlier later =>
      earlier.anyName ≤ later.anyName :=
  (pairwise_mergeSort_inNameOrder _).imp_of_mem fun {earlier _} member _ before =>
    Server.anyName_le_of_inNameOrder before (named earlier member)

/-- The candidates of a class offer its eligible names. -/
theorem Store.Arises.offers {store : Store} (arises : store.Arises) {serverClass : ServerClass}
    (named : ∀ name ∈ serverClass.availableServers, ∀ server,
      store.servers.get? name = some server → server.metadata.name.isSome = true) :
    Offers (store.candidates serverClass) (store.eligible serverClass) := by
  have name_eq : ∀ name ∈ serverClass.availableServers, ∀ server,
      store.servers.get? name = some server → server.anyName = name := by
    intro name available server found
    obtain ⟨own, own_name⟩ := Option.isSome_iff_exists.1 (named name available server found)
    have under := arises.server_name name server found
    simpa [Server.anyName, Metadata.anyName, own_name] using under
  constructor
  · refine pairwise_candidates fun server among => ?_
    obtain ⟨⟨name, available, found⟩, _⟩ := mem_candidates.1 among
    exact named name available server found
  · intro name
    rw [eligible, mem_sortedNames, List.mem_filter, Option.any_eq_true]
    constructor
    · rintro ⟨available, server, found, fits⟩
      obtain ⟨belongs, claimable⟩ := Bool.and_eq_true_iff.1 fits
      exact ⟨server, mem_candidates.2 ⟨⟨name, available, found⟩, belongs⟩, claimable,
        name_eq name available server found⟩
    · rintro ⟨server, among, claimable, rfl⟩
      obtain ⟨⟨name, available, found⟩, belongs⟩ := mem_candidates.1 among
      rw [name_eq name available server found]
      exact ⟨available, server, found, Bool.and_eq_true_iff.2 ⟨belongs, claimable⟩⟩

end BareMetal
