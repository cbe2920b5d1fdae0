import BareMetal.Pass.Binding
import BareMetal.Proofs.Pass.Running

/-!
# Bindings get ready

A pass over a binding whose server is there makes the binding ready.  It writes the status of the
binding, and it writes nothing if the binding is ready already.
-/

namespace BareMetal

variable {world : Surroundings} {name : String} {binding : ServerBinding} {server : Server}

/-- The binding of a name is ready now, and it is the same otherwise. -/
structure Readies (name : String) (binding : ServerBinding) (before after : Store) : Prop where
  /-- The binding is as it was but for its readiness and its version. -/
  own : ∃ version, after.serverBindings.get? name =
    some { binding.withReady true with metadata.resourceVersion := version }
  /-- The other bindings are as they were. -/
  others : ∀ other, other ≠ name →
    after.serverBindings.get? other = before.serverBindings.get? other
  /-- Nothing but bindings was written. -/
  frame : after = { before with version := after.version, serverBindings := after.serverBindings }

theorem ServerBinding.isReady_withReady (binding : ServerBinding) :
    (binding.withReady true).isReady = true :=
  rfl

theorem ServerBinding.withReady_eq_self (same : binding.status = (binding.withReady true).status) :
    binding.withReady true = binding := by
  change { binding with status := (binding.withReady true).status } = binding
  rw [← same]

/-- A binding lies under the name that it lay under. -/
theorem Readies.namesBindings {before after : Store} (readies : Readies name binding before after)
    (named : binding.anyName = name) (bindings : before.NamesBindings) : after.NamesBindings := by
  obtain ⟨version, own⟩ := readies.own
  intro other present found
  by_cases same : other = name
  · subst same
    obtain rfl := Option.some.inj (own.symm.trans found)
    exact named
  · exact bindings other present (readies.others other same ▸ found)

theorem refreshReadiness_run (present : world.store.servers.get? binding.anyName = some server) :
    (refreshReadiness binding).run world = ((.ok .done, binding.withReady true), world) := by
  unfold refreshReadiness
  rw [Pass.run_get_bind _ world fun _ => rfl, present]
  rfl

/-- The status of a binding that was not ready is written with one call. -/
theorem commitBinding_readies (bound : world.store.serverBindings.get? name = some binding)
    (named : binding.anyName = name) : ∃ later,
      (commitBinding binding (binding.withReady true)).run world =
        (.ok (), world.withStore later) ∧ Readies name binding world.store later := by
  unfold commitBinding
  by_cases same : binding.status = (binding.withReady true).status
  · rw [if_pos same]
    refine ⟨world.store, rfl, ⟨binding.metadata.resourceVersion, ?_⟩, fun _ _ => rfl, rfl⟩
    rw [bound, ServerBinding.withReady_eq_self same]
  · have named_too : (binding.withReady true).anyName = name := named
    rw [if_neg same, named_too, ← bind_pure (Pass.call _), Pass.run_call_bind, Store.perform,
      Store.updateServerBindingStatus, bound]
    exact ⟨_, rfl, ⟨_, Dict.get?_insert_self _ _ _⟩,
      fun other differs => Dict.get?_insert_of_ne differs _ _, rfl⟩

/-- The surroundings of an allocator that just saw a binding. -/
def Surroundings.seeingBinding (world : Surroundings) (binding : ServerBinding) : Surroundings :=
  world.withIndex (world.memory.index.learn (.bindingSeen binding))

/-- A pass over a binding whose server is there makes it ready. -/
theorem bindingPass_run_of_present (bound : world.store.serverBindings.get? name = some binding)
    (named : binding.anyName = name) (present : world.store.servers.get? name = some server) :
    ∃ later, (bindingPass name).run world =
        (.ok .done, (world.seeingBinding binding).withStore later) ∧
      Readies name binding world.store later := by
  have bound_now : (world.seeingBinding binding).store.serverBindings.get? name = some binding :=
    bound
  have present_now : (world.seeingBinding binding).store.servers.get? binding.anyName =
      some server := by
    rw [named]
    exact present
  obtain ⟨later, committed, readies⟩ := commitBinding_readies bound_now named
  refine ⟨later, ?_, readies⟩
  unfold bindingPass
  rw [Pass.run_get_bind _ world fun _ => rfl, bound]
  exact (Pass.run_bind_of (refreshReadiness_run present_now)).trans (Pass.run_bind_of committed)

end BareMetal
