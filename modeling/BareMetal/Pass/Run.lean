import BareMetal.Pass.Basic
import BareMetal.Store.Memory
import BareMetal.Store.Nodes

/-!
# Running passes in memory

The surroundings of an allocator in memory: the store and the workload nodes, which all allocators
share, the clock, and what the allocator itself remembers.
-/

namespace BareMetal

/-- What an allocator remembers between passes. -/
structure Memory where
  /-- What it saw of bindings and machines. -/
  index : Index := {}
  /-- What it counted. -/
  tally : Tally := {}
  deriving DecidableEq

/-- A clock that shows another instant at each reading. -/
structure Clock where
  /-- The instant shown at each reading. -/
  shows : Nat → Timestamp
  /-- How often the clock was read. -/
  readings : Nat := 0

/-- All that a pass can ask and change. -/
structure Surroundings where
  /-- The objects. -/
  store : Store
  /-- The workload nodes. -/
  nodes : Nodes
  /-- The clock. -/
  clock : Clock
  /-- What the allocator remembers. -/
  memory : Memory

namespace Surroundings

/-- Answers a query of a pass. -/
def answer : (query : PassQuery) → StateM Surroundings query.Answer
  | .store call => fun world =>
      let (reply, store) := world.store.perform call
      (reply, { world with store })
  | .stampNode _ uuid providerId => fun world =>
      let (reply, nodes) := world.nodes.stamp uuid providerId
      (reply, { world with nodes })
  | .bindingsFor machine => fun world => (world.memory.index.bindingsFor machine, world)
  | .machinesFor server => fun world => (world.memory.index.machinesFor server, world)
  | .learn event => fun world =>
      ((), { world with memory.index := world.memory.index.learn event })
  | .count counter => fun world =>
      ((), { world with memory.tally := world.memory.tally.add counter 1 })
  | .now => fun world =>
      (world.clock.shows world.clock.readings,
        { world with clock.readings := world.clock.readings + 1 })

end Surroundings

/-- Runs a pass to its end with nothing else happening meanwhile. -/
def Pass.run {α : Type} (pass : Pass α) (world : Surroundings) : α × Surroundings :=
  Program.interpret Surroundings.answer pass world

end BareMetal
