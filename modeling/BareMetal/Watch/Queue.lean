import BareMetal.Object.Address

/-!
# Queues of passes

Passes wait until their objects have come to rest.  A pass that is asked for again before it is due
is put off, and one that is due before it is asked for again stays as it is; so several requests in
short order lead to one pass, a fixed time after the last of them.
-/

namespace BareMetal

/-- A pass over an object that is due at some time, in nanoseconds. -/
structure DuePass where
  /-- The object. -/
  address : ObjectAddress
  /-- When the pass is due. -/
  time : Nat
  deriving DecidableEq

/-- The passes that wait, at most one for each object, in the order in which they were asked
for. -/
abbrev PassQueue := List DuePass

namespace PassQueue

/-- The queue without the pass over an object. -/
def drop (queue : PassQueue) (address : ObjectAddress) : PassQueue :=
  queue.filter fun due => due.address != address

/-- Asks for a pass over an object as of some time. -/
def ask (queue : PassQueue) (debounce time : Nat) (address : ObjectAddress) : PassQueue :=
  match queue.find? fun due => due.address == address with
  | some due =>
      if time ≤ due.time then queue.drop address ++ [⟨address, time + debounce⟩] else queue
  | none => queue ++ [⟨address, time + debounce⟩]

/-- Asks for passes over several objects. -/
def askAll (queue : PassQueue) (debounce time : Nat) (addresses : List ObjectAddress) :
    PassQueue :=
  addresses.foldl (fun queue address => queue.ask debounce time address) queue

/-- The passes that are due, earliest first, and those that are not due yet. -/
def split (queue : PassQueue) (now : Nat) : List DuePass × PassQueue :=
  let (due, rest) := queue.partition fun pass => pass.time ≤ now
  (due.mergeSort fun left right => left.time ≤ right.time, rest)

/-- When the first pass is due. -/
def next? (queue : PassQueue) : Option Nat := (queue.map DuePass.time).min?

end PassQueue

end BareMetal
