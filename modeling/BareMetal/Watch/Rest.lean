/-!
# Rests

Whoever follows watchers rests after an error before going on, each time twice as long as the time
before.  Something to do, or two minutes without an error, ends that series, so the next error is
the first one again.
-/

namespace BareMetal

/-- The rest of a follower after errors; times are in nanoseconds. -/
structure Rest where
  /-- When the rest ends. -/
  endsAt : Nat := 0
  /-- How many errors the series has. -/
  errors : Nat := 0
  /-- When the last error was, if there was one. -/
  lastError : Option Nat := none

namespace Rest

/-- The rest after a number of earlier errors of the series: from 0.8 seconds up to 30 seconds. -/
def length (errors : Nat) : Nat := min (800000000 * Nat.pow 2 errors) 30000000000

/-- How long the time between two errors may be in one series. -/
def forgetAfter : Nat := 120000000000

/-- The rest after an error. -/
def after (rest : Rest) (now : Nat) : Rest :=
  let isOld := rest.lastError.any fun last => last + forgetAfter < now
  let errors := if isOld then 0 else rest.errors
  { endsAt := now + length errors, errors := errors + 1, lastError := some now }

/-- The rest after something to do, which ends a series of errors. -/
def worked (rest : Rest) : Rest := { rest with errors := 0 }

end Rest

end BareMetal
