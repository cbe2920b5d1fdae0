/-!
# Spans of time

Lengths of time in nanoseconds.  A span has less than 2 ^ 64 seconds; the sum of two spans exists
only below that bound.
-/

namespace BareMetal

/-- A length of time. -/
structure Span where
  /-- The whole length in nanoseconds. -/
  nanos : Nat
  deriving DecidableEq, Inhabited

namespace Span

/-- The bound of all spans, in nanoseconds. -/
def bound : Nat := Nat.pow 2 64 * 1000000000

/-- No time at all. -/
def zero : Span := ⟨0⟩

/-- A number of seconds. -/
def ofSeconds (seconds : Nat) : Span := ⟨seconds * 1000000000⟩

/-- A number of milliseconds. -/
def ofMillis (millis : Nat) : Span := ⟨millis * 1000000⟩

/-- A number of seconds with nanoseconds on top. -/
def ofParts (seconds nanos : Nat) : Span := ⟨seconds * 1000000000 + nanos⟩

/-- The whole seconds of a span. -/
def seconds (span : Span) : Nat := span.nanos / 1000000000

/-- The nanoseconds of a span beyond its whole seconds. -/
def subsecond (span : Span) : Nat := span.nanos % 1000000000

/-- The sum of two spans, if it is below the bound. -/
def add? (left right : Span) : Option Span :=
  if left.nanos + right.nanos < bound then some ⟨left.nanos + right.nanos⟩ else none

/-- The shorter of two spans. -/
def min (left right : Span) : Span := if left.nanos ≤ right.nanos then left else right

/-- The digits of a fraction given as a number of `width` digits, without zeros at the end. -/
def fractionDigits (width fraction : Nat) : List Char :=
  let digits := Nat.toDigits 10 fraction
  let filled := List.replicate (width - digits.length) '0' ++ digits
  (filled.reverse.dropWhile (· == '0')).reverse

/-- A whole number with a fraction of `width` digits, the fraction in as few digits as it needs. -/
def withFraction (whole width fraction : Nat) : String :=
  if fraction = 0 then toString whole
  else toString whole ++ "." ++ String.ofList (fractionDigits width fraction)

/-- A span in the largest of seconds, milliseconds, microseconds and nanoseconds of which it has
at least one, and in nanoseconds if it has none. -/
def display (span : Span) : String :=
  if 0 < span.seconds then withFraction span.seconds 9 span.subsecond ++ "s"
  else if 1000000 ≤ span.nanos then
    withFraction (span.nanos / 1000000) 6 (span.nanos % 1000000) ++ "ms"
  else if 1000 ≤ span.nanos then withFraction (span.nanos / 1000) 3 (span.nanos % 1000) ++ "µs"
  else toString span.nanos ++ "ns"

end Span

end BareMetal
