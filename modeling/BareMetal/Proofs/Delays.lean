import BareMetal.Backoff
import Mathlib.Data.Nat.Fib.Basic

/-!
# Delays that grow like the Fibonacci numbers

Each delay of a backoff is the sum of the two before it, cut off at the limit.  Whether these two
were cut off themselves makes no difference to what is left of their sum.  So every delay is the
multiple of the first one by a Fibonacci number, or else the limit; and no sum is ever missing if
twice the limit is a span.
-/

namespace BareMetal

theorem Span.eq_of_nanos {left right : Span} (same : left.nanos = right.nanos) : left = right := by
  cases left
  cases right
  simpa using same

namespace Backoff

variable {first limit : Span}

theorem nanos_min (left right : Span) : (left.min right).nanos = min left.nanos right.nanos := by
  simp only [Span.min]
  split <;> simp <;> omega

/-- The multiple of a delay by a Fibonacci number, cut off at a limit. -/
def multiple (first limit : Span) (index : Nat) : Span :=
  ⟨min limit.nanos (Nat.fib index * first.nanos)⟩

/-- What is left of a sequence of delays when some of them were taken. -/
def grown (first limit : Span) (count : Nat) : Backoff where
  previous := multiple first limit count
  current := multiple first limit (count + 1)
  limit := limit

/-- A sequence of delays starts with nothing taken. -/
theorem start_eq_grown (fits : first.nanos ≤ limit.nanos) :
    start first limit = grown first limit 0 := by
  simp [start, grown, multiple, Span.zero, fits]

theorem multiple_le (index : Nat) : (multiple first limit index).nanos ≤ limit.nanos := by
  simp [multiple]

/-- Two cut-off delays in a row add up to the next one. -/
theorem min_add_multiple (index : Nat) :
    Span.min ⟨(multiple first limit index).nanos + (multiple first limit (index + 1)).nanos⟩ limit =
      multiple first limit (index + 2) := by
  have sum : Nat.fib (index + 2) * first.nanos =
      Nat.fib index * first.nanos + Nat.fib (index + 1) * first.nanos := by
    rw [Nat.fib_add_two, Nat.add_mul]
  apply Span.eq_of_nanos
  simp only [multiple, nanos_min, sum]
  omega

/-- The next delay is the next multiple, and no sum is missing as long as twice the limit is a
span. -/
theorem next?_grown (bounded : limit.nanos + limit.nanos < Span.bound) (count : Nat) :
    (grown first limit count).next? =
      some (multiple first limit (count + 1), grown first limit (count + 1)) := by
  have fits : (multiple first limit count).nanos + (multiple first limit (count + 1)).nanos <
      Span.bound :=
    lt_of_le_of_lt (Nat.add_le_add (multiple_le count) (multiple_le (count + 1))) bounded
  simp [next?, grown, Span.add?, fits, min_add_multiple]

/-! ## Delays in a row -/

/-- Delays never get shorter. -/
theorem multiple_mono {earlier later : Nat} (ordered : earlier ≤ later) :
    (multiple first limit earlier).nanos ≤ (multiple first limit later).nanos := by
  have grows : Nat.fib earlier * first.nanos ≤ Nat.fib later * first.nanos :=
    Nat.mul_le_mul_right _ (Nat.fib_mono ordered)
  simp only [multiple]
  omega

/-- When some delays were taken, the next ones are the next multiples, and no sum is missing. -/
theorem take_grown (bounded : limit.nanos + limit.nanos < Span.bound) (taken count : Nat) :
    (grown first limit taken).take count =
      ((List.range' (taken + 1) count).map (multiple first limit), false) := by
  induction count generalizing taken with
  | zero => rfl
  | succ count ih =>
      rw [take, next?_grown bounded]
      dsimp only
      rw [ih, List.range'_succ, List.map_cons]

/-- As long as twice the limit is a span no sum is missing.  The delay of each call is the multiple
of the first one by the Fibonacci number of the call, or the limit if that is shorter; so the delays
never get shorter, and none is longer than the limit. -/
theorem take_start (fits : first.nanos ≤ limit.nanos) (bounded : 2 * limit.nanos < Span.bound)
    (count : Nat) :
    let delays : List Span := (List.range' 1 count).map
      fun call => ⟨min limit.nanos (Nat.fib call * first.nanos)⟩
    (start first limit).take count = (delays, false) ∧
      delays.Pairwise (fun earlier later => earlier.nanos ≤ later.nanos) ∧
      ∀ delay ∈ delays, delay.nanos ≤ limit.nanos := by
  intro delays
  refine ⟨?_, ?_, ?_⟩
  · rw [start_eq_grown fits]
    exact take_grown (by omega) 0 count
  · exact List.pairwise_map.2 ((List.pairwise_le_range' 1).imp multiple_mono)
  · intro delay member
    obtain ⟨call, -, rfl⟩ := List.mem_map.1 member
    exact multiple_le call

/-- The limit is the longest number of seconds that can be doubled. -/
theorem take_start_huge :
    let first : Span := .ofSeconds (Nat.pow 2 61)
    let limit : Span := .ofSeconds (Nat.pow 2 63 - 1)
    (first.nanos ≤ limit.nanos ∧ 2 * limit.nanos < Span.bound) ∧
      (start first limit).take 6 =
        ([first, first, .ofSeconds (Nat.pow 2 62), .ofSeconds (3 * Nat.pow 2 61), limit, limit],
          false) := by
  intro first limit
  have fits : first.nanos ≤ limit.nanos := by decide
  have bounded : 2 * limit.nanos < Span.bound := by decide
  obtain ⟨taken, -, -⟩ := take_start fits bounded 6
  refine ⟨⟨fits, bounded⟩, taken.trans ?_⟩
  decide +kernel

end Backoff

end BareMetal
