/-!
# Whole numbers as floats

A counter is shown as the 64-bit float nearest to it, in the fewest digits that tell the float
apart from its neighbours.  Below 2 ^ 53 that is the counter itself.
-/

namespace BareMetal.Text

/-- The distance of neighbouring floats at a whole number of 2 ^ 52 or more. -/
def floatStep (number : Nat) : Nat := Nat.pow 2 (Nat.log2 number - 52)

/-- The float nearest to a whole number; of two that are equally near the even one. -/
def nearestFloat (number : Nat) : Nat :=
  if number < Nat.pow 2 53 then number
  else
    let step := floatStep number
    let below := number / step
    let rest := number % step
    let up := step < 2 * rest || (step == 2 * rest && below % 2 == 1)
    (if up then below + 1 else below) * step

/-- Whether numbers as far from a float as `candidate` is are nearer to it than to its neighbours,
where a number halfway between two floats belongs to the even one. -/
def belongsTo (float candidate : Nat) : Bool :=
  let step := floatStep float
  let lower := if Nat.pow 2 (Nat.log2 float) = float then step else 2 * step
  let isEven := float / step % 2 == 0
  if candidate ≤ float then
    let distance := 4 * (float - candidate)
    distance < lower || (isEven && distance == lower)
  else
    let distance := 4 * (candidate - float)
    distance < 2 * step || (isEven && distance == 2 * step)

/-- The number with the most zeros at its end that belongs to a float: a multiple of ten to the
`zeros` if there is one, or else of a lower power of ten. -/
def roundest (float : Nat) : (zeros : Nat) → Nat
  | 0 => float
  | zeros + 1 =>
      let power := Nat.pow 10 (zeros + 1)
      let below := float / power * power
      let above := below + power
      match belongsTo float below, belongsTo float above with
      | true, true => if float - below ≤ above - float then below else above
      | true, false => below
      | false, true => above
      | false, false => roundest float zeros

/-- The text of a whole number as a float. -/
def wholeFloat (number : Nat) : String :=
  if number < Nat.pow 2 53 then toString number
  else toString (roundest (nearestFloat number) 20)

end BareMetal.Text
