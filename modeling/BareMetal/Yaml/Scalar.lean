import BareMetal.Json.Parser

/-!
# Scalars

What a YAML scalar stands for when it is written without quotes and without a tag.  The words for
nothing and for truth values, and texts that spell a number, do not stand for themselves; all
others are texts.
-/

namespace BareMetal.Yaml

/-- What a scalar stands for. -/
inductive Scalar where
  /-- Nothing. -/
  | null
  /-- A truth value. -/
  | bool (value : Bool)
  /-- A whole number. -/
  | whole (value : Int)
  /-- The number `mantissa * 10 ^ exponent` where no shorter mantissa does. -/
  | real (mantissa exponent : Int)
  /-- A number beyond all others, or below all others. -/
  | infinite (isNegative : Bool)
  /-- What is no number, as a number. -/
  | undefined
  /-- A text. -/
  | str (value : String)
  deriving DecidableEq

namespace Scalar

/-- The truth value that a word stands for. -/
def truth? : String → Option Bool
  | "true" | "True" | "TRUE" => some true
  | "false" | "False" | "FALSE" => some false
  | _ => none

/-- Whether a word stands for nothing. -/
def isNull (text : String) : Bool := ["~", "null", "Null", "NULL"].contains text

/-- A text without its sign, and whether the sign is a minus. -/
def unsigned : List Char → Bool × List Char
  | '-' :: rest => (true, rest)
  | '+' :: rest => (false, rest)
  | text => (false, text)

/-- A number with a sign. -/
def signed (isNegative : Bool) (number : Nat) : Int := if isNegative then -(number : Int) else number

/-- Whether a text consists of digits behind a zero, which makes it no number. -/
def isPaddedDigits : List Char → Bool
  | '0' :: c :: rest => (c :: rest).all Char.isDigit
  | _ => false

/-- The number that a text spells in a base of at most sixteen, if it has digits only. -/
def inBase? (base : Nat) (digits : List Char) : Option Nat :=
  if digits.isEmpty then none
  else
    digits.foldl
      (fun value c => do
        let value ← value
        let digit ← Json.hexDigit? c
        if digit < base then return value * base + digit else none)
      (some 0)

/-- The number that a text without a sign spells without a point and without an exponent. -/
def natural? : List Char → Option Nat
  | '0' :: 'x' :: digits => inBase? 16 digits
  | '0' :: 'o' :: digits => inBase? 8 digits
  | '0' :: 'b' :: digits => inBase? 2 digits
  | digits => if isPaddedDigits digits then none else inBase? 10 digits

/-- The whole number that a text spells, if it fits in 128 bits. -/
def whole? (text : List Char) : Option Int := do
  let (isNegative, digits) := unsigned text
  let number := signed isNegative (← natural? digits)
  if -Int.pow 2 127 ≤ number ∧ number < Int.pow 2 128 then some number else none

/-- The exponent that a text spells, an empty one being zero. -/
def exponent? : List Char → Option Int
  | [] => some 0
  | c :: rest =>
      if c == 'e' || c == 'E' then
        let (isNegative, digits) := unsigned rest
        (inBase? 10 digits).map (signed isNegative)
      else none

/-- The number that a text without a sign spells in decimal, with or without a point and an
exponent. -/
def decimal? (text : List Char) : Option (Nat × Int) := do
  let front := text.takeWhile Char.isDigit
  let rest := text.dropWhile Char.isDigit
  let (back, rest) := match rest with
    | '.' :: rest => (rest.takeWhile Char.isDigit, rest.dropWhile Char.isDigit)
    | rest => ([], rest)
  let digits := front ++ back
  if digits.isEmpty then none
  let exponent ← exponent? rest
  return (Json.ofDigits digits, exponent - back.length)

/-- A number without zeros at the end of its mantissa, where `mantissa` has fewer than `digits`
digits. -/
def shorten : (digits : Nat) → (mantissa : Nat) → (exponent : Int) → Nat × Int
  | 0, mantissa, exponent => (mantissa, exponent)
  | digits + 1, mantissa, exponent =>
      if mantissa = 0 then (0, 0)
      else if mantissa % 10 = 0 then shorten digits (mantissa / 10) (exponent + 1)
      else (mantissa, exponent)

/-- The finite number that a text spells in decimal. -/
def finite? (text : List Char) : Option Scalar := do
  let (isNegative, digits) := unsigned text
  let (mantissa, exponent) ← decimal? digits
  if Json.isFinite mantissa exponent then
    let (mantissa, exponent) := shorten (text.length + 1) mantissa exponent
    return real (signed isNegative mantissa) exponent
  else none

/-- The number of any size that a text spells. -/
def real? (text : String) : Option Scalar :=
  if [".inf", ".Inf", ".INF", "+.inf", "+.Inf", "+.INF"].contains text then some (infinite false)
  else if ["-.inf", "-.Inf", "-.INF"].contains text then some (infinite true)
  else if [".nan", ".NaN", ".NAN"].contains text then some undefined
  else finite? text.toList

/-- The number that a text spells. -/
def number? (text : String) : Option Scalar :=
  match whole? text.toList with
  | some value => some (whole value)
  | none => if isPaddedDigits (unsigned text.toList).2 then none else real? text

/-- What a scalar without quotes and without a tag stands for. -/
def ofPlain (text : String) : Scalar :=
  if text.isEmpty || isNull text then null
  else
    match truth? text with
    | some value => bool value
    | none => (number? text).getD (str text)

/-- Whether a text written without quotes stands for itself. -/
def standsForItself (text : String) : Bool := ofPlain text = str text

end Scalar

end BareMetal.Yaml
