import BareMetal.Text.Blank
import BareMetal.Time.Date

/-!
# Timestamps

Instants in UTC, to the nanosecond.  They are written in RFC 3339 form.  The reader accepts that
form and some neighbours of it: blanks before each number, numbers with fewer digits, years with
a sign and any number of digits, and offsets from UTC with or without a colon.
-/

namespace BareMetal

/-- Whether hour, minute, second and nanoseconds name a time of day.  A leap second is second 59
with a thousand million nanoseconds more. -/
def IsTimeOfDay (hour minute second nanos : Nat) : Prop :=
  hour < 24 ∧ minute < 60 ∧ second < 60 ∧
    nanos < (if second = 59 then 2000000000 else 1000000000)

instance (hour minute second nanos : Nat) : Decidable (IsTimeOfDay hour minute second nanos) :=
  inferInstanceAs (Decidable (_ ∧ _))

/-- An instant in UTC. -/
structure Timestamp where
  /-- The date. -/
  date : Date
  /-- The hour of the day. -/
  hour : Nat
  /-- The minute of the hour. -/
  minute : Nat
  /-- The second of the minute, 59 for a leap second. -/
  second : Nat
  /-- The nanoseconds of the second; a leap second has a thousand million or more. -/
  nanos : Nat
  /-- The time of day exists. -/
  isTimeOfDay : IsTimeOfDay hour minute second nanos
  deriving DecidableEq

namespace Timestamp

/-- The years that instants may lie in. -/
def InRange (year : Int) : Prop := -262143 ≤ year ∧ year ≤ 262142

instance (year : Int) : Decidable (InRange year) := inferInstanceAs (Decidable (_ ∧ _))

/-- The instant at which clocks that are `minutes` ahead of UTC show the given date and time. -/
def ofLocal (date : Date) (hour minute second nanos : Nat) (minutes : Int) : Option Timestamp :=
  let total : Int := hour * 60 + minute - minutes
  let day := if total < 0 then date.previous else if 1440 ≤ total then date.next else date
  let within := (total % 1440).toNat
  if isTimeOfDay : IsTimeOfDay (within / 60) (within % 60) second nanos then
    if InRange day.year then
      some ⟨day, within / 60, within % 60, second, nanos, isTimeOfDay⟩
    else none
  else none

/-- The numbers of an instant, the one that counts most first. -/
def numbers (time : Timestamp) : List Int :=
  [time.date.year, time.date.month, time.date.day, time.hour, time.minute, time.second, time.nanos]

/-- Whether an instant comes before another. -/
def isBefore (first second : Timestamp) : Bool := first.numbers < second.numbers

/-! ## Reading -/

/-- The number that a run of decimal digits spells. -/
def ofDigits (digits : List Char) : Nat :=
  digits.foldl (fun value c => value * 10 + (c.toNat - '0'.toNat)) 0

/-- A number of at most `most` digits behind blanks, and what follows it. -/
def readNumber (most : Nat) (text : List Char) : Option (Nat × List Char) :=
  let text := Text.trimFront text
  let digits := (text.take most).takeWhile Char.isDigit
  if digits.isEmpty then none else some (ofDigits digits, text.drop digits.length)

/-- A mark behind blanks, and what follows it. -/
def readMark (mark : Char) (text : List Char) : Option (List Char) :=
  match Text.trimFront text with
  | c :: rest => if c = mark then some rest else none
  | [] => none

/-- A year: up to four digits, or any number of digits behind a sign. -/
def readYear (text : List Char) : Option (Int × List Char) :=
  let signed (sign : Int) (rest : List Char) : Option (Int × List Char) :=
    let digits := rest.takeWhile Char.isDigit
    if digits.isEmpty then none
    else some (sign * (ofDigits digits : Int), rest.drop digits.length)
  match Text.trimFront text with
  | '-' :: rest => signed (-1) rest
  | '+' :: rest => signed 1 rest
  | text => (readNumber 4 text).map fun (year, rest) => (year, rest)

/-- The nanoseconds of a fraction, of which digits behind the ninth are dropped. -/
def readFraction (text : List Char) : Option (Nat × List Char) :=
  match text with
  | '.' :: rest =>
      let digits := rest.takeWhile Char.isDigit
      if digits.isEmpty then none
      else
        let kept := digits.take 9
        some (ofDigits kept * Nat.pow 10 (9 - kept.length), rest.drop digits.length)
  | _ => some (0, text)

/-- Whether a text starts with the letters of "UTC" in either case. -/
def startsWithUtc : List Char → Bool
  | u :: t :: c :: _ => u.toUpper == 'U' && t.toUpper == 'T' && c.toUpper == 'C'
  | _ => false

/-- The sign of an offset from UTC. -/
def offsetSign? : Char → Option Int
  | '+' => some 1
  | '-' => some (-1)
  | '−' => some (-1)
  | _ => none

/-- An offset from UTC in minutes: the letter Z, the letters UTC, or a sign, two digits of hours
and two digits of minutes, with colons or blanks between hours and minutes allowed. -/
def readOffset (text : List Char) : Option (Int × List Char) :=
  if startsWithUtc text then some (0, text.drop 3)
  else
    match text with
    | 'Z' :: rest => some (0, rest)
    | 'z' :: rest => some (0, rest)
    | sign :: h :: i :: rest => do
        let sign ← offsetSign? sign
        if h.isDigit && i.isDigit then
          match rest.dropWhile fun c => c == ':' || Text.isBlank c with
          | m :: n :: rest =>
              if '0' ≤ m ∧ m ≤ '5' ∧ n.isDigit then
                some (sign * ((ofDigits [h, i] * 60 + ofDigits [m, n] : Nat) : Int), rest)
              else none
          | _ => none
        else none
    | _ => none

/-- The instant that a text spells. -/
def parse? (text : String) : Option Timestamp := do
  let (year, rest) ← readYear text.toList
  let (month, rest) ← readNumber 2 (← readMark '-' rest)
  let (day, rest) ← readNumber 2 (← readMark '-' rest)
  let separator :: rest := rest | none
  guard (separator = 'T' ∨ separator = 't' ∨ separator = ' ')
  let (hour, rest) ← readNumber 2 rest
  let (minute, rest) ← readNumber 2 (← readMark ':' rest)
  let (second, rest) ← readNumber 2 (← readMark ':' rest)
  let (nanos, rest) ← readFraction rest
  let (offset, rest) ← readOffset (Text.trimFront rest)
  guard (Text.trimFront rest).isEmpty
  guard (InRange year)
  let date ← Date.of? year month day
  guard (hour < 24 ∧ minute < 60 ∧ second ≤ 60 ∧ -1440 < offset ∧ offset < 1440)
  if second = 60 then ofLocal date hour minute 59 (1000000000 + nanos) offset
  else ofLocal date hour minute second nanos offset

/-! ## Writing -/

/-- A number in decimal, filled up with zeros in front to a width. -/
def padded (width number : Nat) : String :=
  let digits := Nat.toDigits 10 number
  String.ofList (List.replicate (width - digits.length) '0' ++ digits)

/-- A year: four digits, or a sign and four digits or more outside the years 0 to 9999. -/
def writeYear (year : Int) : String :=
  if year < 0 then "-" ++ padded 4 year.natAbs
  else if 9999 < year then "+" ++ padded 4 year.natAbs
  else padded 4 year.natAbs

/-- A fraction of a second with zero, three, six or nine digits, the fewest that are exact. -/
def writeFraction (nanos : Nat) : String :=
  if nanos = 0 then ""
  else if nanos % 1000000 = 0 then "." ++ padded 3 (nanos / 1000000)
  else if nanos % 1000 = 0 then "." ++ padded 6 (nanos / 1000)
  else "." ++ padded 9 nanos

/-- The date and time of an instant down to the second, which is 60 in a leap second. -/
def writeSecond (time : Timestamp) : String :=
  let second := if 1000000000 ≤ time.nanos then time.second + 1 else time.second
  writeYear time.date.year ++ "-" ++ padded 2 time.date.month ++ "-" ++ padded 2 time.date.day ++
    "T" ++ padded 2 time.hour ++ ":" ++ padded 2 time.minute ++ ":" ++ padded 2 second

/-- The RFC 3339 form of an instant, with as many fraction digits as it needs. -/
def write (time : Timestamp) : String :=
  time.writeSecond ++ writeFraction (time.nanos % 1000000000) ++ "Z"

/-- The RFC 3339 form of an instant in whole seconds. -/
def writeWhole (time : Timestamp) : String := time.writeSecond ++ "Z"

end Timestamp

end BareMetal
