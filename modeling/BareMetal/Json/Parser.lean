import BareMetal.Json.Record

/-!
# Reading JSON texts

A reader for RFC 8259 texts.  A raw control character in a text and anything but blanks behind the
value are refused.  A number beyond the range of 64-bit floats, a text with an unpaired surrogate,
and an array or object more than 127 deep are well-formed but stand for no value.
-/

namespace BareMetal.Json

/-- The text without the JSON blanks at its front. -/
def skipBlanks (text : List Char) : List Char :=
  text.dropWhile fun c => c == ' ' || c == '\n' || c == '\t' || c == '\r'

/-- The value of one hexadecimal digit. -/
def hexDigit? (c : Char) : Option Nat :=
  if '0' ≤ c ∧ c ≤ '9' then some (c.toNat - '0'.toNat)
  else if 'a' ≤ c ∧ c ≤ 'f' then some (c.toNat - 'a'.toNat + 10)
  else if 'A' ≤ c ∧ c ≤ 'F' then some (c.toNat - 'A'.toNat + 10)
  else none

/-- The number that four hexadecimal digits spell. -/
def hexUnit? (a b c d : Char) : Option Nat := do
  let a ← hexDigit? a
  let b ← hexDigit? b
  let c ← hexDigit? c
  let d ← hexDigit? d
  return ((a * 16 + b) * 16 + c) * 16 + d

/-- Whether a UTF-16 unit is the first half of a surrogate pair. -/
def isLeading (unit : Nat) : Bool := 0xd800 ≤ unit && unit < 0xdc00

/-- Whether a UTF-16 unit is the second half of a surrogate pair. -/
def isTrailing (unit : Nat) : Bool := 0xdc00 ≤ unit && unit < 0xe000

/-- The character that a backslash and a letter stand for. -/
def shortEscape? : Char → Option Char
  | '"' => some '"'
  | '\\' => some '\\'
  | '/' => some '/'
  | 'b' => some (Char.ofNat 8)
  | 'f' => some (Char.ofNat 12)
  | 'n' => some '\n'
  | 'r' => some '\r'
  | 't' => some '\t'
  | _ => none

/-- A piece of a text between quotes. -/
inductive Piece where
  /-- A character. -/
  | char (c : Char)
  /-- A UTF-16 unit given by its number. -/
  | unit (unit : Nat)

/-- The pieces of a text up to its closing quote, and what follows the quote. -/
def textPieces : List Char → Option (List Piece × List Char)
  | [] => none
  | '"' :: rest => some ([], rest)
  | '\\' :: 'u' :: a :: b :: c :: d :: rest => do
      let unit ← hexUnit? a b c d
      let (pieces, after) ← textPieces rest
      return (.unit unit :: pieces, after)
  | '\\' :: c :: rest => do
      let meant ← shortEscape? c
      let (pieces, after) ← textPieces rest
      return (.char meant :: pieces, after)
  | c :: rest =>
      if c.toNat < 0x20 || c == '\\' then none
      else do
        let (pieces, after) ← textPieces rest
        return (.char c :: pieces, after)

/-- The characters that pieces make up, unless there is half of a surrogate pair among them. -/
def joinPieces? : List Piece → Option (List Char)
  | [] => some []
  | .char c :: rest => (joinPieces? rest).map (c :: ·)
  | .unit first :: .unit second :: rest =>
      if isLeading first && isTrailing second then
        let code := 0x10000 + (first - 0xd800) * 0x400 + (second - 0xdc00)
        (joinPieces? rest).map (Char.ofNat code :: ·)
      else if isLeading first || isTrailing first then none
      else (joinPieces? (.unit second :: rest)).map (Char.ofNat first :: ·)
  | .unit unit :: rest =>
      if isLeading unit || isTrailing unit then none
      else (joinPieces? rest).map (Char.ofNat unit :: ·)

/-- The characters of a text up to its closing quote, none if there is half of a surrogate pair
among them, and what follows the quote. -/
def textBody (text : List Char) : Option (Option (List Char) × List Char) :=
  (textPieces text).map fun (pieces, after) => (joinPieces? pieces, after)

/-- The number that a run of decimal digits spells. -/
def ofDigits (digits : List Char) : Nat :=
  digits.foldl (fun value c => value * 10 + (c.toNat - '0'.toNat)) 0

/-- Whether `mantissa * 10 ^ exponent` rounds to a finite 64-bit float. -/
def isFinite (mantissa : Nat) (exponent : Int) : Bool :=
  if mantissa = 0 then true
  else
    let magnitude : Int := (Nat.toDigits 10 mantissa).length + exponent
    if magnitude < 300 then true
    else if 320 < magnitude then false
    else
      let limit := Nat.pow 2 1024 - Nat.pow 2 970
      if 0 ≤ exponent then mantissa * Nat.pow 10 exponent.toNat < limit
      else mantissa < limit * Nat.pow 10 (-exponent).toNat

/-- The value of a number's parts: a whole number if it is written as one and fits in 64 bits,
and no value if it is beyond the range of 64-bit floats. -/
def ofParts (negative : Bool) (whole : List Char) (fraction : Option (List Char))
    (exponent : Option Int) : Json :=
  let digits := ofDigits (whole ++ fraction.getD [])
  let signed : Int := if negative then -(digits : Int) else digits
  let isWhole := fraction.isNone && exponent.isNone && !(negative && digits == 0)
  if isWhole && decide (-Int.pow 2 63 ≤ signed) && decide (signed < Int.pow 2 64) then int signed
  else
    let scale : Int := exponent.getD 0 - (fraction.getD []).length
    if isFinite digits scale then real signed scale else unreadable

/-- A number's exponent, if one is written. -/
def exponentPart (text : List Char) : Option (Option Int × List Char) :=
  match text with
  | c :: rest =>
      if c == 'e' || c == 'E' then
        let (negative, rest) := match rest with
          | '-' :: rest => (true, rest)
          | '+' :: rest => (false, rest)
          | rest => (false, rest)
        let digits := rest.takeWhile Char.isDigit
        if digits.isEmpty then none
        else
          let value : Int := ofDigits digits
          some (some (if negative then -value else value), rest.dropWhile Char.isDigit)
      else some (none, text)
  | [] => some (none, [])

/-- A number's fraction digits, if a point is written. -/
def fractionPart (text : List Char) : Option (Option (List Char) × List Char) :=
  match text with
  | '.' :: rest =>
      let digits := rest.takeWhile Char.isDigit
      if digits.isEmpty then none else some (some digits, rest.dropWhile Char.isDigit)
  | _ => some (none, text)

/-- A number and what follows it.  Only zero itself starts with a zero. -/
def number (text : List Char) : Option (Json × List Char) := do
  let (negative, text) := match text with
    | '-' :: rest => (true, rest)
    | text => (false, text)
  let whole := text.takeWhile Char.isDigit
  match whole with
  | [] => none
  | '0' :: _ :: _ => none
  | _ =>
      let (fraction, rest) ← fractionPart (text.dropWhile Char.isDigit)
      let (exponent, rest) ← exponentPart rest
      return (ofParts negative whole fraction exponent, rest)

/-- The items of an array from behind an item's start on, given how to read one item; `steps`
bounds their number. -/
def itemsBody (item : List Char → Option (Json × List Char)) :
    (steps : Nat) → List Char → Option (List Json × List Char)
  | 0, _ => none
  | steps + 1, text => do
      let (value, rest) ← item text
      match skipBlanks rest with
      | ',' :: rest => do
          let (values, after) ← itemsBody item steps rest
          return (value :: values, after)
      | ']' :: rest => return ([value], rest)
      | _ => none

/-- The members of an object from behind a member's start on, given how to read one value;
`steps` bounds their number. -/
def membersBody (item : List Char → Option (Json × List Char)) :
    (steps : Nat) → List Char → Option (List (String × Json) × List Char)
  | 0, _ => none
  | steps + 1, text => do
      match skipBlanks text with
      | '"' :: rest => do
          let (name, rest) ← textBody rest
          let name := String.ofList (← name)
          match skipBlanks rest with
          | ':' :: rest => do
              let (value, rest) ← item rest
              match skipBlanks rest with
              | ',' :: rest => do
                  let (members, after) ← membersBody item steps rest
                  return ((name, value) :: members, after)
              | '}' :: rest => return ([(name, value)], rest)
              | _ => none
          | _ => none
      | _ => none

/-- A collection at a depth at which there may be some. -/
def within (nesting : Nat) (collection : Json) : Json :=
  if nesting = 0 then unreadable else collection

/-- A value and what follows it.  Arrays and objects that lie deeper in it than `nesting` stand for
no value; `steps` bounds how deep they may lie at all. -/
def value : (steps nesting : Nat) → List Char → Option (Json × List Char)
  | 0, _, _ => none
  | steps + 1, nesting, text =>
      match skipBlanks text with
      | 'n' :: 'u' :: 'l' :: 'l' :: rest => some (null, rest)
      | 't' :: 'r' :: 'u' :: 'e' :: rest => some (bool true, rest)
      | 'f' :: 'a' :: 'l' :: 's' :: 'e' :: rest => some (bool false, rest)
      | '"' :: rest => (textBody rest).map fun (chars, after) =>
          ((chars.map fun chars => str (String.ofList chars)).getD unreadable, after)
      | '[' :: rest =>
          match skipBlanks rest with
          | ']' :: rest => some (within nesting (arr []), rest)
          | rest => (itemsBody (value steps (nesting - 1)) rest.length rest).map
              fun (items, after) => (within nesting (arr items), after)
      | '{' :: rest =>
          match skipBlanks rest with
          | '}' :: rest => some (within nesting (obj []), rest)
          | rest => (membersBody (value steps (nesting - 1)) rest.length rest).map
              fun (members, after) => (within nesting (obj members), after)
      | rest => number rest

/-- The tree that a text spells; parts of it may stand for no value. -/
def parseTree? (text : String) : Option Json := do
  let text := text.toList
  let (json, rest) ← value (text.length + 1) 127 text
  if (skipBlanks rest).isEmpty then return json else none

/-- The value that a text spells. -/
def parse? (text : String) : Option Json := (parseTree? text).bind any?

end BareMetal.Json
