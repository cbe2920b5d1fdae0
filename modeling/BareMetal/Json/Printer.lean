import BareMetal.Json.Basic

/-!
# Writing JSON texts

The compact form of a value, in printable ASCII: members keep their order, and every character
outside printable ASCII is written by its UTF-16 units.  What stands for no value is written as
`null`.
-/

namespace BareMetal.Json

/-- A UTF-16 unit as a backslash, the letter u and four hexadecimal digits. -/
def unitEscape (unit : Nat) : String :=
  let digits := Nat.toDigits 16 unit
  "\\u" ++ String.ofList (List.replicate (4 - digits.length) '0' ++ digits)

/-- One character of a text. -/
def writeChar (c : Char) : String :=
  let code := c.toNat
  if c == '"' then "\\\""
  else if c == '\\' then "\\\\"
  else if 0x20 ≤ code && code < 0x7f then c.toString
  else if code < 0x10000 then unitEscape code
  else
    let above := code - 0x10000
    unitEscape (0xd800 + above / 0x400) ++ unitEscape (0xdc00 + above % 0x400)

/-- A text between quotes. -/
def writeText (text : String) : String :=
  "\"" ++ text.foldl (fun written c => written ++ writeChar c) "" ++ "\""

mutual

/-- The compact text of a value. -/
def write : Json → String
  | null => "null"
  | bool true => "true"
  | bool false => "false"
  | int value => toString value
  | real mantissa exponent => toString mantissa ++ "e" ++ toString exponent
  | str value => writeText value
  | arr items => "[" ++ ",".intercalate (writeItems items) ++ "]"
  | obj members => "\x7b" ++ ",".intercalate (writeMembers members) ++ "\x7d"
  | unreadable => "null"

/-- The text of each item. -/
def writeItems : List Json → List String
  | [] => []
  | item :: rest => write item :: writeItems rest

/-- The text of each member. -/
def writeMembers : List (String × Json) → List String
  | [] => []
  | (name, value) :: rest => (writeText name ++ ":" ++ write value) :: writeMembers rest

end

end BareMetal.Json
