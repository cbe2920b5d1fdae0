/-!
# Random identifiers

The text of a version 4 UUID, of which 122 bits are free: each number below 2 ^ 122 gives another
one.
-/

namespace BareMetal.Text

/-- A number in a given count of lower-case hexadecimal digits. -/
def hexDigits (count number : Nat) : String :=
  let digits := Nat.toDigits 16 (number % Nat.pow 16 count)
  String.ofList (List.replicate (count - digits.length) '0' ++ digits)

/-- The version 4 UUID with the free bits of a number. -/
def uuid (number : Nat) : String :=
  let low := number % Nat.pow 2 62
  let middle := number / Nat.pow 2 62 % Nat.pow 2 12
  let high := number / Nat.pow 2 74 % Nat.pow 2 48
  hexDigits 8 (high / Nat.pow 2 16) ++ "-" ++ hexDigits 4 (high % Nat.pow 2 16) ++ "-4" ++
    hexDigits 3 middle ++ "-" ++ hexDigits 4 (0x8000 + low / Nat.pow 2 48) ++ "-" ++
    hexDigits 12 (low % Nat.pow 2 48)

/-- Whether a character is a lower-case hexadecimal digit. -/
def isHexDigit (c : Char) : Bool := c.isDigit || ('a' ≤ c && c ≤ 'f')

/-- Whether a text is a version 4 UUID in lower case. -/
def isUuid (text : String) : Bool :=
  let groups := text.splitOn "-"
  groups.map String.length == [8, 4, 4, 4, 12] &&
    groups.all (fun group => group.all isHexDigit) &&
    text.toList[14]? == some '4' &&
    text.toList[19]?.any fun c => c == '8' || c == '9' || c == 'a' || c == 'b'

end BareMetal.Text
