import BareMetal.Text.Combining
import BareMetal.Text.Unprintable

/-!
# Quoted texts

Messages show a text between double quotes so that every character of it can be told: quotes and
backslashes are escaped, and a character without a printed form of its own is given by its code
point.
-/

namespace BareMetal.Text

/-- The digits of a number in lower-case hexadecimal. -/
def hex (number : Nat) : String := String.ofList (Nat.toDigits 16 number)

/-- The form of one character between double quotes. -/
def quoteChar (c : Char) : String :=
  if c = '"' then "\\\""
  else if c = '\\' then "\\\\"
  else if c = '\n' then "\\n"
  else if c = '\r' then "\\r"
  else if c = '\t' then "\\t"
  else if c.toNat = 0 then "\\0"
  else if isCombining c || isUnprintable c then "\\u\x7b" ++ hex c.toNat ++ "\x7d"
  else c.toString

/-- A text between double quotes. -/
def quote (text : String) : String :=
  "\"" ++ String.join (text.toList.map quoteChar) ++ "\""

/-- A list of texts: quoted, separated by commas, in square brackets. -/
def quoteList (texts : List String) : String :=
  "[" ++ ", ".intercalate (texts.map quote) ++ "]"

end BareMetal.Text
