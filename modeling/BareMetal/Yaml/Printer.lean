import BareMetal.Json.Printer
import BareMetal.Yaml.Scalar

/-!
# Writing YAML

Objects and lists in block style: two more spaces for each level of objects, a dash before each
item of a list, and a list in an object no further to the right than the object.  Texts stand
without quotes wherever they can, and are never cut.
-/

namespace BareMetal.Yaml

/-! ## Scalars -/

/-- Words that some readers take for truth values. -/
def isSwitch (text : String) : Bool :=
  ["y", "n", "yes", "no", "on", "off", "true", "false", "null"].contains text.toLower

/-- The characters that have a meaning of their own at the start of a scalar. -/
def isIndicator (c : Char) : Bool := "#,[]\x7b\x7d&*!|>'\"%@`".toList.contains c

/-- Whether the front of a text can stand at the start of a scalar. -/
def startsPlainly : List Char → Bool
  | [] => false
  | ['-'] | ['?'] | [':'] => false
  | '-' :: '-' :: '-' :: _ => false
  | '.' :: '.' :: '.' :: _ => false
  | first :: second :: _ =>
      !isIndicator first &&
        !((first == '-' || first == '?' || first == ':') && second == ' ') && first != ' '
  | [first] => !isIndicator first && first != ' '

/-- Whether no colon in a text ends a key and no number sign begins a comment. -/
def hasNoBreak : List Char → Bool
  | [] => true
  | [last] => last != ':' && last != ' '
  | first :: second :: rest =>
      !(first == ':' && second == ' ') && !(first == ' ' && second == '#') &&
        hasNoBreak (second :: rest)

/-- Whether a character can be shown as it is. -/
def isShown (c : Char) : Bool :=
  let code := c.toNat
  (0x20 ≤ code && code < 0x7f) || code == 0x85 || (0xa0 ≤ code && code != 0xfeff &&
    !(0x2028 ≤ code && code ≤ 0x2029) && code % 0x10000 < 0xfffe)

/-- Whether a text can stand without quotes. -/
def canBePlain (text : String) : Bool :=
  Scalar.standsForItself text && !isSwitch text && startsPlainly text.toList && hasNoBreak text.toList

/-- A text between single quotes, each quote in it written twice. -/
def inSingleQuotes (text : String) : String := "'" ++ text.replace "'" "''" ++ "'"

/-- A text with the fewest quotes it needs. -/
def writeText (text : String) : String :=
  if !text.toList.all isShown then Json.writeText text
  else if canBePlain text then text
  else inSingleQuotes text

/-! ## Blocks -/

/-- The text of a value that fits on the line of its key. -/
def inline? : Json → Option String
  | .arr [] => some "[]"
  | .obj [] => some "\x7b\x7d"
  | .arr _ => none
  | .obj _ => none
  | .str text => some (writeText text)
  | scalar => some scalar.write

/-- Lines put further to the right, the first of them behind a mark as wide. -/
def hang (mark : String) : List String → List String
  | [] => []
  | first :: rest => (mark ++ first) :: rest.map fun line => "  " ++ line

/-- The lines of a value behind its key, given the lines of the value. -/
def nest (value : Json) (lines : List String) : List String :=
  match value with
  | .obj _ => lines.map fun line => "  " ++ line
  | _ => lines

mutual

/-- The lines of a value. -/
def lines : Json → List String
  | .arr (item :: rest) => itemLines (item :: rest)
  | .obj (member :: rest) => memberLines (member :: rest)
  | value => (inline? value).toList

/-- The lines of the items of a list. -/
def itemLines : List Json → List String
  | [] => []
  | item :: rest => hang "- " (lines item) ++ itemLines rest

/-- The lines of the members of an object. -/
def memberLines : List (String × Json) → List String
  | [] => []
  | (name, value) :: rest =>
      (match inline? value with
      | some text => [writeText name ++ ": " ++ text]
      | none => (writeText name ++ ":") :: nest value (lines value)) ++ memberLines rest

end

/-- A value as a document of a stream of documents. -/
def document (json : Json) : String :=
  "---\n" ++ String.join ((lines json).map fun line => line ++ "\n")

end BareMetal.Yaml
