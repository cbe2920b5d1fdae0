import BareMetal.Text.Utf8
import BareMetal.Yaml.Glyph
import BareMetal.Yaml.Scalar
import BareMetal.Yaml.Token

/-!
# Tags, anchors and directives

The marks that stand in front of nodes and documents.  The text of a tag is in the characters of
URLs, with escapes for the octets of all others.
-/

namespace BareMetal.Yaml

/-! ## Texts of tags -/

/-- Whether a character may stand in a tag. -/
def isTagChar (c : Char) : Bool := isNameChar c || ";/?:@&=+$.!~*'()".toList.contains c

/-- How many octets follow one that begins a character. -/
def octetsBehind? (octet : Nat) : Option Nat :=
  if octet < 0x80 then some 0
  else if 0xc0 ≤ octet ∧ octet < 0xe0 then some 1
  else if 0xe0 ≤ octet ∧ octet < 0xf0 then some 2
  else if 0xf0 ≤ octet ∧ octet < 0xf8 then some 3
  else none

/-- The octets that the front of a text spells as part of a tag, where `owed` of an escaped
character are still to come, and what follows them.  Commas and brackets may stand in a tag if it
`isEnclosed`. -/
def tagOctets (isEnclosed : Bool) : (owed : Nat) → List Glyph → Option (List UInt8 × List Glyph)
  | owed, ⟨'%', _, _, _⟩ :: high :: low :: rest => do
      let octet ← Scalar.inBase? 16 [high.char, low.char]
      let owed ←
        if owed = 0 then octetsBehind? octet
        else if 0x80 ≤ octet ∧ octet < 0xc0 then some (owed - 1)
        else none
      let (octets, after) ← tagOctets isEnclosed owed rest
      return (UInt8.ofNat octet :: octets, after)
  | 0, glyph :: rest =>
      if glyph.char == '%' then none
      else if isTagChar glyph.char || (isEnclosed && ",[]".toList.contains glyph.char) then do
        let (octets, after) ← tagOctets isEnclosed 0 rest
        return (Text.encodeChar glyph.char ++ octets, after)
      else some ([], glyph :: rest)
  | 0, [] => some ([], [])
  | _ + 1, _ => none

/-- The text that the front of a text spells as part of a tag, and what follows it. -/
def tagText? (isEnclosed : Bool) (text : List Glyph) : Option (String × List Glyph) :=
  (tagOctets isEnclosed 0 text).map fun (octets, after) =>
    (String.ofList (Text.readUtf8 octets), after)

/-- The same where the text of a tag has to be given. -/
def givenTagText? (isEnclosed : Bool) (text : List Glyph) : Option (String × List Glyph) := do
  let (found, after) ← tagText? isEnclosed text
  if found.isEmpty then none else return (found, after)

/-- The name at the front of a text, and what follows it. -/
def nameOf (text : List Glyph) : String × List Glyph :=
  let name := text.takeWhile fun glyph => isNameChar glyph.char
  (String.ofList (chars name), text.drop name.length)

/-! ## Tags and anchors -/

/-- A tag behind its exclamation mark, and what follows it: the text of it between angle brackets,
or a handle between exclamation marks and the rest of it, or the rest of it alone.  An exclamation
mark alone is a tag of its own. -/
def tagBehind? : List Glyph → Option (Token × List Glyph)
  | ⟨'<', _, _, _⟩ :: text => do
      match ← givenTagText? true text with
      | (found, ⟨'>', _, _, _⟩ :: rest) => return (.tag "" found, rest)
      | _ => none
  | text => do
      let (name, rest) := nameOf text
      match rest with
      | ⟨'!', _, _, _⟩ :: rest => do
          let (found, rest) ← givenTagText? false rest
          return (.tag ("!" ++ name ++ "!") found, rest)
      | rest => do
          let (found, rest) ← tagText? false rest
          let tag := name ++ found
          return (if tag.isEmpty then .tag "" "!" else .tag "!" tag, rest)

/-- A tag behind its exclamation mark.  A gap or, among brackets, a comma ends it. -/
def tag? (inFlow : Bool) (text : List Glyph) : Option (Token × List Glyph) := do
  let (token, rest) ← tagBehind? text
  if endsWord rest || (inFlow && chars (rest.take 1) == [',']) then return (token, rest) else none

/-- Whether a character may stand right behind the name of an anchor. -/
def mayFollowName (c : Char) : Bool := "?:,]\x7d%@`".toList.contains c

/-- The name of an anchor behind its mark, and what follows it. -/
def anchorName? (text : List Glyph) : Option (String × List Glyph) :=
  let (name, rest) := nameOf text
  if !name.isEmpty && (endsWord rest || (chars (rest.take 1)).all mayFollowName) then
    some (name, rest)
  else none

/-! ## Directives -/

/-- How many digits a number in a directive may have. -/
def mostDigits : Nat := 9

/-- The number at the front of a text, and what follows it. -/
def versionNumber? (text : List Glyph) : Option (Nat × List Glyph) :=
  let digits := text.takeWhile fun glyph => glyph.char.isDigit
  if 0 < digits.length ∧ digits.length ≤ mostDigits then
    some (Json.ofDigits (chars digits), text.drop digits.length)
  else none

/-- A handle behind its exclamation mark in a directive, and what follows it. -/
def directiveHandle? (text : List Glyph) : Option (String × List Glyph) :=
  let (name, rest) := nameOf text
  match rest with
  | ⟨'!', _, _, _⟩ :: rest => some ("!" ++ name ++ "!", rest)
  | rest => if name.isEmpty then some ("!", rest) else none

/-- What the directive of a name says, and what follows it on the line. -/
def directiveValue? (name : String) (text : List Glyph) : Option (Token × List Glyph) := do
  match name, skipBlanks text with
  | "YAML", text => do
      match ← versionNumber? text with
      | (major, ⟨'.', _, _, _⟩ :: rest) => do
          let (minor, rest) ← versionNumber? rest
          return (.version major minor, rest)
      | _ => none
  | "TAG", ⟨'!', _, _, _⟩ :: text => do
      let (handle, rest) ← directiveHandle? text
      if (rest.take 1).any Glyph.isBlank then do
        let (front, rest) ← givenTagText? true (skipBlanks rest)
        if endsWord rest then return (.handle handle front, rest) else none
      else none
  | _, _ => none

/-- A directive behind its percent sign, and the lines behind it. -/
def directive? (text : List Glyph) : Option (Token × List Glyph) := do
  let (name, rest) := nameOf text
  if endsWord rest then do
    let (token, rest) ← directiveValue? name rest
    return (token, ← restOfLine? rest)
  else none

end BareMetal.Yaml
