/-!
# Characters in their places

A YAML text as a list of characters, each with the place where it stands, since indentation and
line ends take part in the meaning of a text.  Of the ways to end a line, the separators of lines
and of paragraphs keep their difference; all others are read as the same line break.
-/

namespace BareMetal.Yaml

/-- A character of a text with its place. -/
structure Glyph where
  /-- The character. -/
  char : Char
  /-- How many lines end before it. -/
  line : Nat
  /-- How many characters of its line stand before it. -/
  column : Nat
  /-- How many characters of the text stand before it. -/
  index : Nat

/-- The mark of the order of octets, which may stand in front of a line. -/
def byteOrderMark : Char := Char.ofNat 0xfeff

/-- Whether a character separates lines or paragraphs and does nothing else. -/
def isSeparator (c : Char) : Bool := c.toNat == 0x2028 || c.toNat == 0x2029

/-- Whether a character ends a line. -/
def isBreak (c : Char) : Bool := c == '\n' || c == '\r' || c.toNat == 0x85 || isSeparator c

/-- Whether a character may stand in a YAML text. -/
def mayStand (c : Char) : Bool :=
  let code := c.toNat
  code == 0x9 || code == 0xa || code == 0xd || (0x20 ≤ code && code ≤ 0x7e) || code == 0x85 ||
    (0xa0 ≤ code && code ≤ 0xfffd) || 0x10000 ≤ code

/-- Whether a character may stand in names: a letter or a digit of ASCII, or a stroke. -/
def isNameChar (c : Char) : Bool := c.isAlphanum || c == '_' || c == '-'

namespace Glyph

/-- Whether a character ends a line. -/
def isBreak (glyph : Glyph) : Bool := Yaml.isBreak glyph.char

/-- Whether a character is a blank within a line. -/
def isBlank (glyph : Glyph) : Bool := glyph.char == ' ' || glyph.char == '\t'

/-- Whether a character stands between words. -/
def isGap (glyph : Glyph) : Bool := glyph.isBlank || glyph.isBreak

/-- Characters in their places, the first of which stands at the given place. -/
def place (line column index : Nat) : List Char → List Glyph
  | [] => []
  | '\r' :: '\n' :: rest => ⟨'\n', line, column, index⟩ :: place (line + 1) 0 (index + 2) rest
  | c :: rest =>
      if Yaml.isBreak c then
        ⟨if isSeparator c then c else '\n', line, column, index⟩ ::
          place (line + 1) 0 (index + 1) rest
      else ⟨c, line, column, index⟩ :: place line (column + 1) (index + 1) rest

/-- The characters of a text in their places, if all of them may stand in a YAML text. -/
def ofText? (text : List Char) : Option (List Glyph) :=
  if text.all mayStand then some (place 0 0 0 text) else none

end Glyph

/-- Whether a word ends in front of a text. -/
def endsWord : List Glyph → Bool
  | [] => true
  | glyph :: _ => glyph.isGap

/-- Whether a line ends in front of a text. -/
def endsLine : List Glyph → Bool
  | [] => true
  | glyph :: _ => glyph.isBreak

/-- Whether a text begins with the mark that three equal characters at the beginning of a line
make. -/
def beginsWithMark (c : Char) : List Glyph → Bool
  | first :: second :: third :: rest =>
      first.column == 0 && first.char == c && second.char == c && third.char == c && endsWord rest
  | _ => false

/-- Whether a text begins with the mark of the start of a document. -/
def beginsDocument (text : List Glyph) : Bool := beginsWithMark '-' text

/-- Whether a text begins with the mark of the end of a document. -/
def endsDocument (text : List Glyph) : Bool := beginsWithMark '.' text

/-- The characters without their places. -/
def chars (glyphs : List Glyph) : List Char := glyphs.map Glyph.char

/-- A text without the blanks at its front. -/
def skipBlanks (text : List Glyph) : List Glyph := text.dropWhile Glyph.isBlank

/-- A text without the blanks and the comment at its front, if nothing else stands on the line. -/
def restOfLine? (text : List Glyph) : Option (List Glyph) :=
  let text := skipBlanks text
  let text := match text with
    | ⟨'#', _, _, _⟩ :: _ => text.dropWhile fun glyph => !glyph.isBreak
    | text => text
  if endsLine text then some (text.drop 1) else none

end BareMetal.Yaml
