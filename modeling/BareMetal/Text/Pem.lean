import BareMetal.Text.Base64
import BareMetal.Text.Blank
import BareMetal.Text.Utf8

/-!
# PEM blocks

Octets in base 64 between a line that begins them and one that ends them, both with the same label.
Headers may stand in front of the octets, an empty line behind them.  What stands around the blocks
does not matter.
-/

namespace BareMetal.Text

/-- A block of octets with a label. -/
structure PemBlock where
  /-- What the octets are. -/
  label : String
  /-- The octets. -/
  octets : List UInt8
  deriving DecidableEq

namespace PemBlock

/-- What stands before a mark, reversed behind `before`, and behind it, where `left` of the mark is
still to come.  An octet that breaks a begun mark off does not begin another one. -/
def splitFrom (mark : List UInt8) : (left before : List UInt8) → List UInt8 →
    Option (List UInt8 × List UInt8)
  | [], before, text => some ((before.drop mark.length).reverse, text)
  | _ :: _, _, [] => none
  | wanted :: left, before, octet :: rest =>
      splitFrom mark (if octet = wanted then left else mark) (octet :: before) rest

/-- What stands before and behind the first mark in a text, if there is one. -/
def splitAt? (mark : String) (text : List UInt8) : Option (List UInt8 × List UInt8) :=
  splitFrom (encodeUtf8 mark.toList) (encodeUtf8 mark.toList) [] text

/-- A text without the blanks and line breaks at its front. -/
def skipGap (text : List UInt8) : List UInt8 :=
  text.dropWhile fun octet => [0x20, 0x09, 0x0a, 0x0d].contains octet.toNat

/-- A block as it stands in a text. -/
structure Spelled where
  /-- The label of the line that begins it. -/
  label : List UInt8
  /-- What stands between the lines. -/
  body : List UInt8
  /-- The label of the line that ends it. -/
  endLabel : List UInt8

/-- The first block of a text as it stands there, and what follows it. -/
def first? (text : List UInt8) : Option (Spelled × List UInt8) := do
  let (_, text) ← splitAt? "-----BEGIN " text
  let (label, text) ← splitAt? "-----" text
  let (body, text) ← splitAt? "-----END " (skipGap text)
  let (endLabel, text) ← splitAt? "-----" text
  return (⟨label, body, endLabel⟩, skipGap text)

/-- The text that octets spell in UTF-8. -/
def text? (octets : List UInt8) : Option (List Char) := (decodeUtf8 octets).toOption

/-- The lines of a text without the blanks at their ends. -/
def trimmedLines (text : List Char) : List (List Char) :=
  (text.splitOn '\n').map fun line => (trimFront line.reverse).reverse

/-- Whether lines are headers, each with a colon. -/
def areHeaders (lines : List (List Char)) : Bool :=
  match lines.getLast? with
  | some [] => lines.dropLast.all fun line => line.contains ':'
  | _ => lines.all fun line => line.contains ':'

/-- A block from the way it stands in a text. -/
def Spelled.read? (spelled : Spelled) : Option PemBlock := do
  let label ← text? spelled.label
  if label.isEmpty || spelled.endLabel != spelled.label then none
  let (headers, data) := (splitAt? "\n\n" spelled.body <|> splitAt? "\r\n\r\n" spelled.body).getD
    ([], spelled.body)
  if !headers.isEmpty && !areHeaders (trimmedLines (← text? headers)) then none
  return ⟨String.ofList label, ← decodeBase64 (trimmedLines (← text? data)).flatten⟩

/-- All blocks of a text as they stand there. -/
def spelledIn : (steps : Nat) → List UInt8 → List Spelled
  | 0, _ => []
  | steps + 1, text =>
      match first? text with
      | some (spelled, rest) => spelled :: spelledIn steps rest
      | none => []

/-- The blocks of a text, if each of them is well-formed. -/
def allIn? (text : List UInt8) : Option (List PemBlock) :=
  (spelledIn (text.length + 1) text).mapM Spelled.read?

end PemBlock

end BareMetal.Text
