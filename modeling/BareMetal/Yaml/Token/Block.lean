import BareMetal.Yaml.Glyph

/-!
# Block scalars

A block scalar is made of the indented lines behind its mark.  The indentation is told by a digit
behind the mark, or else it is that of the first line that is not empty; a line that is indented
less ends the scalar.  A literal scalar keeps its line breaks, a folded one joins lines by blanks,
except beside lines that begin with a blank and where empty lines stand between.
-/

namespace BareMetal.Yaml

/-- What becomes of the line breaks at the end of a block scalar. -/
inductive Ending where
  /-- Only the first of them is kept. -/
  | clip
  /-- None of them is kept. -/
  | strip
  /-- All of them are kept. -/
  | keep
  deriving DecidableEq

/-- What is told behind the mark of a block scalar. -/
structure BlockHeader where
  /-- What becomes of the line breaks at the end. -/
  ending : Ending
  /-- How much deeper than the block around it the scalar is indented, if it is told. -/
  depth : Option Nat

/-- The ending that a text begins with, if it does, and what follows it. -/
def endingOf : List Glyph → Option Ending × List Glyph
  | ⟨'+', _, _, _⟩ :: rest => (some .keep, rest)
  | ⟨'-', _, _, _⟩ :: rest => (some .strip, rest)
  | text => (none, text)

/-- The depth that a text begins with, if it does, and what follows it.  It is not zero. -/
def depthOf? : List Glyph → Option (Option Nat × List Glyph)
  | glyph :: rest =>
      if glyph.char == '0' then none
      else if glyph.char.isDigit then some (some (glyph.char.toNat - '0'.toNat), rest)
      else some (none, glyph :: rest)
  | [] => some (none, [])

/-- The header of a block scalar and the lines behind it. -/
def blockHeader? (text : List Glyph) : Option (BlockHeader × List Glyph) := do
  let (first, text) := endingOf text
  let (depth, text) ← depthOf? text
  let (ending, text) := if first.isSome then (first, text) else endingOf text
  return (⟨ending.getD .clip, depth⟩, ← restOfLine? text)

/-- Empty lines and what follows them. -/
structure EmptyLines where
  /-- The line breaks. -/
  breaks : List Char
  /-- How far the widest of them is indented, or else the line behind them. -/
  width : Nat
  /-- What follows, without its indentation. -/
  rest : List Glyph

/-- The empty lines at the front of a text.  Lines are indented by blanks alone, as far as `indent`
says if it is known. -/
def emptyLines? (indent : Option Nat) : List Glyph → Option EmptyLines
  | [] => some ⟨[], 0, []⟩
  | glyph :: rest =>
      let isInside := indent.all fun indent => decide (glyph.column < indent)
      if isInside && glyph.char == ' ' then emptyLines? indent rest
      else if isInside && glyph.char == '\t' then none
      else if glyph.isBreak then
        (emptyLines? indent rest).map fun found =>
          ⟨glyph.char :: found.breaks, max glyph.column found.width, found.rest⟩
      else some ⟨[], glyph.column, glyph :: rest⟩

/-- What stands between two lines of a scalar: the line break `last` behind the first of them, the
breaks of the empty lines below, and whether one of the lines begins with a blank. -/
def jointOf (isFolded : Bool) (last empty : List Char) (isBeside : Bool) : List Char :=
  if isFolded && last == ['\n'] && !isBeside then (if empty.isEmpty then [' '] else empty)
  else last ++ empty

/-- The lines of a scalar that are indented by `indent`, behind a line that `last` ends, empty
lines and whether that line begins with a blank; and what follows the scalar. -/
def blockLines? (isFolded : Bool) (ending : Ending) (indent : Nat) :
    (steps : Nat) → (last empty : List Char) → (afterBlank : Bool) → List Glyph →
      Option (List Char × List Glyph)
  | 0, _, _, _, _ => none
  | steps + 1, last, empty, afterBlank, text =>
      if text.head?.any fun glyph => glyph.column == indent then do
        let beforeBlank := text.head?.any Glyph.isBlank
        let line := text.takeWhile fun glyph => !glyph.isBreak
        let rest := text.drop line.length
        let found ← emptyLines? (some indent) (rest.drop 1)
        let (more, after) ←
          blockLines? isFolded ending indent steps (chars (rest.take 1)) found.breaks beforeBlank
            found.rest
        return (jointOf isFolded last empty (afterBlank || beforeBlank) ++ chars line ++ more, after)
      else
        match ending with
        | .clip => some (last, text)
        | .strip => some ([], text)
        | .keep => some (last ++ empty, text)

/-- The block scalar behind its mark, and what follows it; `outer` is the indentation of the block
around it. -/
def blockText? (isFolded : Bool) (outer : Int) (text : List Glyph) :
    Option (List Char × List Glyph) := do
  let (header, text) ← blockHeader? text
  let told := header.depth.map fun depth => (max outer 0).toNat + depth
  let found ← emptyLines? told text
  let indent := told.getD (max found.width (max (outer + 1).toNat 1))
  blockLines? isFolded header.ending indent (text.length + 1) [] found.breaks false found.rest

end BareMetal.Yaml
