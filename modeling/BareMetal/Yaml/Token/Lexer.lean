import BareMetal.Yaml.Token.Block
import BareMetal.Yaml.Token.Marks
import BareMetal.Yaml.Token.Words

/-!
# Finding tokens

A text is read from its front.  Blocks begin and end with the indentation of what stands in them.
A key without a mark is known as one only when its colon is found; so the reader keeps in mind
where such a key may have begun, and marks it there afterwards.  It has to end on its line, with
its colon at most 1024 characters behind its beginning.
-/

namespace BareMetal.Yaml

/-- How long a key without a mark may be. -/
def mostKeyLength : Nat := 1024

/-- Where a key without a mark may have begun. -/
structure KeyPlace where
  /-- It has to be a key, since nothing else may stand there. -/
  isRequired : Bool
  /-- How many tokens stand before it. -/
  tokens : Nat
  /-- Its first character. -/
  glyph : Glyph

/-- Whether a key that began at a place may end in front of a character. -/
def KeyPlace.reaches (place : KeyPlace) (glyph : Glyph) : Bool :=
  place.glyph.line == glyph.line && glyph.index ≤ place.glyph.index + mostKeyLength

/-- What a reader of tokens keeps in mind. -/
structure Lexer where
  /-- The tokens found so far. -/
  tokens : Array Token := #[]
  /-- The indentation of the innermost block, less than zero outside of all blocks. -/
  indent : Int := -1
  /-- The indentations of the blocks around it, innermost first. -/
  outer : List Int := []
  /-- Whether a key without a mark may begin here. -/
  mayBeKey : Bool := true
  /-- Where such a key may have begun within the innermost brackets. -/
  place : Option KeyPlace := none
  /-- The same within the brackets around them, innermost first. -/
  places : List (Option KeyPlace) := []

namespace Lexer

/-- Whether a bracket is open. -/
def inFlow (lexer : Lexer) : Bool := !lexer.places.isEmpty

/-- Adds a token. -/
def emit (lexer : Lexer) (token : Token) : Lexer :=
  { lexer with tokens := lexer.tokens.push token }

/-- A place without the key that can no longer have begun there, unless there has to be one. -/
def stillPossible? (glyph : Glyph) : Option KeyPlace → Option (Option KeyPlace)
  | none => some none
  | some place =>
      if place.reaches glyph then some (some place)
      else if place.isRequired then none
      else some none

/-- Gives up the keys that do not reach a character. -/
def forget? (lexer : Lexer) (glyph : Glyph) : Option Lexer := do
  return { lexer with
    place := ← stillPossible? glyph lexer.place
    places := ← lexer.places.mapM (stillPossible? glyph) }

/-- Gives up the key that may have begun within the innermost brackets. -/
def giveUp? (lexer : Lexer) : Option Lexer :=
  if lexer.place.any KeyPlace.isRequired then none else some { lexer with place := none }

/-- Keeps in mind that a key may begin at a character. -/
def note? (lexer : Lexer) (glyph : Glyph) : Option Lexer :=
  if lexer.mayBeKey then do
    let isRequired := !lexer.inFlow && lexer.indent == (glyph.column : Int)
    return { ← lexer.giveUp? with place := some ⟨isRequired, lexer.tokens.size, glyph⟩ }
  else some lexer

/-- Ends the blocks that are indented deeper than a column, `outer` holding the indentations of
those around the innermost. -/
def closeBlocks (column : Int) (lexer : Lexer) : (outer : List Int) → Lexer
  | [] => lexer
  | indent :: outer =>
      if column < lexer.indent then
        closeBlocks column { lexer.emit .blockEnd with indent, outer } outer
      else lexer

/-- Ends the blocks that are indented deeper than a column. -/
def outdent (lexer : Lexer) (column : Int) : Lexer :=
  if lexer.inFlow then lexer else closeBlocks column lexer lexer.outer

/-- Begins a block in front of the token at an index, if it is indented deeper than the block
around it. -/
def openBlock (lexer : Lexer) (column index : Nat) (token : Token) : Lexer :=
  if lexer.inFlow || (column : Int) ≤ lexer.indent then lexer
  else { lexer with
    tokens := lexer.tokens.insertIdxIfInBounds index token
    indent := column
    outer := lexer.indent :: lexer.outer }

/-- Begins a block here, if it is indented deeper than the block around it. -/
def openHere (lexer : Lexer) (column : Nat) (token : Token) : Lexer :=
  lexer.openBlock column lexer.tokens.size token

/-! ## Tokens one by one -/

/-- A mark or directive of documents, in front of which all blocks end. -/
def atMargin? (lexer : Lexer) (token : Token) : Option Lexer := do
  let lexer ← (lexer.outdent (-1)).giveUp?
  return { lexer.emit token with mayBeKey := false }

/-- An opening bracket. -/
def openFlow? (lexer : Lexer) (glyph : Glyph) (token : Token) : Option Lexer := do
  let lexer ← lexer.note? glyph
  return { lexer.emit token with
    mayBeKey := true, place := none, places := lexer.place :: lexer.places }

/-- A closing bracket. -/
def closeFlow? (lexer : Lexer) (token : Token) : Option Lexer := do
  let lexer := { ← lexer.giveUp? with mayBeKey := false }
  match lexer.places with
  | [] => return lexer.emit token
  | place :: places => return { lexer.emit token with place, places }

/-- A comma between brackets. -/
def comma? (lexer : Lexer) : Option Lexer := do
  return { (← lexer.giveUp?).emit .comma with mayBeKey := true }

/-- A mark that opens a block where a key may begin. -/
def blockMark? (lexer : Lexer) (glyph : Glyph) (block : Token) : Option Lexer :=
  if lexer.inFlow then some lexer
  else if lexer.mayBeKey then some (lexer.openHere glyph.column block)
  else none

/-- The dash in front of an item. -/
def item? (lexer : Lexer) (glyph : Glyph) : Option Lexer := do
  let lexer ← (← lexer.blockMark? glyph .blockSequence).giveUp?
  return { lexer.emit .item with mayBeKey := true }

/-- The mark in front of a key. -/
def key? (lexer : Lexer) (glyph : Glyph) : Option Lexer := do
  let lexer ← (← lexer.blockMark? glyph .blockMapping).giveUp?
  return { lexer.emit .key with mayBeKey := !lexer.inFlow }

/-- The colon in front of a value.  A key that may have begun before it is one. -/
def value? (lexer : Lexer) (glyph : Glyph) : Option Lexer :=
  match lexer.place with
  | some place =>
      let marked := { lexer with tokens := lexer.tokens.insertIdxIfInBounds place.tokens .key }
      let lexer := marked.openBlock place.glyph.column place.tokens .blockMapping
      some { lexer.emit .value with mayBeKey := false, place := none }
  | none => do
      let lexer ← lexer.blockMark? glyph .blockMapping
      return { lexer.emit .value with mayBeKey := !lexer.inFlow }

/-- A token that may be part of a key. -/
def part? (lexer : Lexer) (glyph : Glyph) (token : Token) : Option Lexer := do
  return { (← lexer.note? glyph).emit token with mayBeKey := false }

/-- A block scalar behind its mark, and what follows it. -/
def block? (lexer : Lexer) (isFolded : Bool) (rest : List Glyph) :
    Option (Lexer × List Glyph) := do
  let lexer ← lexer.giveUp?
  let (text, rest) ← blockText? isFolded lexer.indent rest
  return ({ lexer.emit (.scalar (String.ofList text) false) with mayBeKey := true }, rest)

/-- A scalar without quotes, and what follows it. -/
def plain? (lexer : Lexer) (glyph : Glyph) (text : List Glyph) : Option (Lexer × List Glyph) := do
  let found ← plainText? lexer.inFlow lexer.indent (text.length + 1) [] text
  let lexer ← lexer.part? glyph (.scalar (String.ofList found.chars) true)
  return ({ lexer with mayBeKey := found.endsLine }, found.rest)

/-- A scalar between quotes, and what follows it. -/
def quoted? (lexer : Lexer) (glyph : Glyph) (found : Option (List Char × List Glyph)) :
    Option (Lexer × List Glyph) := do
  let (text, rest) ← found
  return (← lexer.part? glyph (.scalar (String.ofList text) false), rest)

/-- Whether no scalar without quotes may begin with a character, whatever follows it. -/
def isReserved (c : Char) : Bool := "-?:,[]\x7b\x7d#&*!|>'\"%@`".toList.contains c

/-- The token at the front of a text, and what follows it. -/
def next? (lexer : Lexer) (glyph : Glyph) (rest : List Glyph) : Option (Lexer × List Glyph) :=
  let text := glyph :: rest
  let single (lexer : Option Lexer) := lexer.map fun lexer => (lexer, rest)
  if glyph.column == 0 && glyph.char == '%' then do
    let lexer ← (lexer.outdent (-1)).giveUp?
    let (token, rest) ← directive? rest
    return ({ lexer.emit token with mayBeKey := false }, rest)
  else if beginsDocument text then (lexer.atMargin? .documentStart).map (·, rest.drop 2)
  else if endsDocument text then (lexer.atMargin? .documentEnd).map (·, rest.drop 2)
  else
    match glyph.char with
    | '[' => single (lexer.openFlow? glyph .openSequence)
    | '{' => single (lexer.openFlow? glyph .openMapping)
    | ']' => single (lexer.closeFlow? .closeSequence)
    | '}' => single (lexer.closeFlow? .closeMapping)
    | ',' => single lexer.comma?
    | '-' => if endsWord rest then single (lexer.item? glyph) else lexer.plain? glyph text
    | '?' =>
        if lexer.inFlow || endsWord rest then single (lexer.key? glyph)
        else lexer.plain? glyph text
    | ':' =>
        if lexer.inFlow || endsWord rest then single (lexer.value? glyph)
        else lexer.plain? glyph text
    | '*' => do
        let (name, rest) ← anchorName? rest
        return (← lexer.part? glyph (.reference name), rest)
    | '&' => do
        let (name, rest) ← anchorName? rest
        return (← lexer.part? glyph (.anchor name), rest)
    | '!' => do
        let (token, rest) ← tag? lexer.inFlow rest
        return (← lexer.part? glyph token, rest)
    | '|' => if lexer.inFlow then none else lexer.block? false rest
    | '>' => if lexer.inFlow then none else lexer.block? true rest
    | '\'' => lexer.quoted? glyph (singleQuoted (rest.length + 1) rest)
    | '"' => lexer.quoted? glyph (doubleQuoted (rest.length + 1) rest)
    | c => if isReserved c || glyph.isGap then none else lexer.plain? glyph text

/-! ## The whole text -/

/-- A text without the blanks, comments and line ends at its front, and whether a key may begin
behind them.  A key may begin on each new line outside of brackets; where one may begin, a tab is
no blank. -/
def skip (inFlow : Bool) : (mayBeKey inComment : Bool) → List Glyph → Bool × List Glyph
  | mayBeKey, _, [] => (mayBeKey, [])
  | mayBeKey, inComment, glyph :: rest =>
      if glyph.isBreak then skip inFlow (mayBeKey || !inFlow) false rest
      else if inComment || glyph.char == '#' then skip inFlow mayBeKey true rest
      else if glyph.char == ' ' || (glyph.char == '\t' && (inFlow || !mayBeKey)) ||
          (glyph.char == byteOrderMark && glyph.column == 0) then skip inFlow mayBeKey false rest
      else (mayBeKey, glyph :: rest)

/-- Reads a text to its end. -/
def run? : (steps : Nat) → Lexer → List Glyph → Option Lexer
  | 0, _, _ => none
  | steps + 1, lexer, text =>
      match skip lexer.inFlow lexer.mayBeKey false text with
      | (_, []) => (lexer.outdent (-1)).giveUp?
      | (mayBeKey, glyph :: rest) => do
          let lexer ← { lexer with mayBeKey }.forget? glyph
          let (lexer, rest) ← (lexer.outdent glyph.column).next? glyph rest
          run? steps lexer rest

end Lexer

/-- The tokens of a text. -/
def tokens? (text : String) : Option (List Token) := do
  let glyphs ← Glyph.ofText? text.toList
  return (← Lexer.run? (glyphs.length + 1) {} glyphs).tokens.toList

end BareMetal.Yaml
