import BareMetal.Yaml.Glyph
import BareMetal.Yaml.Scalar

/-!
# Scalars that flow over lines

A scalar without quotes, or between single or double quotes, consists of words with gaps between
them.  A gap within a line stands for itself.  A gap with line breaks is folded: one break stands
for a blank, and of several the first stands for nothing and the others for themselves; blanks
beside the breaks do not count.
-/

namespace BareMetal.Yaml

/-- What line breaks stand for where a scalar flows on behind them. -/
def folded : List Char → List Char
  | ['\n'] => [' ']
  | '\n' :: more => more
  | breaks => breaks

/-- The line breaks of a gap. -/
def breaksOf (gap : List Glyph) : List Char := chars (gap.filter Glyph.isBreak)

/-- What a gap between words stands for. -/
def gapText (gap : List Glyph) : List Char :=
  if gap.any Glyph.isBreak then folded (breaksOf gap) else chars gap

/-- The gap at the front of a text. -/
def gapOf (text : List Glyph) : List Glyph := text.takeWhile Glyph.isGap

/-! ## Without quotes -/

/-- The characters that have a meaning of their own among brackets. -/
def isFlowMark (c : Char) : Bool := ",[]\x7b\x7d".toList.contains c

/-- The word at the front of a text, and what follows it.  Among brackets, a colon in front of a
bracket, a comma or a question mark is refused. -/
def plainWord (inFlow : Bool) : List Glyph → Option (List Char × List Glyph)
  | [] => some ([], [])
  | glyph :: rest =>
      if glyph.isGap then some ([], glyph :: rest)
      else if glyph.char == ':' && endsWord rest then some ([], glyph :: rest)
      else if inFlow && glyph.char == ':' &&
          (chars (rest.take 1)).any fun c => isFlowMark c || c == '?' then none
      else if inFlow && isFlowMark glyph.char then some ([], glyph :: rest)
      else (plainWord inFlow rest).map fun (word, after) => (glyph.char :: word, after)

/-- Whether a tab in a gap stands where indentation is expected, `indent` being that of the block
around the scalar. -/
def hasMisplacedTab (indent : Int) (gap : List Glyph) : Bool :=
  (gap.dropWhile fun glyph => !glyph.isBreak).any fun glyph =>
    glyph.char == '\t' && (glyph.column : Int) ≤ indent

/-- A scalar without quotes. -/
structure PlainText where
  /-- What it spells. -/
  chars : List Char
  /-- Whether the line ends behind it. -/
  endsLine : Bool
  /-- What follows it and the gap behind it. -/
  rest : List Glyph

/-- The scalar at the front of a text, where `front` stands for the gap before the next word.  In a
block, the scalar ends in front of a line that is not indented deeper than the block. -/
def plainText? (inFlow : Bool) (indent : Int) :
    (steps : Nat) → (gap : List Glyph) → List Glyph → Option PlainText
  | 0, _, _ => none
  | steps + 1, gap, text =>
      let ended : PlainText := ⟨[], gap.any Glyph.isBreak, text⟩
      if beginsDocument text || endsDocument text || chars (text.take 1) == ['#'] then some ended
      else do
        let (word, rest) ← plainWord inFlow text
        if word.isEmpty then return ended
        let word := gapText gap ++ word
        let next := gapOf rest
        if next.isEmpty then return ⟨word, false, rest⟩
        if hasMisplacedTab indent next then none
        let rest := rest.drop next.length
        let isOver := !inFlow && rest.head?.any fun glyph => (glyph.column : Int) ≤ indent
        if isOver then return ⟨word, next.any Glyph.isBreak, rest⟩
        let more ← plainText? inFlow indent steps next rest
        return { more with chars := word ++ more.chars }

/-! ## Between single quotes -/

/-- The characters up to the closing quote, which is written twice inside, and what follows it. -/
def singleQuoted : (steps : Nat) → List Glyph → Option (List Char × List Glyph)
  | 0, _ => none
  | _ + 1, [] => none
  | steps + 1, glyph :: rest =>
      let text := glyph :: rest
      if beginsDocument text || endsDocument text then none
      else if glyph.char == '\'' then
        match rest with
        | ⟨'\'', _, _, _⟩ :: rest => do
            let (more, after) ← singleQuoted steps rest
            return ('\'' :: more, after)
        | rest => some ([], rest)
      else if glyph.isGap then do
        let gap := gapOf text
        let (more, after) ← singleQuoted steps (text.drop gap.length)
        return (gapText gap ++ more, after)
      else do
        let (more, after) ← singleQuoted steps rest
        return (glyph.char :: more, after)

/-! ## Between double quotes -/

/-- The character that a backslash and another character stand for. -/
def escaped? : Char → Option Char
  | '0' => some (Char.ofNat 0)
  | 'a' => some (Char.ofNat 0x7)
  | 'b' => some (Char.ofNat 0x8)
  | 't' | '\t' => some '\t'
  | 'n' => some '\n'
  | 'v' => some (Char.ofNat 0xb)
  | 'f' => some (Char.ofNat 0xc)
  | 'r' => some '\r'
  | 'e' => some (Char.ofNat 0x1b)
  | ' ' => some ' '
  | '"' => some '"'
  | '/' => some '/'
  | '\\' => some '\\'
  | 'N' => some (Char.ofNat 0x85)
  | '_' => some (Char.ofNat 0xa0)
  | 'L' => some (Char.ofNat 0x2028)
  | 'P' => some (Char.ofNat 0x2029)
  | _ => none

/-- How many hexadecimal digits follow a backslash and a letter that give a character by its
number. -/
def digitsBehind? : Char → Option Nat
  | 'x' => some 2
  | 'u' => some 4
  | 'U' => some 8
  | _ => none

/-- The character whose number the given digits spell, if it is one. -/
def numbered? (digits : List Char) : Option Char := do
  let code ← Scalar.inBase? 16 digits
  if code < 0x110000 ∧ ¬(0xd800 ≤ code ∧ code < 0xe000) then return Char.ofNat code else none

/-- The character that a text behind a backslash stands for, and what follows it. -/
def escape? : List Glyph → Option (Char × List Glyph)
  | [] => none
  | glyph :: rest =>
      match digitsBehind? glyph.char with
      | none => (escaped? glyph.char).map fun c => (c, rest)
      | some count => do
          let digits := chars (rest.take count)
          if digits.length < count then none
          return (← numbered? digits, rest.drop count)

/-- The characters up to the closing quote, and what follows it.  A backslash at the end of a line
takes the line break away, and the blanks on the next line too. -/
def doubleQuoted : (steps : Nat) → List Glyph → Option (List Char × List Glyph)
  | 0, _ => none
  | _ + 1, [] => none
  | steps + 1, glyph :: rest =>
      let text := glyph :: rest
      if beginsDocument text || endsDocument text then none
      else if glyph.char == '"' then some ([], rest)
      else if glyph.char == '\\' then
        if (rest.take 1).any Glyph.isBreak then do
          let behind := rest.drop 1
          let gap := gapOf behind
          let (more, after) ← doubleQuoted steps (behind.drop gap.length)
          return (breaksOf gap ++ more, after)
        else do
          let (c, rest) ← escape? rest
          let (more, after) ← doubleQuoted steps rest
          return (c :: more, after)
      else if glyph.isGap then do
        let gap := gapOf text
        let (more, after) ← doubleQuoted steps (text.drop gap.length)
        return (gapText gap ++ more, after)
      else do
        let (more, after) ← doubleQuoted steps rest
        return (glyph.char :: more, after)

end BareMetal.Yaml
