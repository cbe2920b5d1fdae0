import BareMetal.Yaml.Node.Parser
import BareMetal.Yaml.Scalar
import BareMetal.Yaml.Token.Lexer

/-!
# Values of YAML texts

What a document stands for once its references are followed.  Keys are values of any kind, no two
of a mapping the same.  Tags of the core of YAML say what a scalar is to be read as; a tag that
begins with an exclamation mark stays with its value.  Values lie at most 128 deep inside others,
and references are followed at most a hundred times for each part of the document, so that a short
text does not grow without bounds.
-/

namespace BareMetal.Yaml

/-- What a YAML document stands for. -/
inductive Value where
  /-- A scalar. -/
  | scalar (scalar : Scalar)
  /-- A sequence. -/
  | sequence (items : List Value)
  /-- A mapping from keys to values. -/
  | mapping (entries : List (Value × Value))
  /-- A value with a tag of its own. -/
  | tagged (tag : String) (value : Value)

namespace Value

/-! ## Equality -/

mutual

/-- Whether two values are the same; the order of a mapping does not count. -/
def isSame : Value → Value → Bool
  | scalar first, scalar second => first = second
  | sequence first, sequence second => areSame first second
  | mapping first, mapping second => first.length == second.length && areAmong first second
  | tagged first value, tagged second other => first = second && isSame value other
  | _, _ => false

/-- Whether two lists hold the same values in the same order. -/
def areSame : List Value → List Value → Bool
  | [], [] => true
  | first :: rest, second :: others => isSame first second && areSame rest others
  | _, _ => false

/-- Whether each of some entries is among others. -/
def areAmong : List (Value × Value) → List (Value × Value) → Bool
  | [], _ => true
  | (key, value) :: rest, others =>
      (others.any fun other => isSame key other.1 && isSame value other.2) && areAmong rest others

end

/-- Whether no two entries have the same key. -/
def areDistinct : List (Value × Value) → Bool
  | [] => true
  | (key, _) :: rest => !(rest.any fun entry => isSame key entry.1) && areDistinct rest

/-! ## Scalars -/

/-- A scalar, unless it is a whole number that does not fit in 64 bits. -/
def held? : Scalar → Option Value
  | .whole value =>
      if -Int.pow 2 63 ≤ value ∧ value < Int.pow 2 64 then some (scalar (.whole value)) else none
  | other => some (scalar other)

/-- What the tags of the core of YAML begin with. -/
def coreFront : String := "tag:yaml.org,2002:"

/-- What a text stands for under a tag of the core of YAML that has a say in it. -/
def ofCore? (tag text : String) : Option (Option Scalar) :=
  if tag = coreFront ++ "bool" then some ((Scalar.truth? text).map .bool)
  else if tag = coreFront ++ "int" then some ((Scalar.whole? text.toList).map .whole)
  else if tag = coreFront ++ "float" then some (Scalar.real? text)
  else if tag = coreFront ++ "null" then some (if Scalar.isNull text then some .null else none)
  else none

/-- The tag that stays with a value, if the tag of a node is one. -/
def ownTag? (tag : Option String) : Option String :=
  match tag.map String.toList with
  | some ['!'] => some "!"
  | some ('!' :: rest) => some (String.ofList rest)
  | _ => none

/-- A value with the tag that stays with it. -/
def withTag (tag : Option String) (value : Value) : Value :=
  match ownTag? tag with
  | some tag => tagged tag value
  | none => value

/-- What a scalar of a document stands for. -/
def ofScalar? (tag : Option String) (text : String) (isPlain : Bool) : Option Value :=
  let untagged := if isPlain then Scalar.ofPlain text else .str text
  match ownTag? tag, tag with
  | some tag, _ => (held? untagged).map (tagged tag)
  | none, some tag =>
      match ofCore? tag text with
      | some found => found.bind held?
      | none => some (scalar (.str text))
  | none, none => held? untagged

/-! ## References -/

/-- How many references may still be followed. -/
abbrev Following := StateT Nat Option

/-- The node that a node stands for, where `anchors` are those of the document.  Of the nodes whose
anchors have the same number, the last one counts. -/
def follow (anchors : List (Nat × Node)) : Node → Following Node
  | .reference number => do
      match ← get with
      | 0 => failure
      | left + 1 =>
          set left
          ((anchors.reverse.lookup number : Option Node) : Following Node)
  | node => return node

/-- What a node stands for, at most `depth` deep. -/
def ofNode (anchors : List (Nat × Node)) : (depth : Nat) → Node → Following Value
  | 0, node => do
      match ← follow anchors node with
      | .scalar marks text isPlain => ofScalar? marks.tag text isPlain
      | _ => failure
  | depth + 1, node => do
      match ← follow anchors node with
      | .scalar marks text isPlain => ofScalar? marks.tag text isPlain
      | .sequence marks items =>
          return withTag marks.tag (.sequence (← items.mapM (ofNode anchors depth)))
      | .mapping marks entries =>
          let entries ← entries.mapM fun entry => do
            return (← ofNode anchors depth entry.1, ← ofNode anchors depth entry.2)
          if areDistinct entries then return withTag marks.tag (.mapping entries) else failure
      | .reference _ => failure

/-- How deep values lie inside others at most. -/
def mostDepth : Nat := 128

/-- How often references are followed for each part of a document at most. -/
def mostFollowed : Nat := 100

/-- What a document stands for. -/
def ofRoot? (root : Node) : Option Value := do
  let (value, _) ← (ofNode root.anchors mostDepth root).run (mostFollowed * root.size)
  return value

/-- What the documents of a text stand for. -/
def ofText? (text : String) : Option (List Value) := do
  (← documents? (← tokens? text)).mapM ofRoot?

end Value

end BareMetal.Yaml
