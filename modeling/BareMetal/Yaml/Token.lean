/-!
# Tokens

What a YAML text consists of.  Indentation has become tokens of its own, and a key is marked also
where the text leaves the mark out.
-/

namespace BareMetal.Yaml

/-- A token of a YAML text. -/
inductive Token where
  /-- The directive that tells the version. -/
  | version (major minor : Nat)
  /-- The directive that tells what the tags with a handle begin with. -/
  | handle (name front : String)
  /-- The mark of the start of a document. -/
  | documentStart
  /-- The mark of the end of a document. -/
  | documentEnd
  /-- The start of a sequence in block style. -/
  | blockSequence
  /-- The start of a mapping in block style. -/
  | blockMapping
  /-- The end of a sequence or mapping in block style. -/
  | blockEnd
  /-- The bracket that opens a sequence. -/
  | openSequence
  /-- The bracket that closes a sequence. -/
  | closeSequence
  /-- The brace that opens a mapping. -/
  | openMapping
  /-- The brace that closes a mapping. -/
  | closeMapping
  /-- The dash in front of an item. -/
  | item
  /-- The comma between items or members. -/
  | comma
  /-- What stands in front of a key. -/
  | key
  /-- The colon in front of a value. -/
  | value
  /-- A reference to an anchor. -/
  | reference (name : String)
  /-- An anchor. -/
  | anchor (name : String)
  /-- A tag by its handle and the rest of it. -/
  | tag (handle rest : String)
  /-- A scalar, and whether it stands without quotes on its own line. -/
  | scalar (text : String) (isPlain : Bool)
  deriving DecidableEq

end BareMetal.Yaml
