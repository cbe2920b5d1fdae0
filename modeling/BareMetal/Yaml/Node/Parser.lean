import BareMetal.Dict
import BareMetal.Yaml.Node
import BareMetal.Yaml.Token

/-!
# Making nodes of tokens

A stream of tokens holds documents, each with one node.  The first document may begin without a
mark, every other one begins with the mark of its start.  An anchor gets as its number how many
names of anchors its document has used before; when a name is used again, it stands for the new
number from there on.
-/

namespace BareMetal.Yaml

/-- How far the tokens have been read. -/
structure Progress where
  /-- The tokens that are left. -/
  tokens : List Token
  /-- The names of the document's anchors with their numbers. -/
  names : Dict String Nat := Dict.empty
  /-- What tags begin with, by their handles. -/
  handles : Dict String String := Dict.empty

/-- A reader of tokens. -/
abbrev Reader := StateT Progress Option

namespace Reader

/-- The next token, if there is one. -/
def peek : Reader (Option Token) := return (← get).tokens.head?

/-- Passes over a token. -/
def skip : Reader Unit := modify fun progress => { progress with tokens := progress.tokens.tail }

/-- Passes over a token if it is the given one, and tells whether it is. -/
def skips (token : Token) : Reader Bool := do
  if (← peek) = some token then
    skip
    return true
  else return false

/-- Whether the next token is one of several. -/
def isOneOf (tokens : List Token) : Reader Bool :=
  return (← peek).any tokens.contains

/-- The number for an anchor with a name. -/
def introduce (name : String) : Reader Nat := do
  let progress ← get
  let number := progress.names.entries.length
  set { progress with names := progress.names.insert name number }
  return number

/-- The number of the anchor that a name stands for. -/
def numberOf (name : String) : Reader Nat := do ((← get).names.get? name : Option Nat)

/-- A tag written out. -/
def tagOf (handle rest : String) : Reader String := do
  if handle.isEmpty then return rest
  let front ← ((← get).handles.get? handle : Option String)
  return front ++ rest

/-- The tag here, if there is one. -/
def tag? : Reader (Option String) := do
  match ← peek with
  | some (.tag handle rest) =>
      let tag ← tagOf handle rest
      skip
      return some tag
  | _ => return none

/-- The anchor here, if there is one. -/
def anchor? : Reader (Option Nat) := do
  match ← peek with
  | some (.anchor name) =>
      skip
      return some (← introduce name)
  | _ => return none

/-- The anchor and the tag here, in any order. -/
def marks : Reader Marks := do
  let anchor ← anchor?
  let tag ← tag?
  let anchor ← if anchor.isNone && tag.isSome then anchor? else pure anchor
  return { anchor, tag }

/-- The tag that asks for nothing in particular. -/
def plainTag : String := "!"

/-- The marks of a scalar that is written out, on which the tag that asks for nothing does not
count. -/
def ofScalar (marks : Marks) : Marks :=
  if marks.tag = some plainTag then { marks with tag := none } else marks

/-! ## Nodes -/

/-- Where a node stands. -/
inductive Setting where
  /-- Between brackets. -/
  | flow
  /-- In a block. -/
  | block
  /-- As a key or a value in a block, where the items of a sequence may stand at the indentation of
  the key. -/
  | member
  deriving DecidableEq

mutual

/-- The node here; `steps` bounds the work. -/
def node (setting : Setting) : (steps : Nat) → Reader Node
  | 0 => failure
  | steps + 1 => do
      if let some (.reference name) := ← peek then
        skip
        return .reference (← numberOf name)
      let marks ← marks
      match ← peek with
      | some (.scalar text isPlain) =>
          skip
          return .scalar (ofScalar marks) text isPlain
      | some .openSequence =>
          skip
          return .sequence marks (← flowItems true steps)
      | some .openMapping =>
          skip
          return .mapping marks (← flowEntries true steps)
      | some .item =>
          if setting = .member then return .sequence marks (← bareItems steps)
          else unwritten marks
      | some .blockSequence =>
          if setting = .flow then unwritten marks
          else
            skip
            return .sequence marks (← blockItems steps)
      | some .blockMapping =>
          if setting = .flow then unwritten marks
          else
            skip
            return .mapping marks (← blockEntries steps)
      | _ => unwritten marks

/-- A node of which only the marks are written, if there are any. -/
def unwritten (marks : Marks) : Reader Node :=
  if marks.anchor.isSome || marks.tag.isSome then return .scalar marks "" true else failure

/-- The node here, or the empty one in front of certain tokens. -/
def nodeUnless (ends : List Token) (setting : Setting) : (steps : Nat) → Reader Node
  | 0 => failure
  | steps + 1 => do if ← isOneOf ends then return .empty else node setting steps

/-- The items of a block sequence up to its end. -/
def blockItems : (steps : Nat) → Reader (List Node)
  | 0 => failure
  | steps + 1 => do
      if ← skips .blockEnd then return []
      else if ← skips .item then
        let item ← nodeUnless [.item, .blockEnd] .block steps
        return item :: (← blockItems steps)
      else failure

/-- The items of a sequence that stand at the indentation of its key. -/
def bareItems : (steps : Nat) → Reader (List Node)
  | 0 => failure
  | steps + 1 => do
      if ← skips .item then
        let item ← nodeUnless [.item, .key, .value, .blockEnd] .block steps
        return item :: (← bareItems steps)
      else return []

/-- The entries of a block mapping up to its end. -/
def blockEntries : (steps : Nat) → Reader (List (Node × Node))
  | 0 => failure
  | steps + 1 => do
      if ← skips .blockEnd then return []
      else if ← skips .key then
        let key ← nodeUnless [.key, .value, .blockEnd] .member steps
        let value ←
          if ← skips .value then nodeUnless [.key, .value, .blockEnd] .member steps
          else pure .empty
        return (key, value) :: (← blockEntries steps)
      else failure

/-- The items of a sequence up to its closing bracket.  An item may be a mapping with one entry,
written without braces. -/
def flowItems (isFirst : Bool) : (steps : Nat) → Reader (List Node)
  | 0 => failure
  | steps + 1 => do
      if ← skips .closeSequence then return []
      if !isFirst then
        if !(← skips .comma) then failure
      if ← skips .closeSequence then return []
      let item ←
        if ← skips .key then pure (.mapping {} [← flowPair steps])
        else node .flow steps
      return item :: (← flowItems false steps)

/-- The only entry of a mapping without braces.  A token that stands in place of the key is passed
over. -/
def flowPair : (steps : Nat) → Reader (Node × Node)
  | 0 => failure
  | steps + 1 => do
      let ends := [Token.value, .comma, .closeSequence]
      let isMissing ← isOneOf ends
      let key ← nodeUnless ends .flow steps
      if isMissing then skip
      let value ←
        if ← skips .value then nodeUnless [.comma, .closeSequence] .flow steps
        else pure .empty
      return (key, value)

/-- The entries of a mapping up to its closing brace. -/
def flowEntries (isFirst : Bool) : (steps : Nat) → Reader (List (Node × Node))
  | 0 => failure
  | steps + 1 => do
      if ← skips .closeMapping then return []
      if !isFirst then
        if !(← skips .comma) then failure
      if ← skips .closeMapping then return []
      let entry ←
        if ← skips .key then
          let key ← nodeUnless [.value, .comma, .closeMapping] .flow steps
          let value ←
            if ← skips .value then nodeUnless [.comma, .closeMapping] .flow steps
            else pure .empty
          pure (key, value)
        else pure (← node .flow steps, .empty)
      return entry :: (← flowEntries false steps)

end

/-! ## Documents -/

/-- What tags begin with when no directive tells it. -/
def defaultHandles : Dict String String :=
  Dict.ofList [("!", "!"), ("!!", "tag:yaml.org,2002:")]

/-- Reads directives, of which there is one for the version and one for each handle at most. -/
def directives (hasVersion : Bool) : (steps : Nat) → Reader Unit
  | 0 => failure
  | steps + 1 => do
      match ← peek with
      | some (.version major minor) =>
          if hasVersion || major != 1 || (minor != 1 && minor != 2) then failure
          skip
          directives true steps
      | some (.handle name front) =>
          let progress ← get
          if (progress.handles.get? name).isSome then failure
          set { progress with
            tokens := progress.tokens.tail, handles := progress.handles.insert name front }
          directives hasVersion steps
      | _ => return ()

/-- Whether a token belongs to the margin of a document. -/
def isMargin : Token → Bool
  | .version _ _ | .handle _ _ | .documentStart | .documentEnd => true
  | _ => false

/-- Reads a document behind its directives. -/
def document (isMarked : Bool) (steps : Nat) : Reader Node := do
  let isMissing := isMarked && (← peek).all isMargin
  let root ← if isMissing then pure .empty else node .block steps
  let _ ← skips .documentEnd
  return root

/-- Begins a document: reads its directives and the mark of its start. -/
def beginMarked (steps : Nat) : Reader Unit := do
  modify fun progress => { progress with names := Dict.empty, handles := Dict.empty }
  directives false steps
  modify fun progress => { progress with
    handles := Dict.ofList (defaultHandles.entries ++ progress.handles.entries) }
  if !(← skips .documentStart) then failure

/-- Passes over marks of the end of documents. -/
def skipEnds : List Token → List Token
  | .documentEnd :: rest => skipEnds rest
  | tokens => tokens

/-- The documents behind the first one. -/
def laterDocuments : (steps : Nat) → Reader (List Node)
  | 0 => failure
  | steps + 1 => do
      modify fun progress => { progress with tokens := skipEnds progress.tokens }
      if (← peek).isNone then return []
      beginMarked steps
      let root ← document true steps
      return root :: (← laterDocuments steps)

/-- All documents. -/
def documents (steps : Nat) : Reader (List Node) := do
  match ← peek with
  | none => return []
  | some token =>
      let isMarked := isMargin token && token ≠ .documentEnd
      if isMarked then beginMarked steps
      else modify fun progress => { progress with handles := defaultHandles }
      let root ← document isMarked steps
      return root :: (← laterDocuments steps)

end Reader

/-- The nodes of the documents that tokens make up.  A stream without any token is one document
that is not written. -/
def documents? (tokens : List Token) : Option (List Node) := do
  let (roots, _) ← (Reader.documents (4 * tokens.length + 4)).run { tokens }
  return if roots.isEmpty then [.empty] else roots

end BareMetal.Yaml
