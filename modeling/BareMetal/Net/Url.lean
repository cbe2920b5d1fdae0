import BareMetal.Text.Utf8

/-!
# URLs of servers

What is accepted as the URL of a server or of a request: a scheme, an authority and what follows it,
or an authority alone, or a path with what follows it.  An authority may hold a user, a host in
brackets and one port; escapes are accepted in a user and between brackets only.  A query is a list
of named values in the form in which web pages send them.
-/

namespace BareMetal.Url

/-- Whether a character may stand in a scheme. -/
def isSchemeChar (c : Char) : Bool := c.isAlphanum || c == '+' || c == '-' || c == '.'

/-- Whether a character may stand anywhere in an authority. -/
def isAuthorityChar (c : Char) : Bool := c.isAlphanum || "!$&'()*+,-.;=_~".toList.contains c

/-- Whether a character is neither blank nor a control character of ASCII. -/
def isVisible (c : Char) : Bool := 0x20 < c.toNat && c.toNat != 0x7f

/-- Whether a character may stand in a path as it is. -/
def isPathChar (c : Char) : Bool := isVisible c && c != '<' && c != '>' && c != '`'

/-- Whether a character may stand in a query as it is. -/
def isQueryChar (c : Char) : Bool := isVisible c && c != '<' && c != '>' && c != '"'

/-- Whether a character ends an authority. -/
def endsAuthority (c : Char) : Bool := c == '/' || c == '?' || c == '#'

/-- Whether a character ends a path. -/
def endsPath (c : Char) : Bool := c == '?' || c == '#'

/-- What was seen of an authority so far. -/
structure AuthoritySeen where
  /-- How many colons stand behind the user and the brackets. -/
  colons : Nat := 0
  /-- A bracket was opened. -/
  opened : Bool := false
  /-- The bracket was closed. -/
  closed : Bool := false
  /-- A percent sign stands behind the user and the brackets. -/
  escaped : Bool := false
  /-- The last character ends a user. -/
  endsUser : Bool := false

namespace AuthoritySeen

/-- What was seen with one more character, if the character may stand there. -/
def next? (seen : AuthoritySeen) (c : Char) : Option AuthoritySeen :=
  let seen := { seen with endsUser := false }
  if c = ':' then
    if seen.colons < 8 then some { seen with colons := seen.colons + 1 } else none
  else if c = '[' then
    if seen.escaped || seen.opened then none else some { seen with opened := true }
  else if c = ']' then
    if seen.opened && !seen.closed then
      some { seen with colons := 0, closed := true, escaped := false }
    else none
  else if c = '@' then some { seen with colons := 0, escaped := false, endsUser := true }
  else if c = '%' then some { seen with escaped := true }
  else if isAuthorityChar c then some seen
  else none

/-- Whether an authority may end here. -/
def mayEnd (seen : AuthoritySeen) : Bool :=
  seen.opened == seen.closed && seen.colons ≤ 1 && !seen.escaped && !seen.endsUser

end AuthoritySeen

/-- Whether a text is an authority, possibly an empty one. -/
def isAuthority (text : List Char) : Bool :=
  (text.foldlM AuthoritySeen.next? {}).any AuthoritySeen.mayEnd

/-- What may follow an authority. -/
structure Target where
  /-- The path, which may be empty. -/
  path : List Char
  /-- The query behind the path, if there is a question mark. -/
  query : Option (List Char)

/-- The path and the query that a text spells.  A fragment is passed over. -/
def target? (text : List Char) : Option Target := do
  let path := text.takeWhile fun c => !endsPath c
  guard (path.all isPathChar)
  match text.drop path.length with
  | '?' :: rest =>
      let query := rest.takeWhile (· != '#')
      guard (query.all isQueryChar)
      return ⟨path, some query⟩
  | _ => return ⟨path, none⟩

/-- How many characters a scheme may have. -/
def maxSchemeLength : Nat := 64

/-- What follows the scheme of a text, and how long the scheme is, if the text has a scheme. -/
def behindScheme? (text : List Char) : Option (Nat × List Char) :=
  let scheme := text.takeWhile isSchemeChar
  match text.drop scheme.length with
  | ':' :: '/' :: '/' :: rest => some (scheme.length, rest)
  | _ => none

/-- How many octets a URL may have. -/
def maxLength : Nat := 65534

/-- The path and the query of a URL.  An authority alone has the empty path; behind a scheme and an
authority the empty path stands for the root. -/
def read? (text : List Char) : Option Target :=
  if text.isEmpty || maxLength < (String.ofList text).utf8ByteSize then none
  else if text.head? == some '/' then target? text
  else
    match behindScheme? text with
    | some (length, rest) => do
        let authority := rest.takeWhile fun c => !endsAuthority c
        guard (length ≤ maxSchemeLength && !authority.isEmpty && isAuthority authority)
        let target ← target? (rest.drop authority.length)
        return if target.path.isEmpty then { target with path := ['/'] } else target
    | none => if isAuthority text then some ⟨[], none⟩ else none

/-- Whether a text is a URL. -/
def isUrl (text : List Char) : Bool := (read? text).isSome

/-! ## Queries -/

/-- The value of a hexadecimal digit. -/
def hexValue? (c : Char) : Option Nat :=
  if c.isDigit then some (c.toNat - '0'.toNat)
  else if 'a' ≤ c ∧ c ≤ 'f' then some (c.toNat - 'a'.toNat + 10)
  else if 'A' ≤ c ∧ c ≤ 'F' then some (c.toNat - 'A'.toNat + 10)
  else none

/-- The octets that a name or a value of a query stands for: a plus sign is a space, a percent sign
with two hexadecimal digits an octet. -/
def octets : List Char → List UInt8
  | [] => []
  | '%' :: high :: low :: rest =>
      match hexValue? high, hexValue? low with
      | some high, some low => UInt8.ofNat (high * 16 + low) :: octets rest
      | _, _ => Text.encodeChar '%' ++ octets (high :: low :: rest)
  | '+' :: rest => Text.encodeChar ' ' ++ octets rest
  | c :: rest => Text.encodeChar c ++ octets rest

/-- The text that a name or a value of a query stands for. -/
def plain (text : List Char) : String := String.ofList (Text.readUtf8 (octets text))

/-- The named values of a query.  Empty pieces between ampersands are passed over, and a piece
without an equals sign names an empty value. -/
def namedValues (query : List Char) : List (String × String) :=
  ((query.splitOn '&').filter fun piece => !piece.isEmpty).map fun piece =>
    let name := piece.takeWhile (· != '=')
    (plain name, plain (piece.drop (name.length + 1)))

end BareMetal.Url
