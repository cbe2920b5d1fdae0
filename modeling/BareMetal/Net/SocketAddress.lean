/-!
# Socket addresses

An IPv4 or IPv6 address with a port.  Octets are written without leading zeros; an IPv6 address
stands in brackets, may leave out one run of zero groups and may end in an IPv4 address.
-/

namespace BareMetal

/-- An address and a port to listen on. -/
inductive SocketAddress where
  /-- An IPv4 address by its octets. -/
  | v4 (octets : List Nat) (port : Nat)
  /-- An IPv6 address by its sixteen-bit groups, with the number of its scope. -/
  | v6 (groups : List Nat) (scope port : Nat)
  deriving DecidableEq

namespace SocketAddress

/-! ## Reading -/

/-- The value of a digit in a base of ten or sixteen. -/
def digit? (base : Nat) (c : Char) : Option Nat :=
  let value :=
    if '0' ≤ c ∧ c ≤ '9' then c.toNat - '0'.toNat
    else if 'a' ≤ c ∧ c ≤ 'f' then c.toNat - 'a'.toNat + 10
    else if 'A' ≤ c ∧ c ≤ 'F' then c.toNat - 'A'.toNat + 10
    else base
  if value < base then some value else none

/-- A number in a base, which has to be below a limit. -/
def readNumber (base limit : Nat) (text : List Char) : Option (Nat × List Char) :=
  let digits := text.takeWhile fun c => (digit? base c).isSome
  let value := digits.foldl (fun value c => value * base + (digit? base c).getD 0) 0
  if digits.isEmpty || limit ≤ value then none else some (value, text.drop digits.length)

/-- An octet in decimal, without leading zeros. -/
def readOctet (text : List Char) : Option (Nat × List Char) :=
  let digits := text.takeWhile Char.isDigit
  if 3 < digits.length || (1 < digits.length && digits.head? == some '0') then none
  else readNumber 10 256 text

/-- A mark, and what follows it. -/
def readMark (mark : Char) : List Char → Option (List Char)
  | c :: rest => if c = mark then some rest else none
  | [] => none

/-- Four octets with points between them. -/
def readV4 (text : List Char) : Option (List Nat × List Char) := do
  let (a, rest) ← readOctet text
  let (b, rest) ← readOctet (← readMark '.' rest)
  let (c, rest) ← readOctet (← readMark '.' rest)
  let (d, rest) ← readOctet (← readMark '.' rest)
  return ([a, b, c, d], rest)

/-- A group of at most four hexadecimal digits. -/
def readGroup (text : List Char) : Option (Nat × List Char) :=
  if 4 < (text.takeWhile fun c => (digit? 16 c).isSome).length then none
  else readNumber 16 65536 text

/-- The groups that an IPv4 address stands for. -/
def groupsOfOctets : List Nat → List Nat
  | [a, b, c, d] => [a * 256 + b, c * 256 + d]
  | _ => []

/-- Up to `most` groups with colons between them, of which the last two may be an IPv4 address;
also tells whether they are.  `first` says that no colon stands before the next group. -/
def readGroups (first : Bool) : (most : Nat) → List Char → (List Nat × Bool) × List Char
  | 0, text => (([], false), text)
  | most + 1, text =>
      let start? := if first then some text else readMark ':' text
      match start? with
      | none => (([], false), text)
      | some start =>
          match (if 1 ≤ most then readV4 start else none) with
          | some (octets, rest) => ((groupsOfOctets octets, true), rest)
          | none =>
              match readGroup start with
              | none => (([], false), text)
              | some (group, rest) =>
                  let ((groups, endsInV4), rest) := readGroups false most rest
                  ((group :: groups, endsInV4), rest)

/-- An IPv6 address: eight groups, or fewer with a run of zero groups left out. -/
def readV6 (text : List Char) : Option (List Nat × List Char) := do
  let ((front, frontInV4), rest) := readGroups true 8 text
  if front.length = 8 then return (front, rest)
  if frontInV4 then none
  let rest ← readMark ':' (← readMark ':' rest)
  let ((back, _), rest) := readGroups true (7 - front.length) rest
  return (front ++ List.replicate (8 - front.length - back.length) 0 ++ back, rest)

/-- A port behind a colon. -/
def readPort (text : List Char) : Option (Nat × List Char) := do
  readNumber 10 65536 (← readMark ':' text)

/-- The number of a scope behind a percent sign. -/
def readScope (text : List Char) : Option (Nat × List Char) := do
  readNumber 10 4294967296 (← readMark '%' text)

/-- An IPv4 address with a port. -/
def readSocketV4 (text : List Char) : Option (SocketAddress × List Char) := do
  let (octets, rest) ← readV4 text
  let (port, rest) ← readPort rest
  return (.v4 octets port, rest)

/-- An IPv6 address in brackets, with a port. -/
def readSocketV6 (text : List Char) : Option (SocketAddress × List Char) := do
  let (groups, rest) ← readV6 (← readMark '[' text)
  let (scope, rest) := (readScope rest).getD (0, rest)
  let (port, rest) ← readPort (← readMark ']' rest)
  return (.v6 groups scope port, rest)

/-- The socket address that a text spells. -/
def parse? (text : List Char) : Option SocketAddress := do
  let (address, rest) ← readSocketV4 text <|> readSocketV6 text
  if rest.isEmpty then return address else none

/-! ## Writing -/

/-- A group in lower-case hexadecimal. -/
def writeGroup (group : Nat) : String := String.ofList (Nat.toDigits 16 group)

/-- Octets with points between them. -/
def writeV4 (octets : List Nat) : String := ".".intercalate (octets.map toString)

/-- The start and the length of the longest run of zeros, the first of several, where `index` is
the place of the first group given, `start` and `length` describe the run up to it and `best`
holds the longest run so far. -/
def longestZeros (index start length : Nat) (best : Nat × Nat) : List Nat → Nat × Nat
  | [] => best
  | group :: rest =>
      if group = 0 then
        let begun := if length = 0 then index else start
        let best := if best.2 < length + 1 then (begun, length + 1) else best
        longestZeros (index + 1) begun (length + 1) best rest
      else longestZeros (index + 1) start 0 best rest

/-- Groups with colons between them, the longest run of two or more zeros left out; an IPv4
address mapped into IPv6 is written as such. -/
def writeV6 (groups : List Nat) : String :=
  match groups with
  | [0, 0, 0, 0, 0, 0xffff, high, low] =>
      "::ffff:" ++ writeV4 [high / 256, high % 256, low / 256, low % 256]
  | _ =>
      let (start, length) := longestZeros 0 0 0 (0, 0) groups
      if 1 < length then
        ":".intercalate ((groups.take start).map writeGroup) ++ "::" ++
          ":".intercalate ((groups.drop (start + length)).map writeGroup)
      else ":".intercalate (groups.map writeGroup)

/-- The text of a socket address. -/
def write : SocketAddress → String
  | v4 octets port => writeV4 octets ++ ":" ++ toString port
  | v6 groups scope port =>
      let scopePart := if scope = 0 then "" else "%" ++ toString scope
      "[" ++ writeV6 groups ++ scopePart ++ "]:" ++ toString port

end SocketAddress

end BareMetal
