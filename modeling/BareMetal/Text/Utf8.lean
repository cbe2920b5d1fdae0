/-!
# UTF-8

Reading octets as characters by the table of RFC 3629: the first octet of a character says how
many octets follow it and in what range the next of them lies; all later ones lie between 80 and
BF.  A text that breaks off or goes wrong is refused with the place where its last good character
ends, or read with replacements.
-/

namespace BareMetal.Text

/-- Why octets are no UTF-8 text. -/
inductive Utf8Fault where
  /-- From an index on, a number of octets cannot begin a character. -/
  | invalid (length index : Nat)
  /-- The octets break off inside the character that begins at an index. -/
  | incomplete (index : Nat)
  deriving DecidableEq

/-- The message for a fault. -/
def Utf8Fault.message : Utf8Fault → String
  | invalid length index =>
      "invalid utf-8 sequence of " ++ toString length ++ " bytes from index " ++ toString index
  | incomplete index => "incomplete utf-8 byte sequence from index " ++ toString index

/-- A character that has begun. -/
structure Begun where
  /-- How many of its octets were read. -/
  seen : Nat
  /-- How many octets are still to come. -/
  owed : Nat
  /-- The least that the next octet may be. -/
  low : Nat
  /-- The greatest that the next octet may be. -/
  high : Nat
  /-- The bits read so far as a number. -/
  bits : Nat
  deriving DecidableEq

/-- The character that an octet begins, which may be complete with it. -/
def begin? (octet : Nat) : Option Begun :=
  if octet ≤ 0x7f then some ⟨1, 0, 0x80, 0xbf, octet⟩
  else if octet < 0xc2 then none
  else if octet ≤ 0xdf then some ⟨1, 1, 0x80, 0xbf, octet - 0xc0⟩
  else if octet = 0xe0 then some ⟨1, 2, 0xa0, 0xbf, 0⟩
  else if octet = 0xed then some ⟨1, 2, 0x80, 0x9f, 0xd⟩
  else if octet ≤ 0xef then some ⟨1, 2, 0x80, 0xbf, octet - 0xe0⟩
  else if octet = 0xf0 then some ⟨1, 3, 0x90, 0xbf, 0⟩
  else if octet ≤ 0xf3 then some ⟨1, 3, 0x80, 0xbf, octet - 0xf0⟩
  else if octet = 0xf4 then some ⟨1, 3, 0x80, 0x8f, 4⟩
  else none

/-- A character with one octet more, if the octet is in range. -/
def Begun.continue? (begun : Begun) (octet : Nat) : Option Begun :=
  if begun.low ≤ octet ∧ octet ≤ begun.high then
    some ⟨begun.seen + 1, begun.owed - 1, 0x80, 0xbf, begun.bits * 64 + (octet - 0x80)⟩
  else none

/-- The characters of octets behind an index, where a character may have begun that is not
complete. -/
def decodeFrom (index : Nat) : (pending : Option Begun) → List UInt8 →
    Except Utf8Fault (List Char)
  | none, [] => .ok []
  | some _, [] => .error (.incomplete index)
  | pending, octet :: rest =>
      let begun? := match pending with
        | none => begin? octet.toNat
        | some begun => begun.continue? octet.toNat
      match begun? with
      | none => .error (.invalid ((pending.map Begun.seen).getD 1) index)
      | some begun =>
          if begun.owed = 0 then
            (decodeFrom (index + begun.seen) none rest).map (Char.ofNat begun.bits :: ·)
          else decodeFrom index (some begun) rest

/-- The characters that octets spell. -/
def decodeUtf8 (octets : List UInt8) : Except Utf8Fault (List Char) := decodeFrom 0 none octets

/-- The character that stands for what is no character. -/
def replacement : Char := Char.ofNat 0xfffd

/-- The characters of octets where a character may have begun that is not complete; octets that
cannot be read as part of a character are replaced, a run that could begin one as a whole. -/
def readFrom : (pending : Option Begun) → List UInt8 → List Char
  | none, [] => []
  | some _, [] => [replacement]
  | pending, octet :: rest =>
      let fresh :=
        match begin? octet.toNat with
        | none => replacement :: readFrom none rest
        | some begun =>
            if begun.owed = 0 then Char.ofNat begun.bits :: readFrom none rest
            else readFrom (some begun) rest
      match pending with
      | none => fresh
      | some begun =>
          match begun.continue? octet.toNat with
          | none => replacement :: fresh
          | some begun =>
              if begun.owed = 0 then Char.ofNat begun.bits :: readFrom none rest
              else readFrom (some begun) rest

/-- The characters that octets spell, with replacements for what is no character. -/
def readUtf8 (octets : List UInt8) : List Char := readFrom none octets

/-- The octets of one character. -/
def encodeChar (c : Char) : List UInt8 :=
  let code := c.toNat
  let tail (shift : Nat) : UInt8 := UInt8.ofNat (0x80 + code / Nat.pow 2 shift % 64)
  if code < 0x80 then [UInt8.ofNat code]
  else if code < 0x800 then [UInt8.ofNat (0xc0 + code / Nat.pow 2 6), tail 0]
  else if code < 0x10000 then [UInt8.ofNat (0xe0 + code / Nat.pow 2 12), tail 6, tail 0]
  else [UInt8.ofNat (0xf0 + code / Nat.pow 2 18), tail 12, tail 6, tail 0]

/-- The octets of a text. -/
def encodeUtf8 (text : List Char) : List UInt8 := text.flatMap encodeChar

end BareMetal.Text
