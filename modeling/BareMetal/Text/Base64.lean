/-!
# Base 64

Octets as text in the standard alphabet of RFC 4648.  Four characters stand for three octets; the
last group is filled up with equals signs, and bits of it that belong to no octet have to be zero.
-/

namespace BareMetal.Text

/-- The character for a number below 64. -/
def base64Char (number : Nat) : Char :=
  if number < 26 then Char.ofNat ('A'.toNat + number)
  else if number < 52 then Char.ofNat ('a'.toNat + (number - 26))
  else if number < 62 then Char.ofNat ('0'.toNat + (number - 52))
  else if number = 62 then '+'
  else '/'

/-- The number that a character stands for. -/
def base64Value? (c : Char) : Option Nat :=
  if 'A' ≤ c ∧ c ≤ 'Z' then some (c.toNat - 'A'.toNat)
  else if 'a' ≤ c ∧ c ≤ 'z' then some (c.toNat - 'a'.toNat + 26)
  else if '0' ≤ c ∧ c ≤ '9' then some (c.toNat - '0'.toNat + 52)
  else if c = '+' then some 62
  else if c = '/' then some 63
  else none

/-- The text of octets. -/
def encodeBase64 : List UInt8 → List Char
  | [] => []
  | [a] =>
      let bits := a.toNat * 16
      [base64Char (bits / 64), base64Char (bits % 64), '=', '=']
  | [a, b] =>
      let bits := (a.toNat * 256 + b.toNat) * 4
      [base64Char (bits / 4096), base64Char (bits / 64 % 64), base64Char (bits % 64), '=']
  | a :: b :: c :: rest =>
      let bits := (a.toNat * 256 + b.toNat) * 256 + c.toNat
      base64Char (bits / 262144) :: base64Char (bits / 4096 % 64) ::
        base64Char (bits / 64 % 64) :: base64Char (bits % 64) :: encodeBase64 rest

/-- The octets that a text spells. -/
def decodeBase64 : List Char → Option (List UInt8)
  | [] => some []
  | [a, b, '=', '='] => do
      let bits := (← base64Value? a) * 64 + (← base64Value? b)
      if bits % 16 = 0 then return [UInt8.ofNat (bits / 16)] else none
  | [a, b, c, '='] => do
      let bits := ((← base64Value? a) * 64 + (← base64Value? b)) * 64 + (← base64Value? c)
      if bits % 4 = 0 then return [UInt8.ofNat (bits / 1024), UInt8.ofNat (bits / 4 % 256)]
      else none
  | a :: b :: c :: d :: rest => do
      let bits := (((← base64Value? a) * 64 + (← base64Value? b)) * 64 + (← base64Value? c)) * 64 +
        (← base64Value? d)
      return UInt8.ofNat (bits / 65536) :: UInt8.ofNat (bits / 256 % 256) ::
        UInt8.ofNat (bits % 256) :: (← decodeBase64 rest)
  | _ => none

end BareMetal.Text
