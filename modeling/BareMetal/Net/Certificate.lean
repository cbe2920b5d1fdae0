import BareMetal.Text.Pem

/-!
# Certificates

Octets are taken for a certificate, or for a private key, by their outer form: in the distinguished
encoding of ASN.1, a certificate is a sequence of what is certified, the method of signing and the
signature.
-/

namespace BareMetal.Certificate

/-- An element of an encoding. -/
structure Element where
  /-- The octet that tells what it is. -/
  kind : Nat
  /-- What it holds. -/
  content : List UInt8

/-- The number that octets make up, highest first. -/
def ofOctets (octets : List UInt8) : Nat :=
  octets.foldl (fun number octet => number * 256 + octet.toNat) 0

/-- The length at the front of octets, and what follows it. -/
def length? : List UInt8 → Option (Nat × List UInt8)
  | [] => none
  | octet :: rest =>
      if octet.toNat < 0x80 then some (octet.toNat, rest)
      else
        let count := octet.toNat - 0x80
        if count = 0 || rest.length < count then none
        else some (ofOctets (rest.take count), rest.drop count)

/-- The element at the front of octets, and what follows it. -/
def element? : List UInt8 → Option (Element × List UInt8)
  | [] => none
  | kind :: rest => do
      let (length, rest) ← length? rest
      if rest.length < length then none
      return (⟨kind.toNat, rest.take length⟩, rest.drop length)

/-- The elements that octets consist of. -/
def elements? : (steps : Nat) → List UInt8 → Option (List Element)
  | 0, _ => none
  | _ + 1, [] => some []
  | steps + 1, octet :: rest => do
      let (element, rest) ← element? (octet :: rest)
      return element :: (← elements? steps rest)

/-- The octet that begins a sequence. -/
def sequenceKind : Nat := 0x30

/-- The octet that begins a string of bits. -/
def bitsKind : Nat := 0x03

/-- The elements of the sequence that octets are. -/
def sequence? (octets : List UInt8) : Option (List Element) := do
  match ← elements? (octets.length + 1) octets with
  | [element] =>
      if element.kind = sequenceKind then elements? (element.content.length + 1) element.content
      else none
  | _ => none

/-- Whether octets have the form of a certificate. -/
def isCertificate (octets : List UInt8) : Bool :=
  (sequence? octets).any fun elements =>
    elements.map Element.kind = [sequenceKind, sequenceKind, bitsKind]

/-- The label of certificates. -/
def certificateLabel : String := "CERTIFICATE"

/-- The labels of private keys. -/
def keyLabels : List String := ["PRIVATE KEY", "RSA PRIVATE KEY", "EC PRIVATE KEY"]

/-- The octets of the certificates among blocks. -/
def certificatesOf (blocks : List Text.PemBlock) : List (List UInt8) :=
  (blocks.filter fun block => block.label = certificateLabel).map Text.PemBlock.octets

/-- Whether there is a certificate and a private key among blocks. -/
def holdIdentity (blocks : List Text.PemBlock) : Bool :=
  let certificates := certificatesOf blocks
  !certificates.isEmpty && certificates.all isCertificate &&
    blocks.any fun block => keyLabels.contains block.label && (sequence? block.octets).isSome

end BareMetal.Certificate
