import LocalCloud.Bytes

/-!
# ASN.1 in DER

Keys and certificates are trees of tagged elements.  An element is kept with the
bytes it was read from; its contents are read further only where their structure
matters.
-/

namespace LocalCloud.Asn1

/-- A tagged element. -/
structure Element where
  tag : UInt8
  contents : Bytes
  raw : Bytes
deriving DecidableEq, Repr

def booleanTag : UInt8 := 0x01

def integerTag : UInt8 := 0x02

def bitStringTag : UInt8 := 0x03

def octetStringTag : UInt8 := 0x04

def nullTag : UInt8 := 0x05

def identifierTag : UInt8 := 0x06

def sequenceTag : UInt8 := 0x30

def setTag : UInt8 := 0x31

def takeLength? : Bytes → Option (Nat × Bytes)
  | [] => none
  | first :: rest =>
    let n := first.toNat
    if n < 0x80 then some (n, rest)
    else
      let count := n - 0x80
      let length := Bytes.toNat (rest.take count)
      if 0 < count ∧ count ≤ 4 ∧ count ≤ rest.length ∧ 0x80 ≤ length
          ∧ Nat.pow 256 (count - 1) ≤ length then
        some (length, rest.drop count)
      else none

def take? (bytes : Bytes) : Option (Element × Bytes) :=
  match bytes with
  | [] => none
  | tag :: rest =>
    if tag &&& 0x1F == 0x1F then none
    else do
      let (length, body) ← takeLength? rest
      if length ≤ body.length then
        let left := body.drop length
        some (⟨tag, body.take length, bytes.take (bytes.length - left.length)⟩, left)
      else none

def takeAll? (bytes : Bytes) : Option (List Element) :=
  loop bytes.length bytes
where
  /-- Reads at most `fuel` elements. -/
  loop : Nat → Bytes → Option (List Element)
    | _, [] => some []
    | 0, _ => none
    | fuel + 1, bytes => do
      let (element, rest) ← take? bytes
      some (element :: (← loop fuel rest))

def single? (bytes : Bytes) : Option Element :=
  match take? bytes with
  | some (element, []) => some element
  | _ => none

namespace Element

def inside? (element : Element) (tag : UInt8) : Option (List Element) :=
  if element.tag = tag then takeAll? element.contents else none

def contents? (element : Element) (tag : UInt8) : Option Bytes :=
  if element.tag = tag then some element.contents else none

/-- The value of a non-negative integer in its shortest form. -/
def natural? (element : Element) : Option Nat :=
  match element.contents? integerTag with
  | none => none
  | some [] => none
  | some [b] => if b < 0x80 then some b.toNat else none
  | some (b :: c :: rest) =>
    if b < 0x80 ∧ (b ≠ 0 ∨ 0x80 ≤ c) then some (Bytes.toNat (b :: c :: rest)) else none

/-- Whether the contents are those of a bit string: a count of unused bits, and the
bits, of which the unused ones are zero. -/
def isBits (element : Element) : Bool :=
  match element.contents with
  | [] => false
  | [unused] => unused == 0
  | unused :: bits =>
    unused ≤ 7 && (bits.getLastD 0).toNat % Nat.pow 2 unused.toNat == 0

/-- The bytes of a bit string without unused bits. -/
def bitString? (element : Element) : Option Bytes :=
  match element.contents? bitStringTag with
  | some (0 :: bytes) => some bytes
  | _ => none

end Element

/-- Reads what stands at the front of some bytes. -/
abbrev Reader := StateT Bytes Option

namespace Reader

variable {α : Type}

/-- Whether there are no bytes left. -/
def isAtEnd : Reader Bool :=
  return (← get).isEmpty

/-- Whether a byte comes next. -/
def isNext (byte : UInt8) : Reader Bool :=
  return (← get).head? == some byte

def element : Reader Element :=
  take?

/-- An element with a given tag. -/
def tagged (tag : UInt8) : Reader Element := do
  let element ← element
  guard (element.tag == tag)
  return element

/-- Reads inside an element with a given tag; what is left over there is skipped. -/
def inside (tag : UInt8) (reader : Reader α) : Reader α := do
  let element ← tagged tag
  reader.run' element.contents

/-- Reads as often as there is something to read. -/
def many (reader : Reader α) : Reader (List α) :=
  fun bytes => some (loop bytes.length bytes)
where
  /-- Reads at most `fuel` times; every time at least one byte is taken. -/
  loop : Nat → Bytes → List α × Bytes
    | 0, bytes => ([], bytes)
    | fuel + 1, bytes =>
      match reader bytes with
      | none => ([], bytes)
      | some (first, rest) =>
        let (others, rest) := loop fuel rest
        (first :: others, rest)

/-- Reads as often as there is something to read, but at least once. -/
def many1 (reader : Reader α) : Reader (List α) :=
  return (← reader) :: (← many reader)

end Reader

end LocalCloud.Asn1
