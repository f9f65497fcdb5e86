import LocalCloud.Codec.Asn1.Time
import LocalCloud.Text.Utf8

/-!
# Trees of ASN.1 elements

All of some bytes, read down to their leaves.  Every leaf of a known kind has to be
readable, and no sequence or set is empty.  Whether an element is marked as constructed
does not matter for its kind.
-/

namespace LocalCloud.Asn1

/-- The class and number of a tag, without the mark of a constructed element. -/
def kind (tag : UInt8) : UInt8 :=
  tag &&& 0xDF

def sequenceKind : UInt8 := kind sequenceTag

def setKind : UInt8 := kind setTag

/-- Numbers in base 128, where bytes from 128 on are continued; `pending` is what has
been read of the first number. -/
def base128? (pending : Option Nat) : Bytes → Option (List Nat)
  | [] => if pending.isNone then some [] else none
  | byte :: rest =>
    let value := pending.getD 0 * 128 + byte.toNat % 128
    if byte < 128 then (base128? none rest).map (value :: ·) else base128? (some value) rest

/-- The numbers of an object identifier; its first byte stands for two of them. -/
def identifierParts? : Bytes → Option (List Nat)
  | [] => none
  | first :: rest => (base128? none rest).map (first.toNat :: ·)

/-- Whether a byte may stand in a printable string. -/
def isPrintable (byte : UInt8) : Bool :=
  let c := Char.ofNat byte.toNat
  c.isAlphanum || (" '()+,-./:=?".toList.contains c)

/-- The kinds of the strings in UTF-8: those of the two standards that are called so,
and of the wide characters. -/
def textKinds : List UInt8 := [0x0C, 0x14, 0x1C, 0x1E]

def printableKind : UInt8 := 0x13

/-- Whether the contents of a leaf are readable. -/
def isReadable (kind : UInt8) (contents : Bytes) : Bool :=
  if kind = booleanTag then contents.length == 1
  else if kind = bitStringTag then
    match contents with
    | [] => true
    | unused :: bits => unused.toNat ≤ 8 * bits.length
  else if kind = identifierTag then (identifierParts? contents).isSome
  else if kind = printableKind then contents.all isPrintable
  else if kind ∈ textKinds then (Utf8.decode? contents).isSome
  else if kind = utcTimeTag then (Reader.utcTime true).takesAll contents
  else if kind = generalizedTimeTag then (Reader.generalizedTime true).takesAll contents
  else true

/-- An element with everything inside it. -/
inductive Tree where
  | node (kind : UInt8) (contents : Bytes) (children : List Tree)

/-- Reads all of the bytes, sequences and sets down to their leaves.  The depth
is bounded by `fuel`. -/
def trees? : Nat → Bytes → Option (List Tree)
  | 0, _ => none
  | fuel + 1, bytes => do
    let elements ← takeAll? bytes
    guard (!elements.isEmpty)
    elements.mapM fun element => do
      let kind := kind element.tag
      if kind = sequenceKind ∨ kind = setKind then
        let children ← trees? fuel element.contents
        return .node kind element.contents children
      else
        guard (isReadable kind element.contents)
        return .node kind element.contents []

mutual

/-- The first leaf with a wanted property, searching sequences only. -/
def Tree.search? {α : Type} (wanted : UInt8 → Bytes → Option α) : Tree → Option α
  | .node kind contents children =>
    if kind = sequenceKind then searchAll? wanted children else wanted kind contents

/-- The first such leaf of several trees. -/
def searchAll? {α : Type} (wanted : UInt8 → Bytes → Option α) : List Tree → Option α
  | [] => none
  | tree :: rest =>
    match tree.search? wanted with
    | some found => some found
    | none => searchAll? wanted rest

end

end LocalCloud.Asn1
