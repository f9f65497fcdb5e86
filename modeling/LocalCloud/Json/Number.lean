import LocalCloud.Decimal.Shortest
import LocalCloud.Text.Ascii

/-!
# JSON numbers

A number written as an integer stays one while it fits 64 bits, signed or
unsigned; every other number is a double.  `-0` is a double, too.
-/

namespace LocalCloud.Json

/-- A number: an exact integer or the bits of a finite double. -/
inductive Number where
  | integer (value : Int)
  | double (bits : UInt64)
deriving DecidableEq, Repr

namespace Number

/-- The largest unsigned 64-bit integer. -/
def maxUnsigned : Nat := 18446744073709551615

/-- Appends decimal digits to a significand until it would leave 64 bits; gives
the significand, the digits taken and the digits left. -/
def accumulate (significand : Nat) : List Nat → Nat × Nat × Nat
  | [] => (significand, 0, 0)
  | digit :: rest =>
    if significand * 10 + digit ≤ maxUnsigned then
      let (value, taken, left) := accumulate (significand * 10 + digit) rest
      (value, taken + 1, left)
    else (significand, 0, rest.length + 1)

/-- A power of ten as a double, at most `10 ^ 308`. -/
def powerOfTen (exponent : Nat) : Float :=
  Float.ofScientific 1 false exponent

/-- Scales a significand by a power of ten in double arithmetic; absent when the
result is out of range. -/
def scale (significand : Nat) (exponent : Int) : Option Float :=
  let f := (UInt64.ofNat significand).toFloat
  if 0 ≤ exponent then
    if exponent ≤ 308 then
      let product := f * powerOfTen exponent.toNat
      if product.isInf then none else some product
    else if f == 0.0 then some f
    else none
  else if -308 ≤ exponent then some (f / powerOfTen (-exponent).toNat)
  else if -616 ≤ exponent then some (f / powerOfTen 308 / powerOfTen (-exponent - 308).toNat)
  else some 0.0

def signed (negative : Bool) (f : Float) : Number :=
  .double (if negative then -f else f).toBits

/-- Reads a number from its sign, the digits before and behind the point, and
the exponent; absent when it is out of range. -/
def ofParts (negative : Bool) (whole : List Nat) (fraction : Option (List Nat))
    (exponent : Option Int) : Option Number :=
  let (significand, _, left) := accumulate 0 whole
  match fraction, exponent with
  | none, none =>
    if left = 0 then
      if !negative then some (.integer significand)
      else if significand = 0 ∨ significand > 9223372036854775808 then
        some (signed true (UInt64.ofNat significand).toFloat)
      else some (.integer (-(significand : Int)))
    else (scale significand left).map (signed negative)
  | _, _ =>
    let (significand, taken, _) := accumulate significand (fraction.getD [])
    let start : Int := (left : Int) - taken
    match exponent with
    | none => (scale significand start).map (signed negative)
    | some exponent =>
      if exponent > 2147483647 then
        if significand = 0 then some (signed negative 0.0) else none
      else if exponent < -2147483647 then some (signed negative 0.0)
      else (scale significand (start + exponent)).map (signed negative)

/-- The text of a positive decimal: positional from `1e-5` up to below `1e16`,
with at least one digit behind the point, else with an exponent and its sign. -/
def decimalText (decimal : Decimal.Scientific) : List Char :=
  let digits := Text.decimalChars decimal.digits
  let length : Int := digits.length
  let point := length + decimal.exponent
  if 0 ≤ decimal.exponent ∧ point ≤ 16 then
    digits ++ List.replicate decimal.exponent.toNat '0' ++ ['.', '0']
  else if 0 < point ∧ point ≤ 16 then
    digits.take point.toNat ++ '.' :: digits.drop point.toNat
  else if -5 < point ∧ point ≤ 0 then
    '0' :: '.' :: List.replicate (-point).toNat '0' ++ digits
  else
    let tail := digits.drop 1
    let sign := if point < 1 then '-' else '+'
    digits.take 1 ++ (if tail.isEmpty then [] else '.' :: tail)
      ++ 'e' :: sign :: Text.decimalChars (point - 1).natAbs

def chars : Number → List Char
  | .integer value =>
    if value < 0 then '-' :: Text.decimalChars value.natAbs else Text.decimalChars value.toNat
  | .double bits =>
    let magnitude := bits &&& 0x7FFFFFFFFFFFFFFF
    (if bits == magnitude then [] else ['-'])
      ++ if magnitude == 0 then ['0', '.', '0']
        else decimalText (strip (Decimal.shortestOfBits magnitude))
where
  /-- Moves trailing zeros of the digits into the exponent. -/
  strip (decimal : Decimal.Scientific) : Decimal.Scientific :=
    let zeros := ((Text.decimalChars decimal.digits).reverse.takeWhile (· == '0')).length
    ⟨decimal.digits / Nat.pow 10 zeros, decimal.exponent + zeros⟩

end Number

end LocalCloud.Json
