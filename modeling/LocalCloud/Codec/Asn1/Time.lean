import LocalCloud.Codec.Asn1
import LocalCloud.TimeStamp

/-!
# Points in time in ASN.1

A point in time is written in decimal digits, with a year of two digits or of four.
Certificates may leave out the seconds, and a time with a short year may tell its
distance to universal time; in an exact form the time is universal and to the second.
-/

namespace LocalCloud.Asn1

namespace Reader

/-- The letter `Z`, which stands for universal time. -/
def zulu : UInt8 := 0x5A

def byte : Reader UInt8
  | [] => none
  | first :: rest => some (first, rest)

def digit : Reader Nat := do
  let byte ← byte
  guard (0x30 ≤ byte && byte ≤ 0x39)
  return byte.toNat - 0x30

/-- A number of two digits. -/
def twoDigits : Reader Nat :=
  return (← digit) * 10 + (← digit)

/-- A number of two digits up to a bound. -/
def upTo (bound : Nat) : Reader Unit := do
  guard ((← twoDigits) ≤ bound)

/-- The month, day, hour and minute behind a year. -/
def monthToMinute (year : Nat) : Reader Unit := do
  let month ← twoDigits
  let day ← twoDigits
  guard (1 ≤ month && month ≤ 12 && 1 ≤ day && day ≤ TimeStamp.daysOf year month)
  upTo 23
  upTo 59

/-- Digits of a fraction of a second behind a point, if there are any. -/
def fraction (most : Nat) : Reader Unit := do
  if ← isNext 0x2E then
    let _ ← byte
    let digits ← many1 digit
    guard (digits.length ≤ most)

def universal : Reader Unit := do
  guard ((← byte) == zulu)

/-- Universal time, or the hours and minutes before or behind it. -/
def zone : Reader Unit := do
  let mark ← byte
  unless mark == zulu do
    guard (mark == 0x2B || mark == 0x2D)
    upTo 25
    upTo 59

/-- A time with a year of two digits. -/
def utcTime (isExact : Bool) : Reader Unit := do
  monthToMinute (← twoDigits)
  if isExact then
    upTo 59
    universal
  else
    unless ← isNext zulu do
      upTo 59
    zone

/-- A time with a year of four digits. -/
def generalizedTime (isExact : Bool) : Reader Unit := do
  let century ← twoDigits
  monthToMinute (century * 100 + (← twoDigits))
  if isExact then
    upTo 59
    fraction 9
  else
    unless ← isNext zulu do
      upTo 59
      fraction 3
  universal

/-- Whether a reader takes all of some bytes. -/
def takesAll (reader : Reader Unit) (bytes : Bytes) : Bool :=
  match reader bytes with
  | some ((), rest) => rest.isEmpty
  | none => false

end Reader

def utcTimeTag : UInt8 := 0x17

def generalizedTimeTag : UInt8 := 0x18

/-- Whether an element is a point in time. -/
def Element.isTime (element : Element) : Bool :=
  if element.tag = utcTimeTag then (Reader.utcTime false).takesAll element.contents
  else if element.tag = generalizedTimeTag then
    (Reader.generalizedTime false).takesAll element.contents
  else false

end LocalCloud.Asn1
