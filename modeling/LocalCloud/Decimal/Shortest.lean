/-!
# Shortest decimals

The decimal with the fewest digits that reads back as a given binary floating
point number, and of those the nearest to it.  Numbers are given exactly, as an
integer times a power of two, and all comparisons are between integers.
-/

namespace LocalCloud.Decimal

/-- The decimal `digits * 10 ^ exponent`. -/
structure Scientific where
  digits : Nat
  exponent : Int
deriving DecidableEq, Repr

/-- A positive number and the interval of reals that round to it, as numerators
over the common denominator `den`; the ends belong to it when `closed`. -/
structure Cell where
  low : Nat
  value : Nat
  high : Nat
  den : Nat
  closed : Bool

/-- The cell of `mantissa * 2 ^ exponent`.  Below a power of two the neighbour is
only half as far away, unless the exponent is the least one. -/
def Cell.ofBinary (mantissa : Nat) (exponent : Int) (narrow : Bool) : Cell :=
  let scale := Nat.pow 2 (exponent - 2).toNat
  { low := (4 * mantissa - if narrow then 1 else 2) * scale
    value := 4 * mantissa * scale
    high := (4 * mantissa + 2) * scale
    den := Nat.pow 2 (2 - exponent).toNat
    closed := mantissa % 2 == 0 }

def compareScaled (digits : Nat) (exponent : Int) (num den : Nat) : Ordering :=
  compare (digits * Nat.pow 10 exponent.toNat * den) (num * Nat.pow 10 (-exponent).toNat)

/-- Whether a decimal lies in the cell. -/
def Cell.holds (cell : Cell) (digits : Nat) (exponent : Int) : Bool :=
  let below := compareScaled digits exponent cell.low cell.den
  let above := compareScaled digits exponent cell.high cell.den
  if cell.closed then below != .lt && above != .gt else below == .gt && above == .lt

/-- The greatest power of ten that is at most `num / den`. -/
def floorLog10 (num den : Nat) : Int :=
  let estimate := ((num.log2 : Int) - den.log2) * 30103 / 100000 - 1
  let atMost (power : Int) : Bool := compareScaled 1 power num den != .gt
  if atMost (estimate + 2) then estimate + 2
  else if atMost (estimate + 1) then estimate + 1
  else if atMost estimate then estimate
  else estimate - 1

/-- The member of the cell on the grid of `count` digits that is nearest to the
value; of two equally near ones the even one. -/
def Cell.onGrid? (cell : Cell) (top : Int) (count : Nat) : Option Scientific :=
  let exponent := top - (count : Int) + 1
  let num := cell.value * Nat.pow 10 (-exponent).toNat
  let den := cell.den * Nat.pow 10 exponent.toNat
  let below := num / den
  let twice := 2 * (num % den)
  let preferAbove := twice > den || (twice == den && below % 2 == 1)
  let (first, second) := if preferAbove then (below + 1, below) else (below, below + 1)
  if cell.holds first exponent then some ⟨first, exponent⟩
  else if cell.holds second exponent then some ⟨second, exponent⟩
  else none

/-- The shortest decimal in the cell; seventeen digits always suffice. -/
def Cell.shortest (cell : Cell) : Scientific :=
  let top := floorLog10 cell.value cell.den
  match (List.range 17).findSome? (fun count => cell.onGrid? top (count + 1)) with
  | some decimal => decimal
  | none => ⟨cell.value / cell.den, 0⟩

def shortestOfBits (bits : UInt64) : Scientific :=
  let field := (bits >>> 52).toNat % 2048
  let fraction := bits.toNat % 0x10000000000000
  if field == 0 then (Cell.ofBinary fraction (-1074) false).shortest
  else
    (Cell.ofBinary (0x10000000000000 + fraction) (field - 1075)
      (fraction == 0 && field > 1)).shortest

end LocalCloud.Decimal
