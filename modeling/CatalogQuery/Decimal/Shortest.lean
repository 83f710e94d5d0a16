import CatalogQuery.Decimal.Binary

/-!
# The fewest digits that read back

The numbers that round to a floating-point value form an interval around it, which has its ends
when the mantissa is even. `Magnitude.shortest` finds the coarsest grid of multiples of a power of
ten that has a point in the interval, and takes the point next to the value. It looks only at the
two neighbours of the value on each grid: if any point of the grid lies in the interval, one of
these does.

All comparisons are between natural numbers, in quarters of the unit of the last binary place.
-/

namespace CatalogQuery

/-- Which of two equally near decimals is taken. -/
inductive Tie where
  | up
  | toEven
  deriving DecidableEq, Repr

namespace Magnitude

/-! ## The rounding interval -/

/-- The lower end of the interval, in quarters of the last binary place. -/
def low (x : Magnitude) : Nat := 4 * x.mantissa - (if x.closeBelow then 1 else 2)

/-- The upper end of the interval, in quarters of the last binary place. -/
def high (x : Magnitude) : Nat := 4 * x.mantissa + 2

/-- The size of a step of the grid of multiples of `10 ^ k`, on the common scale. -/
def gridUnit (x : Magnitude) (k : Int) : Nat :=
  Nat.pow 10 k.toNat * Nat.pow 2 (2 - x.exponent).toNat

/-- The size of a quarter of the last binary place, on the common scale. -/
def binaryUnit (x : Magnitude) (k : Int) : Nat :=
  Nat.pow 2 (x.exponent - 2).toNat * Nat.pow 10 (-k).toNat

/-- Does the grid point `d * 10 ^ k` round to the value? -/
def roundsTo (x : Magnitude) (k : Int) (d : Nat) : Bool :=
  let point := d * x.gridUnit k
  let low := x.low * x.binaryUnit k
  let high := x.high * x.binaryUnit k
  if x.mantissa % 2 = 0 then decide (low ≤ point ∧ point ≤ high)
  else decide (low < point ∧ point < high)

/-! ## The nearest point of a grid -/

/-- The point of the grid next to the value among its two neighbours, if one of them rounds to
the value. -/
def gridPoint? (x : Magnitude) (tie : Tie) (k : Int) : Option Nat :=
  let value := 4 * x.mantissa * x.binaryUnit k
  let below := value / x.gridUnit k
  match x.roundsTo k below, x.roundsTo k (below + 1) with
  | false, false => none
  | true, false => some below
  | false, true => some (below + 1)
  | true, true =>
    match compare (2 * value) ((2 * below + 1) * x.gridUnit k) with
    | .lt => some below
    | .gt => some (below + 1)
    | .eq =>
      match tie with
      | .up => some (below + 1)
      | .toEven => some (if below % 2 = 0 then below else below + 1)

/-- The exponent of a grid that holds the value itself. -/
def finest (x : Magnitude) : Int := min x.exponent 0

/-- The exponent of a power of ten above the interval. -/
def coarsest (x : Magnitude) : Int :=
  let bits := (x.high.log2 : Int) + x.exponent - 1
  if bits ≤ 0 then -(-bits * 3 / 10) else bits / 3 + 1

/-- Search the grids from `10 ^ (finest + n)` down. The finest grid holds the value. -/
def shortestFrom (x : Magnitude) (tie : Tie) : Nat → Nat × Int
  | 0 => (4 * x.mantissa * x.binaryUnit x.finest / x.gridUnit x.finest, x.finest)
  | n + 1 =>
    let k := x.finest + (n + 1 : Nat)
    match x.gridPoint? tie k with
    | some d => (d, k)
    | none => shortestFrom x tie n

/-- The decimal `d * 10 ^ k` with the fewest digits that reads back to the value, the nearest one
of these. -/
def shortest (x : Magnitude) (tie : Tie) : Nat × Int :=
  x.shortestFrom tie (x.coarsest - x.finest).toNat

end Magnitude
end CatalogQuery
