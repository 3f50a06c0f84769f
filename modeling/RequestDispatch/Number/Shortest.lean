import RequestDispatch.Number.Binary64

/-!
# The shortest decimal that reads back

Among the decimals that round to a given number, those with the fewest digits, and of these the
nearest. For a digit count it suffices to test the two neighbours of the value on that grid.
-/
namespace RequestDispatch

/-- `digits · 10^power`, with no zero at the end of `digits`. -/
structure Decimal where
  digits : Nat
  power : Int
  deriving DecidableEq, Repr

namespace Decimal

structure Ratio where
  num : Nat
  den : Nat

def Ratio.lt (a b : Ratio) : Bool := a.num * b.den < b.num * a.den
def Ratio.le (a b : Ratio) : Bool := a.num * b.den ≤ b.num * a.den

def scale (n : Nat) (base : Nat) (power : Int) : Ratio :=
  if 0 ≤ power then ⟨n * Nat.pow base power.toNat, 1⟩ else ⟨n, Nat.pow base (-power).toNat⟩

structure Rounding where
  lower : Ratio
  upper : Ratio
  closed : Bool

def rounding (m : Nat) (q : Int) : Rounding where
  lower :=
    if m = Binary64.leadingBit ∧ -1074 < q then scale (4 * m - 1) 2 (q - 2)
    else scale (2 * m - 1) 2 (q - 1)
  upper := scale (2 * m + 1) 2 (q - 1)
  closed := m % 2 = 0

def Rounding.contains (r : Rounding) (x : Ratio) : Bool :=
  if r.closed then r.lower.le x && x.le r.upper else r.lower.lt x && x.lt r.upper

def magnitudeFrom (value : Ratio) (low : Int) : Nat → Int
  | 0 => low
  | fuel + 1 => if value.lt (scale 1 10 low) then low else magnitudeFrom value (low + 1) fuel

/-- The best decimal on the grid of `10^power`, if one rounds to the value. -/
def onGrid? (r : Rounding) (value : Ratio) (power : Int) : Option Nat :=
  let unit := scale 1 10 power
  let below := value.num * unit.den / (value.den * unit.num)
  let above := below + 1
  let inBelow := below ≠ 0 && r.contains (scale below 10 power)
  let inAbove := r.contains (scale above 10 power)
  if inBelow && inAbove then
    -- twice the value against the sum of its neighbours
    let doubled := 2 * value.num * unit.den
    let middle := (below + above) * (value.den * unit.num)
    if doubled < middle then some below
    else if middle < doubled then some above
    else if below % 2 = 0 then some below else some above
  else if inBelow then some below
  else if inAbove then some above
  else none

def searchFrom (r : Rounding) (value : Ratio) (magnitude : Int) (count : Nat) : Nat → Decimal
  | 0 => ⟨0, 0⟩
  | fuel + 1 =>
    match onGrid? r value (magnitude - count) with
    | some digits => ⟨digits, magnitude - count⟩
    | none => searchFrom r value magnitude (count + 1) fuel

def dropZeros (d : Decimal) : Nat → Decimal
  | 0 => d
  | fuel + 1 =>
    if d.digits ≠ 0 ∧ d.digits % 10 = 0 then dropZeros ⟨d.digits / 10, d.power + 1⟩ fuel else d

def ofBinary64 (x : Binary64) : Decimal :=
  if x.significand = 0 then ⟨0, 0⟩
  else
    let value := scale x.significand 2 x.exponent
    let start := ((x.significand.log2 : Int) + x.exponent) * 30103 / 100000 - 1
    let magnitude := magnitudeFrom value start 4
    dropZeros (searchFrom (rounding x.significand x.exponent) value magnitude 1 17) 17

end Decimal

end RequestDispatch
