/-!
# Double-precision numbers

A number is its 64 bits. A finite one is `± m · 2^q` with `m < 2^53` and `-1074 ≤ q`, and a
quotient of naturals is rounded to the nearest such number, ties to the even `m`.
-/
namespace RequestDispatch

structure Binary64 where
  bits : UInt64
  deriving DecidableEq, Repr

namespace Binary64

def signBit : Nat := 0x8000000000000000
def infinityBits : Nat := 0x7FF0000000000000

/-- The weight of the exponent's lowest bit, and of the leading bit of a full significand: `2^52`. -/
def leadingBit : Nat := 0x10000000000000

def magnitudeBits (x : Binary64) : Nat :=
  x.bits.toNat % signBit

def isNegative (x : Binary64) : Bool :=
  signBit ≤ x.bits.toNat

def isFinite (x : Binary64) : Bool :=
  x.magnitudeBits < infinityBits

def significand (x : Binary64) : Nat :=
  let field : Nat := x.magnitudeBits / leadingBit
  let fraction := x.magnitudeBits % leadingBit
  if field = 0 then fraction else leadingBit + fraction

def exponent (x : Binary64) : Int :=
  let field : Nat := x.magnitudeBits / leadingBit
  if field = 0 then -1074 else (field : Int) - 1075

def ofMagnitudeBits (negative : Bool) (magnitude : Nat) : Binary64 :=
  ⟨UInt64.ofNat ((if negative then signBit else 0) + magnitude)⟩

def zero (negative : Bool) : Binary64 :=
  ofMagnitudeBits negative 0

def infinity (negative : Bool) : Binary64 :=
  ofMagnitudeBits negative infinityBits

/-- The integer nearest to `num / den`, the even one of two. -/
def roundQuotient (num den : Nat) : Nat :=
  let q := num / den
  let r := num % den
  if 2 * r < den then q
  else if den < 2 * r then q + 1
  else if q % 2 = 0 then q else q + 1

def scaled (num den : Nat) (q : Int) : Nat × Nat :=
  if 0 ≤ q then (num, den * Nat.pow 2 q.toNat) else (num * Nat.pow 2 (-q).toNat, den)

/-- The exponent of the highest power of two that is at most `num / den`. -/
def floorLog2 (num den : Nat) : Int :=
  let guess := (num.log2 : Int) - den.log2
  let (n, d) := scaled num den guess
  if d ≤ n then guess else guess - 1

/-- The nearest number to `± num / den`; infinity beyond the largest finite one. -/
def ofRatio (negative : Bool) (num den : Nat) : Binary64 :=
  if num = 0 then zero negative
  else
    let q := max (floorLog2 num den - 52) (-1074)
    let (n, d) := scaled num den q
    let magnitude := (q + 1074).toNat * leadingBit + roundQuotient n d
    ofMagnitudeBits negative (min magnitude infinityBits)

def decimalLength (n : Nat) : Nat :=
  (Nat.toDigits 10 n).length

/-- The nearest number to `± mantissa · 10^power`. Powers far outside the range are not computed. -/
def ofDecimal (negative : Bool) (mantissa : Nat) (power : Int) : Binary64 :=
  if mantissa = 0 then zero negative
  else
    let magnitude := (decimalLength mantissa : Int) + power
    if 310 < magnitude then infinity negative
    else if magnitude < -330 then zero negative
    else if 0 ≤ power then ofRatio negative (mantissa * Nat.pow 10 power.toNat) 1
    else ofRatio negative mantissa (Nat.pow 10 (-power).toNat)

def toRatio (x : Binary64) : Nat × Nat :=
  if 0 ≤ x.exponent then (x.significand * Nat.pow 2 x.exponent.toNat, 1)
  else (x.significand, Nat.pow 2 (-x.exponent).toNat)

def negate (x : Binary64) : Binary64 :=
  ofMagnitudeBits (!x.isNegative) x.magnitudeBits

def times (x y : Binary64) : Binary64 :=
  let (a, b) := x.toRatio
  let (c, d) := y.toRatio
  ofRatio false (a * c) (b * d)

def dividedBy (x y : Binary64) : Binary64 :=
  let (a, b) := x.toRatio
  let (c, d) := y.toRatio
  ofRatio false (a * d) (b * c)

def ofInt (n : Int) : Binary64 :=
  ofRatio (n < 0) n.natAbs 1

end Binary64

end RequestDispatch
