import RequestDispatch.Number.Binary64
import RequestDispatch.Text.Split

/-!
# Number literals

Signed decimal integers, and decimal fractions with an optional power of ten. A fraction needs a
digit on one side of the point at least; a power needs one digit.
-/
namespace RequestDispatch.Literal

def digitsValue (digits : List Char) : Nat :=
  digits.foldl (fun n c => 10 * n + (c.toNat - '0'.toNat)) 0

def allDigits (digits : List Char) : Bool :=
  digits ≠ [] && digits.all Char.isDigit

def sign : List Char → Bool × List Char
  | '-' :: rest => (true, rest)
  | '+' :: rest => (false, rest)
  | rest => (false, rest)

def integer? (s : List Char) : Option Int :=
  let (negative, digits) := sign s
  if allDigits digits then
    some (if negative then -(digitsValue digits : Int) else digitsValue digits)
  else none

def minInt64 : Int := -0x8000000000000000
def maxInt64 : Int := 0x7FFFFFFFFFFFFFFF
def maxWord64 : Int := 0xFFFFFFFFFFFFFFFF

def int64? (s : List Char) : Option Int :=
  (integer? s).filter fun n => minInt64 ≤ n && n ≤ maxInt64

def lowerAscii (s : List Char) : List Char :=
  s.map Char.toLower

def power? : List Char → Option Int
  | [] => some 0
  | c :: rest =>
    if c = 'e' || c = 'E' then integer? rest else none

/-- The nearest double to a decimal literal. The words for infinity and not-a-number are read in
any case. -/
def float? (s : List Char) : Option Binary64 :=
  let (negative, body) := sign s
  let word := lowerAscii body
  if word = "inf".toList || word = "infinity".toList then some (Binary64.infinity negative)
  else if word = "nan".toList then
    some (Binary64.ofMagnitudeBits negative (Binary64.infinityBits + Binary64.leadingBit / 2))
  else
    let whole := body.takeWhile Char.isDigit
    let tail := body.dropWhile Char.isDigit
    let (fraction, tail) :=
      match tail with
      | '.' :: rest => (rest.takeWhile Char.isDigit, rest.dropWhile Char.isDigit)
      | rest => ([], rest)
    if whole = [] && fraction = [] then none
    else (power? tail).map fun power =>
      Binary64.ofDecimal negative (digitsValue (whole ++ fraction)) (power - fraction.length)

end RequestDispatch.Literal
