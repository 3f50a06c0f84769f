import RequestDispatch.Data.Toml.DateTime
import RequestDispatch.Data.Value
import RequestDispatch.Text.Hex
import RequestDispatch.Text.Split

/-!
# Unquoted scalars

Truth values, integers of 64 signed bits, floats, dates and times. Digits may be grouped by single
underscores. Infinity and not-a-number have no value in data and are read as null; a float beyond
the largest double is refused.
-/
namespace RequestDispatch.Toml

def ungrouped? (isDigit : Char → Bool) (s : List Char) : Option (List Char) :=
  let groups := Text.split '_' s
  if groups.all fun g => g ≠ [] && g.all isDigit then some groups.flatten else none

/-- No zero stands before another digit. -/
def isPlain : List Char → Bool
  | '0' :: _ :: _ => false
  | _ => true

def isOctalDigit (c : Char) : Bool :=
  '0' ≤ c && c ≤ '7'

def isBinaryDigit (c : Char) : Bool :=
  c = '0' || c = '1'

def inBase (base : Nat) (digits : List Char) : Nat :=
  digits.foldl (fun n c => base * n + Text.hexDigit c) 0

def fits64 (n : Int) : Bool :=
  Literal.minInt64 ≤ n && n ≤ Literal.maxInt64

def integer? (s : List Char) : Option Int :=
  let n? :=
    match s with
    | '0' :: 'x' :: digits => (ungrouped? Text.isHexDigit digits).map fun ds => (inBase 16 ds : Int)
    | '0' :: 'o' :: digits => (ungrouped? isOctalDigit digits).map fun ds => (inBase 8 ds : Int)
    | '0' :: 'b' :: digits => (ungrouped? isBinaryDigit digits).map fun ds => (inBase 2 ds : Int)
    | s =>
      let (negative, body) := Literal.sign s
      ((ungrouped? Char.isDigit body).filter fun ds => isPlain ds).map fun ds =>
        if negative then -(inBase 10 ds : Int) else inBase 10 ds
  n?.filter fits64

def plainFloat? (s : List Char) : Option (List Char) :=
  let mantissa := s.takeWhile fun c => c ≠ 'e' && c ≠ 'E'
  let power? : Option (List Char) :=
    match s.dropWhile fun c => c ≠ 'e' && c ≠ 'E' with
    | [] => some []
    | _ :: power =>
      let (negative, digits) := Literal.sign power
      (ungrouped? Char.isDigit digits).map fun ds => 'e' :: (if negative then '-' :: ds else ds)
  let whole := Text.upTo '.' mantissa
  let fraction? : Option (List Char) :=
    match mantissa.dropWhile (· ≠ '.') with
    | [] => some []
    | _ :: digits => (ungrouped? Char.isDigit digits).map ('.' :: ·)
  match ungrouped? Char.isDigit whole, fraction?, power? with
  | some whole, some fraction, some power =>
    if isPlain whole && (fraction ≠ [] || power ≠ []) then some (whole ++ fraction ++ power) else none
  | _, _, _ => none

def float? (s : List Char) : Option Value :=
  let (negative, body) := Literal.sign s
  if body = "inf".toList || body = "nan".toList then some .null
  else do
    let literal ← plainFloat? body
    let x ← Literal.float? (if negative then '-' :: literal else literal)
    if x.isFinite then some (.float x) else none

/-- The field that marks a date or time among plain data. -/
def momentKey : String := "$__toml_private_datetime"

def moment? (s : List Char) : Option Value :=
  (DateTime.read? s).map fun d => .object [(momentKey, .text d.text)]

def scalar? (s : List Char) : Option Value :=
  if s = "true".toList then some (.bool true)
  else if s = "false".toList then some (.bool false)
  else ((integer? s).map .int).or ((float? s).or (moment? s))

end RequestDispatch.Toml
