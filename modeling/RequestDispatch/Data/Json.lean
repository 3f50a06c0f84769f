import RequestDispatch.Data.Value
import RequestDispatch.Number.Literal
import RequestDispatch.Number.Shortest
import RequestDispatch.Text.Hex

/-!
# Values as JSON text

Reading refuses what the grammar refuses, nesting of 128 levels, and numbers beyond the largest
double; of two fields with one key the later counts. Integers that fit 64 bits stay integers.
Writing has no blanks and orders fields by key.
-/
namespace RequestDispatch.Json

def isSpace (c : Char) : Bool :=
  c = ' ' || c = '\n' || c = '\t' || c = '\r'

def skipSpace (s : List Char) : List Char :=
  s.dropWhile isSpace

/-! ### Numbers -/

/-- Appends digits to `n` while the result fits 64 bits, and returns the digits left over. -/
def appendDigits (n : Nat) : List Char → Nat × List Char
  | [] => (n, [])
  | c :: rest =>
    let next := 10 * n + (c.toNat - '0'.toNat)
    if next < UInt64.size then appendDigits next rest else (n, c :: rest)

def tenTo (k : Nat) : Binary64 :=
  Binary64.ofRatio false (Nat.pow 10 k) 1

/-- `f · 10^power` by one multiplication or by divisions, each of them rounded. Overflow has no
result. -/
def scaleByTen? (f : Binary64) (power : Int) : Nat → Option Binary64
  | 0 => some (Binary64.zero false)
  | fuel + 1 =>
    if power.natAbs ≤ 308 then
      if 0 ≤ power then some (f.times (tenTo power.toNat)) |>.filter (·.isFinite)
      else some (f.dividedBy (tenTo power.natAbs))
    else if f.significand = 0 then some f
    else if 0 ≤ power then none
    else scaleByTen? (f.dividedBy (tenTo 308)) (power + 308) fuel

def float? (negative : Bool) (significand : Nat) (power : Int) : Option Value :=
  (scaleByTen? (Binary64.ofRatio false significand 1) power 5).map fun f =>
    .float (if negative then f.negate else f)

/-- An integer stays one if it fits 64 bits, signed when negative; a negative zero does not. -/
def integer? (negative : Bool) (n : Nat) : Option Value :=
  if !negative then some (.int n)
  else if 0 < n ∧ n ≤ 0x8000000000000000 then some (.int (-n))
  else float? true n 0

/-- The power of ten after a significand: its value and the rest of the text. -/
def exponent? : List Char → Option (Option Int × List Char)
  | [] => some (none, [])
  | c :: rest =>
    if c = 'e' || c = 'E' then
      let (negative, body) := Literal.sign rest
      let digits := body.takeWhile Char.isDigit
      if digits = [] then none
      else
        let n : Int := Literal.digitsValue digits
        some (some (if negative then -n else n), body.dropWhile Char.isDigit)
    else some (none, c :: rest)

def number? (s : List Char) : Option (Value × List Char) :=
  let (negative, body) :=
    match s with
    | '-' :: rest => (true, rest)
    | rest => (false, rest)
  let whole := body.takeWhile Char.isDigit
  let tail := body.dropWhile Char.isDigit
  if whole = [] || (whole.head? = some '0' && whole.length ≠ 1) then none
  else
    let (n, surplus) := appendDigits 0 whole
    match tail with
    | '.' :: rest =>
      let fraction := rest.takeWhile Char.isDigit
      if fraction = [] then none
      else
        let (n, unread) := appendDigits n fraction
        let taken : Int := fraction.length - unread.length
        match exponent? (rest.dropWhile Char.isDigit) with
        | none => none
        | some (power, rest) =>
          (float? negative n (surplus.length - taken + power.getD 0)).map (·, rest)
    | tail =>
      match exponent? tail with
      | none => none
      | some (some power, rest) => (float? negative n (surplus.length + power)).map (·, rest)
      | some (none, rest) =>
        if surplus = [] then (integer? negative n).map (·, rest)
        else (float? negative n surplus.length).map (·, rest)

/-! ### Strings -/

def unit? (a b c d : Char) : Option Nat :=
  if [a, b, c, d].all Text.isHexDigit then some (Text.hexValue [a, b, c, d]) else none

def simpleEscape? : Char → Option Char
  | '"' => some '"'
  | '\\' => some '\\'
  | '/' => some '/'
  | 'b' => some '\x08'
  | 'f' => some '\x0c'
  | 'n' => some '\n'
  | 'r' => some '\r'
  | 't' => some '\t'
  | _ => none

/-- The characters up to the closing quote. A surrogate counts only as half of a pair. -/
def stringBody? : List Char → Option (List Char × List Char)
  | [] => none
  | '"' :: rest => some ([], rest)
  | '\\' :: 'u' :: a :: b :: c :: d :: rest =>
    match unit? a b c d with
    | none => none
    | some unit =>
      if 0xD800 ≤ unit ∧ unit < 0xDC00 then
        match rest with
        | '\\' :: 'u' :: e :: f :: g :: h :: rest =>
          match unit? e f g h with
          | none => none
          | some low =>
            if 0xDC00 ≤ low ∧ low < 0xE000 then
              (stringBody? rest).map fun (cs, tail) =>
                (Char.ofNat (0x10000 + (unit - 0xD800) * 0x400 + (low - 0xDC00)) :: cs, tail)
            else none
        | _ => none
      else if 0xDC00 ≤ unit ∧ unit < 0xE000 then none
      else (stringBody? rest).map fun (cs, tail) => (Char.ofNat unit :: cs, tail)
  | '\\' :: e :: rest =>
    match simpleEscape? e with
    | none => none
    | some c => (stringBody? rest).map fun (cs, tail) => (c :: cs, tail)
  | c :: rest =>
    if c = '\\' || c.toNat < 0x20 then none
    else (stringBody? rest).map fun (cs, tail) => (c :: cs, tail)

/-! ### Values -/

def literal? (word : String) (v : Value) (s : List Char) : Option (Value × List Char) :=
  (Text.after? word.toList s).map (v, ·)

def maxDepth : Nat := 128

mutual

/-- One value and the text behind it. `depth` is the number of levels that may still open. -/
def value? (depth : Nat) : Nat → List Char → Option (Value × List Char)
  | 0, _ => none
  | fuel + 1, s =>
    match skipSpace s with
    | '"' :: rest => (stringBody? rest).map fun (cs, tail) => (.text (String.ofList cs), tail)
    | '[' :: rest =>
      if depth ≤ 1 then none
      else
        match skipSpace rest with
        | ']' :: tail => some (.list [], tail)
        | rest => (items? (depth - 1) fuel rest).map fun (vs, tail) => (.list vs, tail)
    | '\x7b' :: rest =>
      if depth ≤ 1 then none
      else
        match skipSpace rest with
        | '\x7d' :: tail => some (.object [], tail)
        | rest =>
          (fields? (depth - 1) fuel rest).map fun (fs, tail) => (.object (Value.ofFields fs), tail)
    | 'n' :: rest => literal? "ull" .null rest
    | 't' :: rest => literal? "rue" (.bool true) rest
    | 'f' :: rest => literal? "alse" (.bool false) rest
    | s => number? s

def items? (depth : Nat) : Nat → List Char → Option (List Value × List Char)
  | 0, _ => none
  | fuel + 1, s =>
    match value? depth fuel s with
    | none => none
    | some (v, rest) =>
      match skipSpace rest with
      | ',' :: rest => (items? depth fuel rest).map fun (vs, tail) => (v :: vs, tail)
      | ']' :: tail => some ([v], tail)
      | _ => none

def fields? (depth : Nat) : Nat → List Char → Option (List (String × Value) × List Char)
  | 0, _ => none
  | fuel + 1, s =>
    match skipSpace s with
    | '"' :: rest =>
      match stringBody? rest with
      | none => none
      | some (key, rest) =>
        match skipSpace rest with
        | ':' :: rest =>
          match value? depth fuel rest with
          | none => none
          | some (v, rest) =>
            match skipSpace rest with
            | ',' :: rest =>
              (fields? depth fuel rest).map fun (fs, tail) => ((String.ofList key, v) :: fs, tail)
            | '\x7d' :: tail => some ([(String.ofList key, v)], tail)
            | _ => none
        | _ => none
    | _ => none

end

def read? (s : List Char) : Option Value :=
  match value? maxDepth (2 * s.length + 2) s with
  | some (v, rest) => if skipSpace rest = [] then some v else none
  | none => none

/-! ### Writing -/

def escape (c : Char) : String :=
  match c with
  | '"' => "\\\""
  | '\\' => "\\\\"
  | '\x08' => "\\b"
  | '\x0c' => "\\f"
  | '\n' => "\\n"
  | '\r' => "\\r"
  | '\t' => "\\t"
  | c =>
    if c.toNat < 0x20 then
      "\\u00" ++ String.ofList [Nat.digitChar (c.toNat / 16), Nat.digitChar (c.toNat % 16)]
    else c.toString

def quote (s : String) : String :=
  "\"" ++ String.join (s.toList.map escape) ++ "\""

def pointAfter (n : Nat) (digits : List Char) : String :=
  String.ofList (digits.take n) ++ "." ++ String.ofList (digits.drop n)

/-- Numbers from 1e-5 up to 1e16 are written positionally with a digit after the point, all
others with a signed power of ten. Numbers that are not finite are written `null`. -/
def floatText (x : Binary64) : String :=
  if !x.isFinite then "null"
  else
    let minus := if x.isNegative then "-" else ""
    let d := Decimal.ofBinary64 x
    let digits := Nat.toDigits 10 d.digits
    let lead : Int := d.power + digits.length
    let body :=
      if d.digits = 0 then "0.0"
      else if 0 ≤ d.power ∧ lead ≤ 16 then
        String.ofList (digits ++ List.replicate d.power.toNat '0') ++ ".0"
      else if 0 < lead ∧ lead ≤ 16 then pointAfter lead.toNat digits
      else if -5 < lead ∧ lead ≤ 0 then
        "0." ++ String.ofList (List.replicate (-lead).toNat '0' ++ digits)
      else
        let mantissa :=
          if digits.length = 1 then String.ofList digits else pointAfter 1 digits
        let power := lead - 1
        mantissa ++ "e" ++ (if 0 ≤ power then "+" else "-") ++ toString power.natAbs
    minus ++ body

def write : Value → String
  | .null => "null"
  | .bool b => if b then "true" else "false"
  | .int n => toString n
  | .float x => floatText x
  | .text s => quote s
  | .list items => "[" ++ ",".intercalate (writeItems items) ++ "]"
  | .object fields => "\x7b" ++ ",".intercalate (writeFields fields) ++ "\x7d"
where
  writeItems : List Value → List String
    | [] => []
    | v :: rest => write v :: writeItems rest
  writeFields : List (String × Value) → List String
    | [] => []
    | (key, v) :: rest => (quote key ++ ":" ++ write v) :: writeFields rest

end RequestDispatch.Json
