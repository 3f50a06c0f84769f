import RequestDispatch.Number.Literal

/-!
# Dates and times

Dates of the calendar, times of the day with up to nine places of a second, and offsets from
universal time; their texts are read in the spellings of configuration files and written in one.
-/
namespace RequestDispatch.Toml

structure Date where
  year : Nat
  month : Nat
  day : Nat
  deriving DecidableEq, Repr

structure Time where
  hour : Nat
  minute : Nat
  second : Nat
  nanosecond : Nat
  deriving DecidableEq, Repr

inductive Offset where
  | universal
  | minutes (count : Int)
  deriving DecidableEq, Repr

inductive DateTime where
  | date (d : Date)
  | time (t : Time)
  | moment (d : Date) (t : Time) (offset? : Option Offset)
  deriving DecidableEq, Repr

def isLeapYear (year : Nat) : Bool :=
  year % 4 = 0 && (year % 100 ≠ 0 || year % 400 = 0)

def daysIn (year month : Nat) : Nat :=
  match month with
  | 2 => if isLeapYear year then 29 else 28
  | 4 | 6 | 9 | 11 => 30
  | _ => 31

def Date.isValid (d : Date) : Bool :=
  1 ≤ d.month && d.month ≤ 12 && 1 ≤ d.day && d.day ≤ daysIn d.year d.month

/-- A leap second is a time. -/
def Time.isValid (t : Time) : Bool :=
  t.hour ≤ 23 && t.minute ≤ 59 && t.second ≤ 60

/-! ### Reading -/

def digits? (count : Nat) (s : List Char) : Option (Nat × List Char) :=
  let front := s.take count
  if front.length = count && front.all Char.isDigit then
    some (Literal.digitsValue front, s.drop count)
  else none

def skip? (c : Char) : List Char → Option (List Char)
  | d :: rest => if d = c then some rest else none
  | [] => none

def date? (s : List Char) : Option (Date × List Char) := do
  let (year, s) ← digits? 4 s
  let s ← skip? '-' s
  let (month, s) ← digits? 2 s
  let s ← skip? '-' s
  let (day, s) ← digits? 2 s
  let d : Date := ⟨year, month, day⟩
  if d.isValid then some (d, s) else none

/-- Places after the point of a second; those beyond the ninth are dropped. -/
def nanoseconds (places : List Char) : Nat :=
  let kept := places.take 9
  Literal.digitsValue kept * Nat.pow 10 (9 - kept.length)

def seconds? : List Char → Option (Nat × Nat × List Char)
  | ':' :: s => do
    let (second, s) ← digits? 2 s
    match s with
    | '.' :: s =>
      let places := s.takeWhile Char.isDigit
      if places = [] then none
      else some (second, nanoseconds places, s.dropWhile Char.isDigit)
    | s => some (second, 0, s)
  | s => some (0, 0, s)

def time? (s : List Char) : Option (Time × List Char) := do
  let (hour, s) ← digits? 2 s
  let s ← skip? ':' s
  let (minute, s) ← digits? 2 s
  let (second, nanosecond, s) ← seconds? s
  let t : Time := ⟨hour, minute, second, nanosecond⟩
  if t.isValid then some (t, s) else none

def hoursAndMinutes? (s : List Char) : Option Nat := do
  let (hour, s) ← digits? 2 s
  let s ← skip? ':' s
  let (minute, s) ← digits? 2 s
  if s = [] && hour ≤ 23 && minute ≤ 59 then some (60 * hour + minute) else none

/-- The offset that the rest of a moment spells: nothing, a letter, or a signed time. -/
def offset? : List Char → Option (Option Offset)
  | [] => some none
  | ['Z'] | ['z'] => some (some .universal)
  | '+' :: s => (hoursAndMinutes? s).map fun n => some (.minutes n)
  | '-' :: s => (hoursAndMinutes? s).map fun n => some (.minutes (-n))
  | _ => none

def isDelimiter (c : Char) : Bool :=
  c = 'T' || c = 't' || c = ' '

def DateTime.read? (s : List Char) : Option DateTime :=
  match date? s with
  | some (d, []) => some (.date d)
  | some (d, c :: rest) =>
    if isDelimiter c then do
      let (t, rest) ← time? rest
      let offset ← offset? rest
      some (.moment d t offset)
    else none
  | none =>
    match time? s with
    | some (t, []) => some (.time t)
    | _ => none

/-! ### Writing -/

def padded (width n : Nat) : String :=
  let digits := toString n
  String.ofList (List.replicate (width - digits.length) '0') ++ digits

def Date.text (d : Date) : String :=
  padded 4 d.year ++ "-" ++ padded 2 d.month ++ "-" ++ padded 2 d.day

def fractionText (nanosecond : Nat) : String :=
  if nanosecond = 0 then ""
  else "." ++ String.ofList (((padded 9 nanosecond).toList.reverse.dropWhile (· = '0')).reverse)

def Time.text (t : Time) : String :=
  padded 2 t.hour ++ ":" ++ padded 2 t.minute ++ ":" ++ padded 2 t.second ++
    fractionText t.nanosecond

def Offset.text : Offset → String
  | universal => "Z"
  | minutes count =>
    (if count < 0 then "-" else "+") ++ padded 2 (count.natAbs / 60) ++ ":" ++
      padded 2 (count.natAbs % 60)

def DateTime.text : DateTime → String
  | date d => d.text
  | time t => t.text
  | moment d t offset =>
    d.text ++ "T" ++ t.text ++
      (match offset with
      | none => ""
      | some o => o.text)

end RequestDispatch.Toml
