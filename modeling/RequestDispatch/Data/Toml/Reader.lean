import RequestDispatch.Data.Toml.Number
import RequestDispatch.Data.Toml.Table

/-!
# Reading configuration tables

A document is a list of assignments and sections, one on each line; values between brackets or
braces may go over several lines and nest to a fixed depth. The functions that read values count
down on their second argument, which the length of the text bounds.
-/
namespace RequestDispatch.Toml

/-- A control character stands nowhere, a tab and the two forms of a line end apart. -/
def isClean : List Char → Bool
  | [] => true
  | '\r' :: '\n' :: rest => isClean rest
  | c :: rest => ((0x20 ≤ c.toNat && c.toNat ≠ 0x7F) || c = '\t' || c = '\n') && isClean rest

def skipLines (inComment : Bool) : List Char → List Char
  | [] => []
  | c :: rest =>
    if inComment then skipLines (c ≠ '\n') rest
    else if c = '#' then skipLines true rest
    else if isSpace c || isBreak c then skipLines false rest
    else c :: rest

def nextLine? (s : List Char) : Option (List Char) :=
  match skipSpace s with
  | [] => some []
  | '\n' :: rest => some rest
  | '\r' :: rest => some (rest.drop 1)
  | '#' :: rest => some ((rest.dropWhile (· ≠ '\n')).drop 1)
  | _ => none

def isScalarChar (c : Char) : Bool :=
  c.isAlphanum || c = '_' || c = '+' || c = '-' || c = '.' || c = ':'

/-- An unquoted scalar. A time may follow its date after one blank. -/
def unquoted? (s : List Char) : Option (Value × List Char) :=
  let front := s.takeWhile isScalarChar
  let rest := s.dropWhile isScalarChar
  match date? front, rest with
  | some (_, []), ' ' :: c :: more =>
    if c.isDigit then
      let time := (c :: more).takeWhile isScalarChar
      (scalar? (front ++ ' ' :: time)).map (·, (c :: more).dropWhile isScalarChar)
    else (scalar? front).map (·, rest)
  | _, _ => (scalar? front).map (·, rest)

mutual

def value? (depth : Nat) : Nat → List Char → Option (Value × List Char)
  | 0, _ => none
  | fuel + 1, s =>
    match s with
    | [] => none
    | '"' :: _ | '\'' :: _ => (string? s).map fun (text, rest) => (.text text, rest)
    | '[' :: rest =>
      if depth < maxDepth then
        (items? (depth + 1) fuel (skipLines false rest)).map fun (vs, tail) => (.list vs, tail)
      else none
    | '\x7b' :: rest =>
      if depth < maxDepth then
        match pairs? (depth + 1) fuel (skipLines false rest) with
        | none => none
        | some (pairs, tail) =>
          (assignAll pairs []).map fun entries => (.object (fieldValues entries), tail)
      else none
    | s => unquoted? s

def items? (depth : Nat) : Nat → List Char → Option (List Value × List Char)
  | 0, _ => none
  | fuel + 1, s =>
    match s with
    | ']' :: rest => some ([], rest)
    | s =>
      match value? depth fuel s with
      | none => none
      | some (v, rest) =>
        match skipLines false rest with
        | ',' :: rest => (items? depth fuel (skipLines false rest)).map fun (vs, tail) => (v :: vs, tail)
        | ']' :: rest => some ([v], rest)
        | _ => none

def pairs? (depth : Nat) : Nat → List Char → Option (List (Key × Value) × List Char)
  | 0, _ => none
  | fuel + 1, s =>
    match s with
    | '\x7d' :: rest => some ([], rest)
    | s =>
      match assignment? depth fuel s with
      | none => none
      | some (pair, rest) =>
        match skipLines false rest with
        | ',' :: rest => (pairs? depth fuel (skipLines false rest)).map fun (ps, tail) => (pair :: ps, tail)
        | '\x7d' :: rest => some ([pair], rest)
        | _ => none

def assignment? (depth : Nat) : Nat → List Char → Option ((Key × Value) × List Char)
  | 0, _ => none
  | fuel + 1, s =>
    match key? s with
    | some (key, '=' :: rest) =>
      (value? depth fuel (skipSpace rest)).map fun (v, tail) => ((key, v), tail)
    | _ => none

end

def header? : List Char → Option (Key × Bool × List Char)
  | '[' :: '[' :: rest =>
    match key? rest with
    | some (key, ']' :: ']' :: rest) => some (key, true, rest)
    | _ => none
  | '[' :: rest =>
    match key? rest with
    | some (key, ']' :: rest) => some (key, false, rest)
    | _ => none
  | _ => none

def assignments? : Nat → List Char → Option (List (Key × Value) × List Char)
  | 0, _ => none
  | fuel + 1, s =>
    match skipLines false s with
    | [] => some ([], [])
    | '[' :: rest => some ([], '[' :: rest)
    | s => do
      let (pair, rest) ← assignment? 0 (3 * s.length + 3) s
      let rest ← nextLine? rest
      let (pairs, rest) ← assignments? fuel rest
      return (pair :: pairs, rest)

def sections? : Nat → List Char → Option (List Section)
  | 0, _ => none
  | _ + 1, [] => some []
  | fuel + 1, s => do
    let (key, listed, rest) ← header? s
    let rest ← nextLine? rest
    let (assignments, rest) ← assignments? (rest.length + 1) rest
    let sections ← sections? fuel rest
    return ⟨key, listed, assignments⟩ :: sections

def read? (s : List Char) : Option Value := do
  let s := Text.skipMark s
  if isClean s then
    let (top, rest) ← assignments? (s.length + 1) s
    let sections ← sections? (rest.length + 1) rest
    document? top sections
  else none

end RequestDispatch.Toml
