import RequestDispatch.Text.Hex

/-!
# Quoted strings and keys

Strings on one line or on many, with escapes between double quotes and without between single
ones. A reader returns the characters and what follows the closing quotes. Control characters are
left to the check of the whole text.
-/
namespace RequestDispatch.Toml

def isSpace (c : Char) : Bool :=
  c = ' ' || c = '\t'

def isBreak (c : Char) : Bool :=
  c = '\n' || c = '\r'

def skipSpace (s : List Char) : List Char :=
  s.dropWhile isSpace

def escape? : Char → Option Char
  | 'b' => some '\x08'
  | 't' => some '\t'
  | 'n' => some '\n'
  | 'f' => some '\x0c'
  | 'r' => some '\r'
  | 'e' => some '\x1b'
  | '"' => some '"'
  | '\\' => some '\\'
  | _ => none

abbrev Scanned := Option (List Char × List Char)

def push (c? : Option Char) (rest : Scanned) : Scanned :=
  match c?, rest with
  | some c, some (cs, tail) => some (c :: cs, tail)
  | _, _ => none

def basic? : List Char → Scanned
  | [] => none
  | '"' :: rest => some ([], rest)
  | '\\' :: 'x' :: a :: b :: rest => push (Text.hexChar? [a, b]) (basic? rest)
  | '\\' :: 'u' :: a :: b :: c :: d :: rest => push (Text.hexChar? [a, b, c, d]) (basic? rest)
  | '\\' :: 'U' :: a :: b :: c :: d :: e :: f :: g :: h :: rest =>
    push (Text.hexChar? [a, b, c, d, e, f, g, h]) (basic? rest)
  | '\\' :: e :: rest => push (escape? e) (basic? rest)
  | c :: rest => if c = '\\' || isBreak c then none else push (some c) (basic? rest)

def literal? : List Char → Scanned
  | [] => none
  | '\'' :: rest => some ([], rest)
  | c :: rest => if isBreak c then none else push (some c) (literal? rest)

def endsLine (s : List Char) : Bool :=
  ((skipSpace s).head?.map isBreak).getD false

/-- The rest of a string between three double quotes, in front of which up to two more belong to
the string. Behind a backslash at the end of a line all blanks and line ends are dropped. -/
def longBasic? (folding : Bool) : List Char → Scanned
  | [] => none
  | c :: rest =>
    if folding && (isSpace c || isBreak c) then longBasic? true rest
    else
      match c, rest with
      | '"', '"' :: '"' :: '"' :: '"' :: rest => some (['"', '"'], rest)
      | '"', '"' :: '"' :: '"' :: rest => some (['"'], rest)
      | '"', '"' :: '"' :: rest => some ([], rest)
      | '\\', 'x' :: a :: b :: rest => push (Text.hexChar? [a, b]) (longBasic? false rest)
      | '\\', 'u' :: a :: b :: c :: d :: rest =>
        push (Text.hexChar? [a, b, c, d]) (longBasic? false rest)
      | '\\', 'U' :: a :: b :: c :: d :: e :: f :: g :: h :: rest =>
        push (Text.hexChar? [a, b, c, d, e, f, g, h]) (longBasic? false rest)
      | '\\', e :: rest =>
        if endsLine (e :: rest) then longBasic? true rest
        else push (escape? e) (longBasic? false rest)
      | c, rest => if c = '\\' then none else push (some c) (longBasic? false rest)

def longLiteral? : List Char → Scanned
  | [] => none
  | '\'' :: '\'' :: '\'' :: '\'' :: '\'' :: rest => some (['\'', '\''], rest)
  | '\'' :: '\'' :: '\'' :: '\'' :: rest => some (['\''], rest)
  | '\'' :: '\'' :: '\'' :: rest => some ([], rest)
  | c :: rest => push (some c) (longLiteral? rest)

/-- A line end right behind the opening quotes is no part of a long string. -/
def skipFirstBreak : List Char → List Char
  | '\n' :: rest => rest
  | '\r' :: '\n' :: rest => rest
  | s => s

def string? : List Char → Option (String × List Char)
  | '"' :: '"' :: '"' :: rest => (longBasic? false (skipFirstBreak rest)).map text
  | '\'' :: '\'' :: '\'' :: rest => (longLiteral? (skipFirstBreak rest)).map text
  | '"' :: rest => (basic? rest).map text
  | '\'' :: rest => (literal? rest).map text
  | _ => none
where
  text (scanned : List Char × List Char) : String × List Char :=
    (String.ofList scanned.1, scanned.2)

/-! ### Keys -/

def isBare (c : Char) : Bool :=
  c.isAlphanum || c = '_' || c = '-'

def simpleKey? : List Char → Option (String × List Char)
  | '"' :: rest => (basic? rest).map fun (cs, tail) => (String.ofList cs, tail)
  | '\'' :: rest => (literal? rest).map fun (cs, tail) => (String.ofList cs, tail)
  | s =>
    let key := s.takeWhile isBare
    if key = [] then none else some (String.ofList key, s.dropWhile isBare)

structure Key where
  path : List String
  name : String

def maxDepth : Nat := 80

def keyParts? : Nat → List Char → Option (List String × List Char)
  | 0, _ => none
  | more + 1, s =>
    match simpleKey? (skipSpace s) with
    | none => none
    | some (part, rest) =>
      match skipSpace rest with
      | '.' :: rest => (keyParts? more rest).map fun (parts, tail) => (part :: parts, tail)
      | rest => some ([part], rest)

def key? (s : List Char) : Option (Key × List Char) :=
  match keyParts? maxDepth s with
  | some (parts, rest) => parts.getLast?.map fun name => (⟨parts.dropLast, name⟩, rest)
  | none => none

end RequestDispatch.Toml
