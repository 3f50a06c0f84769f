import RequestDispatch.Text.Blank
import RequestDispatch.Text.Split

/-!
# Logical lines

An open quote carries a line over its end. A comment ends a line where it follows a single blank,
and a line that starts with one is empty. A text that ends inside a quote, behind a backslash or
behind a blank has no lines.
-/
namespace RequestDispatch.EnvFile

inductive Quoting where
  | complete
  | blank
  | escape
  | single
  | singleEscape
  | double
  | doubleEscape
  deriving DecidableEq, Repr

def opened (c : Char) : Quoting :=
  match c with
  | '\\' => .escape
  | '"' => .double
  | '\'' => .single
  | _ => .complete

def Quoting.next (q : Quoting) (c : Char) : Quoting :=
  match q with
  | complete => if Text.isBlank c && c ≠ '\n' && c ≠ '\r' then blank else opened c
  | blank => opened c
  | escape => complete
  | single => if c = '\\' then singleEscape else if c = '\'' then complete else single
  | singleEscape => single
  | double => if c = '\\' then doubleEscape else if c = '"' then complete else double
  | doubleEscape => double

inductive LineEnd where
  | comment (kept : List Char)
  | state (q : Quoting)

def lineEnd (q : Quoting) : List Char → LineEnd
  | [] => .state q
  | c :: rest =>
    if q = .blank && c = '#' then .comment []
    else
      match lineEnd (q.next c) rest with
      | .comment kept => .comment (c :: kept)
      | .state q => .state q

def rawLines (s : List Char) : List (List Char) :=
  match (Text.split '\n' s).reverse with
  | [] => []
  | last :: before =>
    (before.reverse.map (· ++ ['\n'])) ++ (if last = [] then [] else [last])

def dropFeed (s : List Char) : List Char :=
  match s.reverse with
  | '\n' :: '\r' :: rest | '\n' :: rest => rest.reverse
  | _ => s

/-- Joins lines while a quote is open. `line` is what was read of the current one. -/
def joinLines? (q : Quoting) (line : List Char) : List (List Char) → Option (List (List Char))
  | [] => if q = .complete then some [] else none
  | more :: rest =>
    let line' := line ++ more
    if Text.startsWith ['#'] (Text.trimStart line') then
      (joinLines? .complete [] rest).map ([] :: ·)
    else
      match lineEnd q more with
      | .comment kept => (joinLines? .complete [] rest).map ((line ++ kept) :: ·)
      | .state .complete => (joinLines? .complete [] rest).map (dropFeed line' :: ·)
      | .state q => joinLines? q line' rest

def lines? (s : List Char) : Option (List (List Char)) :=
  joinLines? .complete [] (rawLines s)

end RequestDispatch.EnvFile
