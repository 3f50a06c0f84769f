import RequestDispatch.Regex.CharSet

/-!
# Regular expressions

The tree of an expression. Every choice has a first alternative that is preferred: the left one
of `alt`, one more repetition of a greedy `rep`, the end of a reluctant one.
-/
namespace RequestDispatch.Regex

inductive Look where
  | textStart
  | textEnd
  | lineStart
  | lineEnd
  /-- Line ends are `\r`, `\n` and `\r\n`. -/
  | anyLineStart
  | anyLineEnd
  | wordBoundary (ascii : Bool)
  | notWordBoundary (ascii : Bool)
  | wordStart (ascii : Bool)
  | wordEnd (ascii : Bool)
  | wordStartHalf (ascii : Bool)
  | wordEndHalf (ascii : Bool)
  deriving DecidableEq, Repr

inductive Node where
  | empty
  | set (s : CharSet)
  | look (l : Look)
  | group (index : Nat) (body : Node)
  | seq (a b : Node)
  | alt (a b : Node)
  | rep (min : Nat) (max : Option Nat) (greedy : Bool) (body : Node)
  deriving DecidableEq, Repr

namespace Node

def char (c : Char) : Node := .set (.single c)

def anyRun : Node := .rep 0 none true (.set .notNewline)

def seqAll : List Node → Node
  | [] => .empty
  | [n] => n
  | n :: rest => .seq n (seqAll rest)

def altAll : List Node → Node
  | [] => .empty
  | [n] => n
  | n :: rest => .alt n (altAll rest)

def isOnlyEmpty : Node → Bool
  | empty | look _ => true
  | set _ => false
  | group _ body => body.isOnlyEmpty
  | seq a b | alt a b => a.isOnlyEmpty && b.isOnlyEmpty
  | rep _ max _ body => max = some 0 || body.isOnlyEmpty

/-- A repetition. What matches only the empty text is repeated at most once. -/
def repeated (min : Nat) (max : Option Nat) (greedy : Bool) (body : Node) : Node :=
  if body.isOnlyEmpty then .rep (Nat.min min 1) (some (Nat.min (max.getD 1) 1)) greedy body
  else .rep min max greedy body

/-- About how many bytes the compiled expression takes. -/
def weight : Node → Nat
  | empty => 32
  | set s => 32 + 64 * (s.rangeCount - 1)
  | look _ => 32
  | group _ body => 64 + body.weight
  | seq a b => a.weight + b.weight
  | alt a b => 32 + a.weight + b.weight
  | rep min max _ body =>
    let branch := if max = some min then 0 else 32
    if max = some 0 then 32 else 64 + Nat.max 1 (max.getD min) * (body.weight + branch)

def maxWeight : Nat := 0xA00000

end Node

end RequestDispatch.Regex
