import RequestDispatch.Regex.Node

/-!
# Matching regular expressions

An expression becomes a list of instructions, and a search runs it from one place after another.
Of the ways to go on, the preferred one is tried first. An instruction that has been tried at a
place is not tried there again: it has failed, or it is on the way already and has consumed
nothing. So the work is bounded by instructions times places.
-/
namespace RequestDispatch.Regex

inductive Instruction where
  /-- Consumes one character of the set. -/
  | take (s : CharSet)
  | check (l : Look)
  /-- Notes the place under a number. -/
  | note (slot : Nat)
  | jump (target : Nat)
  /-- Goes on at `first`, or else at `second`. -/
  | fork (first second : Nat)
  | accept
  deriving DecidableEq, Repr

def startSlot (group : Nat) : Nat := 2 * group
def stopSlot (group : Nat) : Nat := 2 * group + 1

def preferring (greedy : Bool) (more stop : Nat) : Instruction :=
  if greedy then .fork more stop else .fork stop more

def copies (body : Nat → List Instruction) : (count start : Nat) → List Instruction
  | 0, _ => []
  | count + 1, start =>
    let first := body start
    first ++ copies body count (start + first.length)

/-- The code of up to `count` copies. Each can be left out together with those behind it. -/
def optional (body : Nat → List Instruction) (greedy : Bool) (stop : Nat) :
    (count start : Nat) → List Instruction
  | 0, _ => []
  | count + 1, start =>
    let first := body (start + 1)
    preferring greedy (start + 1) stop :: first ++
      optional body greedy stop count (start + 1 + first.length)

def oneOrMore (body : Nat → List Instruction) (greedy : Bool) (start : Nat) : List Instruction :=
  let once := body start
  once ++ [preferring greedy start (start + once.length + 1)]

/-- The code of an expression that starts at `start`. It goes on behind its end. -/
def Node.code : Node → (start : Nat) → List Instruction
  | .empty, _ => []
  | .set s, _ => [.take s]
  | .look l, _ => [.check l]
  | .group g body, start => .note (startSlot g) :: body.code (start + 1) ++ [.note (stopSlot g)]
  | .seq a b, start =>
    let first := a.code start
    first ++ b.code (start + first.length)
  | .alt a b, start =>
    let first := a.code (start + 1)
    let middle := start + 1 + first.length
    let second := b.code (middle + 1)
    .fork (start + 1) (middle + 1) :: first ++ .jump (middle + 1 + second.length) :: second
  | .rep 0 none greedy body, start =>
    let loop := oneOrMore body.code greedy (start + 1)
    preferring greedy (start + 1) (start + 1 + loop.length) :: loop
  | .rep (min + 1) none greedy body, start =>
    let before := copies body.code min start
    before ++ oneOrMore body.code greedy (start + before.length)
  | .rep min (some max) greedy body, start =>
    let before := copies body.code min start
    let middle := start + before.length
    let one := (body.code 0).length + 1
    before ++ optional body.code greedy (middle + (max - min) * one) (max - min) middle

/-! ### Running -/

def isWordAt (ascii : Bool) : Option Char → Bool
  | none => false
  | some c => if ascii then c.isAlphanum || c = '_' else Text.isWordChar c

def Look.holds (before next : Option Char) : Look → Bool
  | textStart => before = none
  | textEnd => next = none
  | lineStart => before = none || before = some '\n'
  | lineEnd => next = none || next = some '\n'
  | anyLineStart => before = none || before = some '\n' || (before = some '\r' && next ≠ some '\n')
  | anyLineEnd => next = none || next = some '\r' || (next = some '\n' && before ≠ some '\r')
  | wordBoundary ascii => isWordAt ascii before ≠ isWordAt ascii next
  | notWordBoundary ascii => isWordAt ascii before = isWordAt ascii next
  | wordStart ascii => !isWordAt ascii before && isWordAt ascii next
  | wordEnd ascii => isWordAt ascii before && !isWordAt ascii next
  | wordStartHalf ascii => !isWordAt ascii before
  | wordEndHalf ascii => !isWordAt ascii next

structure Thread where
  pc : Nat
  place : Nat
  notes : List (Nat × Nat)
  deriving DecidableEq, Repr

structure Program where
  code : Array Instruction
  text : Array Char

namespace Program

/-- How a thread goes on, the preferred way first. -/
def successors (p : Program) (t : Thread) : List Thread :=
  match p.code[t.pc]? with
  | some (.take s) =>
    match p.text[t.place]? with
    | some c => if s.contains c then [{ t with pc := t.pc + 1, place := t.place + 1 }] else []
    | none => []
  | some (.check l) =>
    let before := if t.place = 0 then none else p.text[t.place - 1]?
    if l.holds before p.text[t.place]? then [{ t with pc := t.pc + 1 }] else []
  | some (.note slot) => [{ t with pc := t.pc + 1, notes := (slot, t.place) :: t.notes }]
  | some (.jump target) => [{ t with pc := target }]
  | some (.fork first second) => [{ t with pc := first }, { t with pc := second }]
  | _ => []

/-- Runs the threads, the first one first, until one accepts. `seen` holds what has been tried. -/
def run (p : Program) : (fuel : Nat) → List Thread → (seen : Array Bool) →
    Option Thread × Array Bool
  | 0, _, seen => (none, seen)
  | _, [], seen => (none, seen)
  | fuel + 1, t :: threads, seen =>
    let key := t.place * p.code.size + t.pc
    if seen.getD key true then run p fuel threads seen
    else if p.code[t.pc]? = some .accept then (some t, seen)
    else run p fuel (p.successors t ++ threads) (seen.setIfInBounds key true)

/-- Every instruction at every place adds at most two threads. -/
def fuel (p : Program) : Nat :=
  2 * p.code.size * (p.text.size + 1) + 2

/-- The first accepting thread from the leftmost place that has one. -/
def searchFrom (p : Program) : (places start : Nat) → (seen : Array Bool) → Option Thread
  | 0, _, _ => none
  | places + 1, start, seen =>
    match p.run p.fuel [⟨0, start, []⟩] seen with
    | (some t, _) => some t
    | (none, seen) => searchFrom p places (start + 1) seen

def search? (p : Program) : Option Thread :=
  let places := p.text.size + 1
  p.searchFrom places 0 (Array.replicate (p.code.size * places) false)

end Program

def Node.search? (n : Node) (s : List Char) : Option Thread :=
  Program.search? ⟨(n.code 0 ++ [Instruction.accept]).toArray, s.toArray⟩

def Thread.group? (t : Thread) (s : List Char) (group : Nat) : Option (List Char) := do
  let (_, start) ← t.notes.find? fun e => e.1 = startSlot group
  let (_, stop) ← t.notes.find? fun e => e.1 = stopSlot group
  return (s.drop start).take (stop - start)

end RequestDispatch.Regex
