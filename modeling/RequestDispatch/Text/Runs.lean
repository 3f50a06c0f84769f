import RequestDispatch.Text.Hex

/-!
# Tables of runs of code points

A table of runs is written as one text of entries separated by blanks or line ends. It is read
once into an array ordered by first code point, and searched by bisection.
-/
namespace RequestDispatch.Text

def words (s : String) : List (List Char) :=
  let step (c : Char) : List (List Char) → List (List Char)
    | [] => if c = ' ' || c = '\n' then [] else [[c]]
    | w :: ws => if c = ' ' || c = '\n' then [] :: w :: ws else (c :: w) :: ws
  (s.toList.foldr step []).filter (· ≠ [])

structure TaggedRuns (α : Type) where
  starts : Array (Nat × α)

/-- Reads entries made of a hexadecimal code point and a tag that begins with a capital. -/
def TaggedRuns.ofText {α : Type} (tag : String → α) (s : String) : TaggedRuns α where
  starts := ((words s).map fun w =>
    (hexValue (w.takeWhile fun c => !c.isUpper),
      tag (String.ofList (w.dropWhile fun c => !c.isUpper)))).toArray

/-- The number of entries below `hi` whose key is at most `n`, given that those below `lo` are. -/
def countUpTo {α : Type} (entries : Array (Nat × α)) (n lo hi : Nat) : Nat :=
  if _h : lo < hi then
    let mid := (lo + hi) / 2
    match entries[mid]? with
    | some (key, _) =>
      if key ≤ n then countUpTo entries n (mid + 1) hi else countUpTo entries n lo mid
    | none => countUpTo entries n lo mid
  else lo
termination_by hi - lo

def TaggedRuns.find? {α : Type} (t : TaggedRuns α) (n : Nat) : Option α :=
  (t.starts[countUpTo t.starts n 0 t.starts.size - 1]?).map (·.2)

structure CodeRanges where
  ranges : Array (Nat × Nat)

def CodeRanges.ofText (s : String) : CodeRanges where
  ranges := ((words s).map fun w =>
    let first := w.takeWhile (· ≠ '-')
    let last := (w.dropWhile (· ≠ '-')).drop 1
    (hexValue first, if last = [] then hexValue first else hexValue last)).toArray

def CodeRanges.contains (t : CodeRanges) (n : Nat) : Bool :=
  match t.ranges[countUpTo t.ranges n 0 t.ranges.size - 1]? with
  | some (first, last) => first ≤ n && n ≤ last
  | none => false

end RequestDispatch.Text
