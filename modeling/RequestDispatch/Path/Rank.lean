import RequestDispatch.Path.Segment

/-!
# Ranking path patterns

The lesser of two patterns is the more specific one. A pattern that is the path itself comes
before all others; then the catch-all comes last, and fewer wildcards and longer texts come first.
-/
namespace RequestDispatch.Path

structure Rank where
  captures : Nat := 0
  runs : Nat := 0
  anyRuns : Nat := 0
  length : Nat := 0
  deriving DecidableEq, Repr

namespace Rank

def wildcards (r : Rank) : Nat :=
  r.captures + r.runs + 2 * r.anyRuns

/-- Counts a segment character by character. What stands between braces does not count, and a
closing brace counts down also where none is open. -/
def ofChars (depth : Int) : List Char → Rank → Rank
  | [], r => r
  | c :: s, r =>
    if c = '\x7b' then
      ofChars (depth + 1) s
        (if depth = 0 then { r with captures := r.captures + 1, length := r.length + 1 } else r)
    else if c = '\x7d' then ofChars (depth - 1) s r
    else if depth = 0 then
      ofChars depth s
        { r with runs := r.runs + (if c = '*' then 1 else 0), length := r.length + 1 }
    else ofChars depth s r

/-- Counts a segment on top of those before it. Every segment adds one for its slash. -/
def addSegment (r : Rank) (segment : String) : Rank :=
  let counted :=
    match Segment.ofText segment with
    | .any => { r with anyRuns := r.anyRuns + 1, length := r.length + 1 }
    | .capture _ => { r with captures := r.captures + 1, length := r.length + 1 }
    | _ => ofChars 0 segment.toList r
  { counted with length := counted.length + 1 }

def ofPattern (pattern : String) : Rank :=
  (segments pattern).foldl addSegment {}

end Rank

def isCatchAll (pattern : String) : Bool :=
  pattern = "/**" || pattern = "**"

def compareRanks (a b : Rank) : Ordering :=
  (compare (decide (0 < a.anyRuns)) (decide (0 < b.anyRuns))).then <|
  (compare a.wildcards b.wildcards).then <|
  (compare b.length a.length).then <|
  (compare a.runs b.runs).then <|
  compare a.captures b.captures

/-- The order of two patterns by how specifically they match the path. -/
def comparePatterns (path a b : String) : Ordering :=
  (compare (decide (a ≠ path)) (decide (b ≠ path))).then <|
  (compare (isCatchAll a) (isCatchAll b)).then <|
  compareRanks (Rank.ofPattern a) (Rank.ofPattern b)

end RequestDispatch.Path
