import RequestDispatch.Path.Segment
import RequestDispatch.Text.Quoted

/-!
# Matching paths

A path matches a pattern if its segments line up with those of the pattern. The runs that the
`**` segments take are tried shortest first, from left to right. What one alternative binds is
gone when the next is tried, and a later segment overrides an earlier one of the same name.
-/
namespace RequestDispatch.Path

abbrev Bindings := List (String × String)

def Segment.bind? : Segment → String → Option Bindings
  | any, _ => none
  | capture name, value => some [(name, value)]
  | literal text, value => if text = value then some [] else none
  | mixed text, value => (SegmentPattern.ofText? text).bind (·.bind? value)

mutual

/-- The bindings on top of `vars` of the first way to line the segments up. -/
def align? (vars : Bindings) : List Segment → List String → Option Bindings
  | [], [] => some vars
  | [], _ :: _ => none
  | .any :: ss, values => firstRun? vars ss values
  | _ :: _, [] => none
  | s :: ss, value :: values =>
    match s.bind? value with
    | some more => align? (Assoc.putAll vars more) ss values
    | none => none
termination_by ss vs => (ss.length, vs.length + 1)

/-- The same behind a `**` segment, which takes as few segments as it can. -/
def firstRun? (vars : Bindings) (ss : List Segment) : List String → Option Bindings
  | [] => align? vars ss []
  | value :: values => (align? vars ss (value :: values)).or (firstRun? vars ss values)
termination_by vs => (ss.length + 1, vs.length)

end

/-- The bindings of the variables, if the path matches the pattern. -/
def bindings? (pattern path : String) : Option Bindings :=
  align? [] ((segments pattern).map Segment.ofText) (segments path)

def isMatch (pattern path : String) : Bool :=
  (bindings? pattern path).isSome

/-- Whether a path matches a pattern, as a matcher of the application may decide it. -/
abbrev Matching := String → String → Bool

/-! ### A matcher that keeps what it has compiled -/

structure Matcher where
  compiled : List (String × SegmentPattern) := []
  deriving DecidableEq, Repr

namespace Matcher

/-- Compiles a segment unless that has been done. One that cannot be compiled is not kept. -/
def segment? (text : String) : StateM Matcher (Option SegmentPattern) := do
  let m ← get
  match Assoc.find? m.compiled text with
  | some p => return some p
  | none =>
    match SegmentPattern.ofText? text with
    | some p =>
      set { m with compiled := Assoc.put m.compiled text p }
      return some p
    | none => return none

def bindSegment? (s : Segment) (value : String) : StateM Matcher (Option Bindings) := do
  match s with
  | .mixed text => return (← segment? text).bind (·.bind? value)
  | s => return s.bind? value

mutual

def align? (vars : Bindings) : List Segment → List String → StateM Matcher (Option Bindings)
  | [], [] => return some vars
  | [], _ :: _ => return none
  | .any :: ss, values => firstRun? vars ss values
  | _ :: _, [] => return none
  | s :: ss, value :: values => do
    match ← bindSegment? s value with
    | some more => align? (Assoc.putAll vars more) ss values
    | none => return none
termination_by ss vs => (ss.length, vs.length + 1)

def firstRun? (vars : Bindings) (ss : List Segment) :
    List String → StateM Matcher (Option Bindings)
  | [] => align? vars ss []
  | value :: values => do
    match ← align? vars ss (value :: values) with
    | some found => return some found
    | none => firstRun? vars ss values
termination_by vs => (ss.length + 1, vs.length)

end

def bindings? (pattern path : String) : StateM Matcher (Option Bindings) :=
  align? [] ((segments pattern).map Segment.ofText) (segments path)

def debugText (m : Matcher) : String :=
  Text.rendered "AntPathMatcher" [("cached_segments", toString m.compiled.length)]

end Matcher

end RequestDispatch.Path
