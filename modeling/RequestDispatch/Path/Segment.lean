import RequestDispatch.Assoc
import RequestDispatch.Regex.Reader
import RequestDispatch.Text.Split

/-!
# Segments of a path pattern

A segment is a literal, `**`, `:name`, or a mix of literal characters, `?`, `*` and variables in
braces. Wildcards and variables take no line feed, and each takes as much as it can. A mix whose
braces or constraints cannot be read matches nothing.
-/
namespace RequestDispatch.Path

inductive Piece where
  | literal (c : Char)
  /-- `?`: one character. -/
  | one
  /-- `*`: any run of characters. -/
  | run
  | variable (name : String) (constraint? : Option String)
  deriving DecidableEq, Repr

def closing? : (depth : Nat) → List Char → Option (List Char × List Char)
  | _, [] => none
  | depth, c :: s =>
    if c = '\x7d' then
      if depth ≤ 1 then some ([], s)
      else (closing? (depth - 1) s).map fun (body, rest) => (c :: body, rest)
    else
      (closing? (if c = '\x7b' then depth + 1 else depth) s).map
        fun (body, rest) => (c :: body, rest)

theorem closing?_length {depth : Nat} {s body rest : List Char}
    (h : closing? depth s = some (body, rest)) : rest.length < s.length := by
  induction s generalizing depth body rest with
  | nil => simp [closing?] at h
  | cons c s ih =>
    have step {d : Nat} (h : (closing? d s).map (fun p => (c :: p.1, p.2)) = some (body, rest)) :
        rest.length < (c :: s).length := by
      obtain ⟨⟨b, r⟩, hp, he⟩ := Option.map_eq_some_iff.1 h
      have hr : r = rest := congrArg Prod.snd he
      have := ih hp
      simp only [← hr, List.length_cons]
      omega
    rw [closing?] at h
    split at h
    · split at h
      · have hr : s = rest := congrArg Prod.snd (Option.some.inj h)
        simp [← hr]
      · exact step h
    · exact step h

/-- A variable from the text between its braces: a name, and a constraint behind a colon. -/
def Piece.ofBody (body : List Char) : Piece :=
  match Text.splitOnce? ':' body with
  | none => .variable (String.ofList body) none
  | some (name, constraint) => .variable (String.ofList name) (some (String.ofList constraint))

def pieces? (s : List Char) : Option (List Piece) :=
  match s with
  | [] => some []
  | c :: s =>
    if c = '\x7b' then
      match h : closing? 1 s with
      | none => none
      | some (body, rest) =>
        have : rest.length < s.length := closing?_length h
        (pieces? rest).map (Piece.ofBody body :: ·)
    else
      let piece := if c = '*' then .run else if c = '?' then .one else .literal c
      (pieces? s).map (piece :: ·)
termination_by s.length

def Piece.variable? : Piece → Option String
  | .variable name _ => some name
  | _ => none

def Piece.isConstrained : Piece → Bool
  | .variable _ (some _) => true
  | _ => false

def variableNames (ps : List Piece) : List String :=
  ps.filterMap Piece.variable?

/-! ### Pieces without constraints -/

/-- Whether a piece and then what matches at the places of `row` matches from each place on. Rows
have an entry for every suffix of the text, the whole text first. -/
def Piece.fitsBefore (p : Piece) : List Char → List Bool → List Bool
  | c :: s, here :: row =>
    let later := p.fitsBefore s row
    let next := row.headD false
    let fits :=
      match p with
      | .literal c' => c = c' && next
      | .one => c ≠ '\n' && next
      | _ => here || (c ≠ '\n' && later.headD false)
    fits :: later
  | _, row =>
    match p with
    | .literal _ | .one => [false]
    | _ => row

def fits : List Piece → List Char → List Bool
  | [], s => List.replicate s.length false ++ [true]
  | p :: ps, s => p.fitsBefore s (fits ps s)

/-- The longest run of characters after which the row has `true`, and what follows it. -/
def longestRun? : List Char → List Bool → Option (List Char × List Char)
  | [], row => if row.headD false then some ([], []) else none
  | c :: s, row =>
    let longer := if c = '\n' then none else longestRun? s row.tail
    match longer with
    | some (run, rest) => some (c :: run, rest)
    | none => if row.headD false then some ([], c :: s) else none

/-- The texts of the variables, where each run is as long as the ones before it allow. -/
def fill? : List Piece → List Char → Option (List String)
  | [], [] => some []
  | [], _ :: _ => none
  | .literal c :: ps, s =>
    match s with
    | c' :: rest => if c' = c then fill? ps rest else none
    | [] => none
  | .one :: ps, s =>
    match s with
    | c :: rest => if c ≠ '\n' then fill? ps rest else none
    | [] => none
  | .run :: ps, s =>
    (longestRun? s (fits ps s)).bind fun (_, rest) => fill? ps rest
  | .variable _ _ :: ps, s =>
    (longestRun? s (fits ps s)).bind fun (run, rest) =>
      (fill? ps rest).map (String.ofList run :: ·)

def Piece.node (group : Nat) : Piece → Regex.Node
  | .literal c => .char c
  | .one => .set .notNewline
  | .run => .anyRun
  | .variable _ _ => .group group .anyRun

def Piece.groupsAfter (groups : Nat) : Piece → Nat
  | .variable _ _ => groups + 1
  | _ => groups

def nodes (groups : Nat) : List Piece → List Regex.Node
  | [] => [.look .textEnd]
  | p :: ps => p.node (groups + 1) :: nodes (p.groupsAfter groups) ps

def tree (ps : List Piece) : Regex.Node :=
  .seqAll (.look .textStart :: nodes 0 ps)

/-! ### Pieces with constraints -/

def escaped (c : Char) : String :=
  if Regex.metaCharacters.contains c then "\\" ++ c.toString else c.toString

def groupName (index : Nat) : String :=
  "v" ++ toString index

/-- The pieces as the text of an expression, with the variables named from `next` on. -/
def expression (next : Nat) : List Piece → String
  | [] => ""
  | .literal c :: ps => escaped c ++ expression next ps
  | .one :: ps => "." ++ expression next ps
  | .run :: ps => ".*" ++ expression next ps
  | .variable _ constraint? :: ps =>
    "(?P<" ++ groupName next ++ ">" ++ constraint?.getD ".*" ++ ")" ++ expression (next + 1) ps

inductive SegmentPattern where
  | plain (pieces : List Piece)
  /-- An expression, and for every variable the group that holds its text. -/
  | constrained (root : Regex.Node) (slots : List (String × Nat))
  deriving DecidableEq, Repr

namespace SegmentPattern

/-- Pieces with constraints are read as one text: a constraint may itself hold groups, and may
close the group around it. -/
def ofConstrained? (ps : List Piece) : Option SegmentPattern := do
  let regex ← Regex.Pattern.ofText? ("^" ++ expression 0 ps ++ "$")
  let slots := (variableNames ps).zipIdx.filterMap fun (name, i) =>
    (Assoc.find? regex.names (groupName i)).map (name, ·)
  return .constrained regex.root slots

/-- Pieces without constraints are matched as they are. Their expression is refused all the same
if it takes too much. -/
def ofText? (s : String) : Option SegmentPattern := do
  let ps ← pieces? s.toList
  if ps.any Piece.isConstrained then ofConstrained? ps
  else if (tree ps).weight ≤ Regex.Node.maxWeight then return .plain ps
  else none

/-- The bindings of the variables, if the whole value matches. A variable whose group took no
part in the match is not bound. -/
def bind? (p : SegmentPattern) (value : String) : Option (List (String × String)) :=
  let s := value.toList
  match p with
  | plain ps => (fill? ps s).map fun texts => (variableNames ps).zip texts
  | constrained root slots =>
    (root.search? s).map fun thread =>
      slots.filterMap fun (name, group) =>
        (thread.group? s group).map fun text => (name, String.ofList text)

end SegmentPattern

/-! ### Kinds of segments -/

inductive Segment where
  /-- `**`: any number of path segments. -/
  | any
  /-- `:name`: one path segment, bound to the name. -/
  | capture (name : String)
  | literal (text : String)
  | mixed (text : String)
  deriving DecidableEq, Repr

def isWild (c : Char) : Bool :=
  c = '*' || c = '?' || c = '\x7b'

def Segment.ofText (s : String) : Segment :=
  if s = "**" then .any
  else
    match s.toList with
    | ':' :: name => .capture (String.ofList name)
    | chars => if chars.any isWild then .mixed s else .literal s

/-- The segments of a path; empty ones do not count. -/
def segments (path : String) : List String :=
  (Text.splitText '/' path).filter (· ≠ "")

def isPattern (path : String) : Bool :=
  (segments path).any fun s =>
    match Segment.ofText s with
    | .literal _ => false
    | _ => true

end RequestDispatch.Path
