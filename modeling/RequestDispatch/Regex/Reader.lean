import RequestDispatch.Regex.Program
import RequestDispatch.Regex.Property

/-!
# Reading regular expressions

Look-around and back-references are refused, and so are unknown escapes, repetitions of nothing,
reversed ranges, and whatever could match a part of a character. A flag group holds to the end of
the group around it, across its alternatives.
-/
namespace RequestDispatch.Regex

structure Flags where
  caseless : Bool := false
  multiLine : Bool := false
  dotNewline : Bool := false
  swapGreed : Bool := false
  unicode : Bool := true
  anyLineEnd : Bool := false
  verbose : Bool := false
  deriving DecidableEq, Repr

/-- What the reader is at: the text left, the flags in force, and the groups opened so far. -/
structure ReadState where
  rest : List Char
  flags : Flags := {}
  groups : Nat := 0
  names : List (String × Nat) := []

abbrev Scan := StateT ReadState Option

namespace Scan

def refuse {α : Type} : Scan α := fun _ => none

def rest : Scan (List Char) := do return (← get).rest

def flags : Scan Flags := do return (← get).flags

def setRest (s : List Char) : Scan Unit := modify fun st => { st with rest := s }

def setFlags (f : Flags) : Scan Unit := modify fun st => { st with flags := f }

def peek? : Scan (Option Char) := do return (← rest).head?

def advance : Scan Unit := do setRest ((← rest).drop 1)

end Scan

/-- Blanks and comments, which count for nothing when the expression is verbose. -/
def dropBlanks : List Char → List Char
  | [] => []
  | c :: s =>
    if Text.isBlank c then dropBlanks s
    else if c = '#' then dropComment s
    else c :: s
where
  dropComment : List Char → List Char
    | [] => []
    | c :: s => if c = '\n' then dropBlanks s else dropComment s

namespace Scan

def skipBlanks : Scan Unit := do
  if (← flags).verbose then setRest (dropBlanks (← rest))

/-- Steps over one character and the blanks behind it, and tells whether any text is left. -/
def advanceOver : Scan Bool := do
  advance
  skipBlanks
  return (← rest) ≠ []

def peekPastBlanks? (s : List Char) : Scan (Option Char) := do
  return (if (← flags).verbose then dropBlanks s else s).head?

def require (c : Char) : Scan Unit := do
  if (← peek?) = some c then advance else refuse

end Scan

open Scan

/-! ### Escapes -/

inductive Primitive where
  | literal (c : Char)
  /-- A character given as the value of one byte. -/
  | byte (n : Nat)
  | set (s : CharSet)
  | look (l : Look)

def metaCharacters : List Char :=
  "\\.+*?()|[]\x7b\x7d^$#&-~".toList

def ofOption {α : Type} : Option α → Scan α
  | some a => pure a
  | none => refuse

def hexDigits : Nat → List Char → Scan (List Char)
  | 0, acc => return acc.reverse
  | n + 1, acc => do
    match ← peek? with
    | some c =>
      if Text.isHexDigit c then
        let _ ← advanceOver
        hexDigits n (c :: acc)
      else refuse
    | none => refuse

def collectUntil (stop : Char) : Nat → List Char → Scan (List Char)
  | 0, _ => refuse
  | fuel + 1, acc => do
    match ← peek? with
    | none => refuse
    | some c =>
      if c = stop then return acc.reverse
      else
        let _ ← advanceOver
        collectUntil stop fuel (c :: acc)

def hexEscape (kind : Char) : Scan Primitive := do
  if ← advanceOver then
    if (← peek?) = some '\x7b' then
      let _ ← advanceOver
      let digits ← collectUntil '\x7d' ((← rest).length + 1) []
      let _ ← advanceOver
      if digits = [] || !digits.all Text.isHexDigit then refuse
      else return .literal (← ofOption (Text.charOf? (Text.hexValue digits)))
    else
      let count := if kind = 'x' then 2 else if kind = 'u' then 4 else 8
      let digits ← hexDigits count []
      let n := Text.hexValue digits
      if kind = 'x' then return .byte n
      else return .literal (← ofOption (Text.charOf? n))
  else refuse

def foldSet (f : Flags) (s : CharSet) : CharSet :=
  if f.caseless then (if f.unicode then .folded s else .asciiFolded s) else s

/-- The complement. Outside of Unicode it would match parts of characters. -/
def complement (f : Flags) (negated : Bool) (s : CharSet) : Scan CharSet :=
  if !negated then return s
  else if f.unicode then return .compl s
  else refuse

def findPair? (first : Char) (second : Option Char) : List Char → Option (List Char × List Char)
  | [] => none
  | c :: s =>
    let here :=
      if c = first then
        match second, s with
        | none, _ => some s
        | some d, e :: tail => if d = e then some tail else none
        | some _, [] => none
      else none
    match here with
    | some tail => some ([], tail)
    | none => (findPair? first second s).map fun (a, b) => (c :: a, b)

def propertyEscape (upper : Bool) : Scan Primitive := do
  let f ← flags
  if !f.unicode then refuse
  else if ← advanceOver then
    match ← peek? with
    | none => refuse
    | some '\\' => refuse
    | some '\x7b' =>
      let _ ← advanceOver
      let name ← collectUntil '\x7d' ((← rest).length + 1) []
      advance
      let (negated, set?) :=
        match findPair? '!' (some '=') name with
        | some (property, value) => (!upper, valuedSet? property value)
        | none =>
          match findPair? ':' none name with
          | some (property, value) => (upper, valuedSet? property value)
          | none =>
            match findPair? '=' none name with
            | some (property, value) => (upper, valuedSet? property value)
            | none => (upper, namedSet? name)
      return .set (← complement f negated (foldSet f (← ofOption set?)))
    | some c =>
      let _ ← advanceOver
      return .set (← complement f upper (foldSet f (← ofOption (namedSet? [c]))))
  else refuse

def perlSet (f : Flags) (c : Char) : CharSet :=
  if f.unicode then
    match c.toLower with
    | 'd' => .digit
    | 's' => .blank
    | _ => .word
  else
    match c.toLower with
    | 'd' => .range '0' '9'
    | 's' => .ofRanges [('\t', '\r'), (' ', ' ')]
    | _ => .ofRanges [('0', '9'), ('A', 'Z'), ('_', '_'), ('a', 'z')]

/-- A brace behind `\b` names a kind of word boundary if it begins with a letter or hyphen. -/
def boundaryName? : Scan (Option (List Char)) := do
  let start ← rest
  let isNameChar (c : Char) : Bool := c.isAlpha || c = '-'
  if !(← advanceOver) then refuse
  else
    match ← peek? with
    | none => refuse
    | some c =>
      if !isNameChar c then
        setRest start
        return none
      else
        let name ← collectUntil '\x7d' ((← rest).length + 1) []
        if name.all isNameChar then
          advance
          return some name
        else refuse

def escape : Scan Primitive := do
  advance
  let f ← flags
  let ascii := !f.unicode
  match ← peek? with
  | none => refuse
  | some c =>
    if c.isDigit then refuse
    else if c = 'x' || c = 'u' || c = 'U' then hexEscape c
    else if c = 'p' || c = 'P' then propertyEscape (c = 'P')
    else if "dswDSW".toList.contains c then
      advance
      return .set (← complement f c.isUpper (perlSet f c))
    else
      advance
      if metaCharacters.contains c then return .literal c
      else
        match c with
        | 'a' => return .literal '\x07'
        | 'f' => return .literal '\x0C'
        | 't' => return .literal '\t'
        | 'n' => return .literal '\n'
        | 'r' => return .literal '\r'
        | 'v' => return .literal '\x0B'
        | 'A' => return .look .textStart
        | 'z' => return .look .textEnd
        | 'b' =>
          if (← peek?) = some '\x7b' then
            match ← boundaryName? with
            | none => return .look (.wordBoundary ascii)
            | some name =>
              match String.ofList name with
              | "start" => return .look (.wordStart ascii)
              | "end" => return .look (.wordEnd ascii)
              | "start-half" => return .look (.wordStartHalf ascii)
              | "end-half" => return .look (.wordEndHalf ascii)
              | _ => refuse
          else return .look (.wordBoundary ascii)
        | 'B' => return .look (.notWordBoundary ascii)
        | '<' => return .look (.wordStart ascii)
        | '>' => return .look (.wordEnd ascii)
        | c =>
          if c.toNat < 128 ∧ !c.isAlphanum then return .literal c else refuse

/-! ### Bracketed sets -/

inductive SetOp where
  | inter | diff | symDiff

def SetOp.apply (op : SetOp) (a b : CharSet) : CharSet :=
  match op with
  | .inter => .inter a b
  | .diff => .diff a b
  | .symDiff => CharSet.symDiff a b

def setOp? : List Char → Option SetOp
  | '&' :: '&' :: _ => some .inter
  | '-' :: '-' :: _ => some .diff
  | '~' :: '~' :: _ => some .symDiff
  | _ => none

def combine (f : Flags) (pending : Option (SetOp × CharSet)) (s : CharSet) : CharSet :=
  match pending with
  | none => s
  | some (op, lhs) => op.apply (foldSet f lhs) (foldSet f s)

def asciiClassAt? : List Char → Option (Bool × CharSet × List Char)
  | '[' :: ':' :: s =>
    let (negated, s) :=
      match s with
      | '^' :: s => (true, s)
      | s => (false, s)
    match s.dropWhile (· ≠ ':') with
    | ':' :: ']' :: tail =>
      (asciiClass? (s.takeWhile (· ≠ ':'))).map fun set => (negated, set, tail)
    | _ => none
  | _ => none

def setPrimitive : Scan Primitive := do
  match ← peek? with
  | none => refuse
  | some '\\' => escape
  | some c =>
    advance
    return .literal c

/-- A character of a set. Outside of Unicode it has to be ASCII. -/
def setChar (f : Flags) : Primitive → Scan Char
  | .literal c => if f.unicode || c.toNat < 128 then return c else refuse
  | .byte n => if f.unicode || n < 128 then return Char.ofNat n else refuse
  | _ => refuse

def setItem : Scan CharSet := do
  let f ← flags
  let first ← setPrimitive
  skipBlanks
  match ← rest with
  | [] => refuse
  | c :: tail =>
    let next ← peekPastBlanks? tail
    if c ≠ '-' || next = some ']' || next = some '-' then
      match first with
      | .set s => return s
      | .look _ => refuse
      | p => return .single (← setChar f p)
    else if ← advanceOver then
      let last ← setPrimitive
      let a ← setChar f first
      let b ← setChar f last
      if a ≤ b then return .range a b else refuse
    else refuse

def leadingHyphens : Nat → CharSet → Scan CharSet
  | 0, s => return s
  | fuel + 1, s => do
    if (← peek?) = some '-' then
      if ← advanceOver then leadingHyphens fuel (.union s (.single '-')) else refuse
    else return s

mutual

def bracketed : Nat → Scan CharSet
  | 0 => refuse
  | fuel + 1 => do
    if !(← advanceOver) then refuse
    else
      let negated := (← peek?) = some '^'
      let more ← if negated then advanceOver else pure true
      if !more then refuse
      else
        let hyphens ← leadingHyphens ((← rest).length + 1) .none
        if hyphens = .none && (← peek?) = some ']' then
          if ← advanceOver then setBody fuel negated none (.single ']') else refuse
        else setBody fuel negated none hyphens

def setBody : Nat → Bool → Option (SetOp × CharSet) → CharSet → Scan CharSet
  | 0, _, _, _ => refuse
  | fuel + 1, negated, pending, acc => do
    skipBlanks
    let f ← flags
    let s ← rest
    match s with
    | [] => refuse
    | ']' :: tail =>
      setRest tail
      complement f negated (foldSet f (combine f pending acc))
    | '[' :: _ =>
      match asciiClassAt? s with
      | some (inverted, set, tail) =>
        setRest tail
        let set ← complement f inverted (foldSet f set)
        setBody fuel negated pending (.union acc set)
      | none =>
        let set ← bracketed fuel
        setBody fuel negated pending (.union acc set)
    | _ =>
      match setOp? s with
      | some op =>
        setRest (s.drop 2)
        setBody fuel negated (some (op, combine f pending acc)) .none
      | none =>
        let set ← setItem
        setBody fuel negated pending (.union acc set)

end

/-! ### Groups, repetitions and alternatives -/

def setFlag (f : Flags) (on : Bool) : Char → Option Flags
  | 'i' => some { f with caseless := on }
  | 'm' => some { f with multiLine := on }
  | 's' => some { f with dotNewline := on }
  | 'U' => some { f with swapGreed := on }
  | 'u' => some { f with unicode := on }
  | 'R' => some { f with anyLineEnd := on }
  | 'x' => some { f with verbose := on }
  | _ => none

/-- Flags up to the colon or parenthesis behind them. No flag may occur twice, and a hyphen has to
be followed by a flag. -/
def readFlags : Nat → (seen : List Char) → Flags → Scan (Flags × List Char × Char)
  | 0, _, _ => refuse
  | fuel + 1, seen, f => do
    match ← peek? with
    | none => refuse
    | some c =>
      if c = ':' || c = ')' then
        if seen.head? = some '-' then refuse
        else
          advance
          return (f, seen, c)
      else if seen.contains c then refuse
      else if c = '-' then
        advance
        readFlags fuel (c :: seen) f
      else
        match setFlag f (!seen.contains '-') c with
        | none => refuse
        | some f =>
          advance
          readFlags fuel (c :: seen) f

def isNameChar (first : Bool) (c : Char) : Bool :=
  if first then c = '_' || Text.isAlphabetic c
  else c = '_' || c = '.' || c = '[' || c = ']' || Text.isAlphanumeric c

def groupName : Scan String := do
  let s ← rest
  let name := s.takeWhile (· ≠ '>')
  let valid := match name with
    | [] => false
    | c :: more => isNameChar true c && more.all (isNameChar false)
  if valid && name.length < s.length then
    setRest (s.drop (name.length + 1))
    return String.ofList name
  else refuse

inductive GroupStart where
  | flags
  | capture (index : Nat)
  | plain

def openCapture (name? : Option String) : Scan GroupStart := do
  let st ← get
  let index := st.groups + 1
  match name? with
  | none =>
    set { st with groups := index }
    return .capture index
  | some name =>
    if st.names.any fun e => e.1 = name then refuse
    else
      set { st with groups := index, names := st.names ++ [(name, index)] }
      return .capture index

def groupStart : Scan GroupStart := do
  advance
  skipBlanks
  let s ← rest
  match s with
  | '?' :: '=' :: _ => refuse
  | '?' :: '!' :: _ => refuse
  | '?' :: '<' :: '=' :: _ => refuse
  | '?' :: '<' :: '!' :: _ => refuse
  | '?' :: 'P' :: '<' :: tail =>
    setRest tail
    openNamed
  | '?' :: '<' :: tail =>
    setRest tail
    openNamed
  | '?' :: tail =>
    setRest tail
    let (f, seen, close) ← readFlags (tail.length + 1) [] (← flags)
    if close = ')' then
      if seen = [] then refuse
      else
        setFlags f
        return .flags
    else
      setFlags f
      return .plain
  | _ => openCapture none
where
  openNamed : Scan GroupStart := do
    -- the index of a group counts from its parenthesis, so the name is read first
    let name ← groupName
    openCapture (some name)

def decimal : Scan (Option Nat) := do
  setRest ((← rest).dropWhile Text.isBlank)
  let digits ← collectDigits ((← rest).length + 1) []
  setRest ((← rest).dropWhile Text.isBlank)
  skipBlanks
  if digits = [] then return none
  else
    let n := digits.foldl (fun n c => 10 * n + (c.toNat - '0'.toNat)) 0
    if n < UInt32.size then return some n else refuse
where
  collectDigits : Nat → List Char → Scan (List Char)
    | 0, acc => return acc.reverse
    | fuel + 1, acc => do
      match ← peek? with
      | some c =>
        if c.isDigit then
          let _ ← advanceOver
          collectDigits fuel (c :: acc)
        else return acc.reverse
      | none => return acc.reverse

def counts : Scan (Nat × Option Nat) := do
  if !(← advanceOver) then refuse
  else
    let least ← decimal
    match ← peek?, least with
    | none, _ => refuse
    | _, none => refuse
    | some ',', some min =>
      if !(← advanceOver) then refuse
      else
        if (← peek?) = some '\x7d' then return (min, none)
        else
          match ← decimal with
          | none => refuse
          | some max =>
            if (← peek?) = some '\x7d' ∧ min ≤ max then return (min, some max) else refuse
    | some c, some n => if c = '\x7d' then return (n, some n) else refuse

/-- An item of a sequence; flags cannot be repeated. `depth` is how deep the item nests. -/
structure Item where
  node : Node
  depth : Nat := 0
  isFlags : Bool := false

def literalNode (f : Flags) (c : Char) : Node :=
  if f.caseless then
    if f.unicode then .set (.folded (.single c))
    else if c.isAlpha then .set (.asciiFolded (.single c))
    else .char c
  else .char c

def primitiveNode (f : Flags) : Primitive → Scan Node
  | .literal c => return literalNode f c
  | .byte n => if f.unicode || n < 128 then return literalNode f (Char.ofNat n) else refuse
  | .set s => return .set s
  | .look l => return .look l

def dotNode (f : Flags) : Scan Node :=
  if !f.unicode then refuse
  else if f.dotNewline then return .set .any
  else if f.anyLineEnd then return .set (.compl (.union (.single '\r') (.single '\n')))
  else return .set .notNewline

def lineStartLook (f : Flags) : Look :=
  if f.multiLine then (if f.anyLineEnd then .anyLineStart else .lineStart) else .textStart

def lineEndLook (f : Flags) : Look :=
  if f.multiLine then (if f.anyLineEnd then .anyLineEnd else .lineEnd) else .textEnd

def operatorCounts? : Char → Option (Nat × Option Nat)
  | '?' => some (0, some 1)
  | '*' => some (0, none)
  | '+' => some (1, none)
  | _ => none

/-- Repeats the last item. A question mark behind the operator makes it reluctant. -/
def repeatLast (items : List Item) (min : Nat) (max : Option Nat) : Scan (List Item) := do
  let reluctant := (← peek?) = some '?'
  if reluctant then advance
  match items with
  | [] => refuse
  | last :: before =>
    if last.isFlags then refuse
    else
      let f ← flags
      return { node := last.node.repeated min max (reluctant = f.swapGreed), depth := last.depth + 1 } ::
        before

def sequence (items : List Item) : Item :=
  match items with
  | [item] => item
  | items =>
    { node := Node.seqAll (items.reverse.map (·.node))
      depth := if items = [] then 0 else (items.map (·.depth)).foldl Nat.max 0 + 1 }

mutual

def alternatives : Nat → Scan Item
  | 0 => refuse
  | fuel + 1 => do
    let first ← concatenation fuel []
    if (← peek?) = some '|' then
      advance
      let others ← moreAlternatives fuel
      let all := first :: others
      return { node := Node.altAll (all.map (·.node))
               depth := (all.map (·.depth)).foldl Nat.max 0 + 1 }
    else return first

def moreAlternatives : Nat → Scan (List Item)
  | 0 => refuse
  | fuel + 1 => do
    let next ← concatenation fuel []
    if (← peek?) = some '|' then
      advance
      return next :: (← moreAlternatives fuel)
    else return [next]

/-- Items up to a bar, a closing parenthesis or the end; `items` are those before, last first. -/
def concatenation : Nat → List Item → Scan Item
  | 0, _ => refuse
  | fuel + 1, items => do
    skipBlanks
    match ← peek? with
    | none => return sequence items
    | some c =>
      if c = ')' || c = '|' then return sequence items
      else if c = '(' then
        let outer ← flags
        match ← groupStart with
        | .flags => concatenation fuel ({ node := .empty, isFlags := true } :: items)
        | start =>
          let body ← alternatives fuel
          require ')'
          setFlags outer
          let node := match start with
            | .capture index => Node.group index body.node
            | _ => body.node
          concatenation fuel ({ node := node, depth := body.depth + 1 } :: items)
      else if c = '[' then
        let set ← bracketed fuel
        concatenation fuel ({ node := .set set, depth := 1 } :: items)
      else if c = '\x7b' then
        let (min, max) ← counts
        let _ ← advanceOver
        let items ← repeatLast items min max
        concatenation fuel items
      else
        match operatorCounts? c with
        | some (min, max) =>
          advance
          let items ← repeatLast items min max
          concatenation fuel items
        | none =>
          let f ← flags
          let node ←
            match c with
            | '\\' => escape >>= primitiveNode f
            | '.' => advance *> dotNode f
            | '^' => advance *> pure (.look (lineStartLook f))
            | '$' => advance *> pure (.look (lineEndLook f))
            | c => advance *> pure (literalNode f c)
          concatenation fuel ({ node := node } :: items)

end

/-! ### Whole expressions -/

structure Pattern where
  source : String
  root : Node
  names : List (String × Nat)
  deriving DecidableEq, Repr

def maxDepth : Nat := 250

def Pattern.ofText? (source : String) : Option Pattern :=
  let chars := source.toList
  match (alternatives (2 * chars.length + 4)).run { rest := chars } with
  | some (item, st) =>
    if st.rest = [] ∧ item.depth ≤ maxDepth ∧ item.node.weight ≤ Node.maxWeight then
      some ⟨source, item.node, st.names⟩
    else none
  | none => none

namespace Pattern

def isMatch (p : Pattern) (s : String) : Bool :=
  (p.root.search? s.toList).isSome

end Pattern

end RequestDispatch.Regex
