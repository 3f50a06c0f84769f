import RequestDispatch.Http.Request
import RequestDispatch.Path.Match
import RequestDispatch.Path.Rank

/-!
# Routes as descriptors

A route mapping takes the paths that match one of its patterns, with one of its methods. Without
methods it takes them all.
-/
namespace RequestDispatch

structure RouteMapping where
  name? : Option String := none
  patterns : List String
  methods : List Method
  deriving DecidableEq, Repr, Inhabited

namespace RouteMapping

def of (patterns : List String) (methods : List Method) (name? : Option String) : RouteMapping :=
  ⟨name?, patterns, Method.sortUnique methods⟩

def text (m : RouteMapping) : String :=
  let methods := String.join (m.methods.map fun method => method.name ++ " ")
  let patterns := match m.patterns with
    | [single] => single
    | patterns => "[" ++ ", ".intercalate patterns ++ "]"
  "\x7b" ++ methods ++ patterns ++ "\x7d"

def debugText (m : RouteMapping) : String :=
  Text.rendered "RouteMapping" [("name", Text.quotedOption m.name?),
    ("patterns", Text.quotedList m.patterns),
    ("methods", Text.bracketed (m.methods.map (·.name)))]

/-! ### Matching -/

/-- The method that a request is routed by: a preflight request counts for the one it asks for. -/
def routedMethod? {D : Type} (r : Request D) : Option Method :=
  if r.isPreflight then (r.header? "access-control-request-method").bind Method.parse?
  else r.method?

/-- The method that lets the request in. A route for GET takes HEAD requests as well. -/
def matchingMethods? {D : Type} (m : RouteMapping) (r : Request D) : Option (List Method) :=
  if m.methods = [] then some []
  else
    (routedMethod? r).bind fun method =>
      if m.methods.contains method then some [method]
      else if method = .head && m.methods.contains .get then some [.get]
      else none

def matchingPatterns (m : RouteMapping) (path : String) : List String :=
  (m.patterns.filter fun p => Path.isMatch p path).mergeSort fun a b =>
    (Path.comparePatterns path a b).isLE

def narrow? {D : Type} (m : RouteMapping) (r : Request D) (path : String) : Option RouteMapping :=
  (m.matchingMethods? r).bind fun methods =>
    match m.matchingPatterns path with
    | [] => none
    | patterns => some { m with patterns := patterns, methods := methods }

/-! ### Ranking -/

def comparePaired (path : String) : List String → List String → Ordering
  | a :: as, b :: bs => (Path.comparePatterns path a b).then (comparePaired path as bs)
  | _, _ => .eq

/-- Of mappings whose patterns rank alike, more patterns and then more methods come first. -/
def compareTo (path : String) (a b : RouteMapping) : Ordering :=
  (comparePaired path a.patterns b.patterns).then <|
  (compare b.patterns.length a.patterns.length).then <|
  compare b.methods.length a.methods.length

end RouteMapping

end RequestDispatch
