import RequestDispatch.Assoc.Buckets
import RequestDispatch.Cors.Config
import RequestDispatch.Handler.HandlerMethod

/-!
# The registry

Descriptors bound to handler methods, with three indexes: descriptors by literal path, handler
methods by name, and CORS metadata by handler method. An operation that fails changes nothing.
-/
namespace RequestDispatch

structure Binding where
  handler : HandlerMethod
  directPaths : List String
  name? : Option String
  cors? : Option CorsConfig
  deriving DecidableEq, Repr

structure Registry (D : Type) where
  bindings : List (D × Binding) := []
  paths : List (String × List D) := []
  names : List (String × List HandlerMethod) := []
  cors : List (HandlerKey × CorsConfig) := []

namespace Registry

variable {D : Type} [DecidableEq D]

def empty : Registry D := {}

def binding? (r : Registry D) (d : D) : Option Binding :=
  Assoc.find? r.bindings d

def atPath (r : Registry D) (path : String) : List D :=
  Assoc.bucket r.paths path

def named? (r : Registry D) (name : String) : Option (List HandlerMethod) :=
  Assoc.find? r.names name

/-- The CORS metadata of a handler method, or of the one that it was resolved from. -/
def corsOf? (r : Registry D) (h : HandlerMethod) : Option CorsConfig :=
  (Assoc.find? r.cors (h.origin?.getD h).key).or (Assoc.find? r.cors h.key)

def handlers (r : Registry D) : List (D × HandlerMethod) :=
  r.bindings.map fun (d, b) => (d, b.handler)

/-! ### The indexes -/

def addPath (d : D) (paths : List (String × List D)) (path : String) : List (String × List D) :=
  Assoc.push paths path d

/-- Takes a descriptor off a path. A path without descriptors is dropped. -/
def dropPath (d : D) (paths : List (String × List D)) (path : String) : List (String × List D) :=
  Assoc.sieve paths path (· ≠ d)

def addName (names : List (String × List HandlerMethod)) (name : String) (h : HandlerMethod) :
    List (String × List HandlerMethod) :=
  if (Assoc.bucket names name).any h.sameAs then names else Assoc.push names name h

def dropName (names : List (String × List HandlerMethod)) (name : String) (h : HandlerMethod) :
    List (String × List HandlerMethod) :=
  Assoc.sieve names name (!h.sameAs ·)

def siblings (r : Registry D) (d : D) (b : Binding) : List Binding :=
  (r.bindings.filter fun e => e.1 ≠ d && e.2.handler.sameAs b.handler).map (·.2)

/-- Takes the index entries of a binding back. A name stays while a sibling carries it, and the
CORS metadata goes back to that of the latest sibling that has any. -/
def release (r : Registry D) (d : D) (b : Binding) : Registry D :=
  let others := r.siblings d b
  let names :=
    match b.name? with
    | none => r.names
    | some name =>
      if others.any fun o => o.name? = some name then r.names else dropName r.names name b.handler
  let cors :=
    match b.cors?, others.reverse.findSome? (·.cors?) with
    | none, _ => r.cors
    | some _, some c => Assoc.put r.cors b.handler.key c
    | some _, none => Assoc.remove r.cors b.handler.key
  { r with paths := b.directPaths.foldl (dropPath d) r.paths, names := names, cors := cors }

def enter (r : Registry D) (d : D) (b : Binding) : Registry D :=
  { bindings := Assoc.put r.bindings d b
    paths := b.directPaths.foldl (addPath d) r.paths
    names := match b.name? with
      | none => r.names
      | some name => addName r.names name b.handler
    cors := match b.cors? with
      | none => r.cors
      | some c => Assoc.put r.cors b.handler.key c }

def unregister (r : Registry D) (d : D) : Registry D :=
  match r.binding? d with
  | none => r
  | some b => ({ r with bindings := Assoc.remove r.bindings d }).release d b

def debugText (r : Registry D) : String :=
  Text.rendered "MappingRegistry" [("registrations", toString r.bindings.length),
    ("direct_paths", toString r.paths.length), ("names", toString r.names.length),
    ("cors", toString r.cors.length)]

end Registry

end RequestDispatch
