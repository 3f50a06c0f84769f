import RequestDispatch.Chain.Run
import RequestDispatch.Chain.Scope
import RequestDispatch.Mapping.Registration

/-!
# Handler mappings

A handler mapping finds the handler of a request. It is set up, then discovers handler methods
once, and is ready from then on; while it is ready, descriptors can be registered and taken out.
-/
namespace RequestDispatch

structure MappingOptions where
  /-- Beans of the ancestor containers are discovered as well. -/
  ancestors : Bool := false
  /-- The lookup path is percent-decoded. -/
  decode : Bool := true
  deriving DecidableEq, Repr

inductive MappingState where
  | uninitialized
  | initializing
  | ready
  deriving DecidableEq, Repr

def MappingState.text : MappingState → String
  | uninitialized => "Uninitialized"
  | initializing => "Initializing"
  | ready => "Ready"

structure HandlerMapping (D : Type) where
  strategy : Strategy D
  naming? : Option (Naming D) := none
  options : MappingOptions := {}
  interceptors : List (ScopedInterceptor D) := []
  /-- CORS metadata for the paths that match a pattern. The first match counts. -/
  globalCors : List (String × CorsConfig) := []
  /-- Decides which patterns of `globalCors` match a path. -/
  matcher : Path.Matching := Path.isMatch
  /-- Takes the requests that nothing matches. -/
  defaultHandler? : Option HandlerMethod := none
  state : MappingState := .uninitialized
  registry : Registry D := {}
  /-- What was announced when a discovery had ended. -/
  announced : List (List (D × HandlerMethod)) := []

namespace HandlerMapping

variable {D : Type} [DecidableEq D]

def whenReady {α : Type} (m : HandlerMapping D) (operation : String) (result : Except DispatchError α) :
    Except DispatchError α :=
  if m.state = .ready then result
  else
    .error (.illegalState ("cannot " ++ operation ++ " while handler method mapping is " ++
      m.state.text))

def register (m : HandlerMapping D) (d : D) (source : HandlerSource) (method : Signature) :
    Except DispatchError (HandlerMapping D) :=
  m.whenReady "register a mapping" <|
    (m.registry.register m.strategy m.naming? d source method).map fun r => { m with registry := r }

def registerEvents (m : HandlerMapping D) (d : D) (source : HandlerSource) (method : Signature) :
    List LogEvent :=
  match m.register d source method with
  | .ok _ => m.registry.registerEvents m.strategy d source method
  | .error _ => []

/-- Takes a descriptor out while the mapping is ready. One that is not there is ignored. -/
def unregister (m : HandlerMapping D) (d : D) : Except DispatchError (HandlerMapping D) :=
  m.whenReady "unregister a mapping" (.ok { m with registry := m.registry.unregister d })

def unregisterEvents (m : HandlerMapping D) (d : D) : List LogEvent :=
  match m.unregister d with
  | .ok _ => m.registry.unregisterEvents m.strategy d
  | .error _ => []

def optionsText (o : MappingOptions) : String :=
  Text.rendered "MappingOptions" [("detect_in_ancestor_contexts", Text.flag o.ancestors),
    ("url_decode", Text.flag o.decode)]

def debugText (m : HandlerMapping D) : String :=
  Text.rendered "HandlerMethodMapping" [("state", m.state.text),
    ("options", optionsText m.options), ("registry", m.registry.debugText),
    ("interceptors", toString m.interceptors.length),
    ("global_cors", toString m.globalCors.length)]

end HandlerMapping

end RequestDispatch
