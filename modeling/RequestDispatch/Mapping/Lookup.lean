import RequestDispatch.Mapping.HandlerMapping

/-!
# Lookup

Descriptors bound to the literal path are tried first, and all descriptors only if none of those
matches. The best of several matches wins. A tie between the best two is an error; a preflight
request that has several matches goes to the preflight handler if one of them has CORS metadata.
-/
namespace RequestDispatch

structure Match (D : Type) where
  mapping : D
  binding : Binding

inductive Selection (D : Type) where
  | nothing
  | preflight
  | ambiguous (first second : HandlerMethod)
  | best (m : Match D)

namespace HandlerMapping

variable {D : Type} [DecidableEq D]

def matchesAmong (m : HandlerMapping D) (r : Request D) (ds : List D) : List (Match D) :=
  ds.filterMap fun d => do
    let narrowed ← m.strategy.narrow d r
    let binding ← m.registry.binding? d
    return ⟨narrowed, binding⟩

def directMatches (m : HandlerMapping D) (path : String) (r : Request D) : List (Match D) :=
  m.matchesAmong r (m.registry.atPath path)

def allMatches (m : HandlerMapping D) (r : Request D) : List (Match D) :=
  m.matchesAmong r (Assoc.keys m.registry.bindings)

def candidates (m : HandlerMapping D) (path : String) (r : Request D) : List (Match D) :=
  match m.directMatches path r with
  | [] => m.allMatches r
  | direct => direct

def rank (m : HandlerMapping D) (r : Request D) (ms : List (Match D)) : List (Match D) :=
  ms.mergeSort fun a b => (m.strategy.compare r a.mapping b.mapping).isLE

/-- Chooses among matches in ranked order. -/
def choose (m : HandlerMapping D) (r : Request D) : List (Match D) → Selection D
  | [] => .nothing
  | [only] => .best only
  | first :: second :: rest =>
    if r.isPreflight then
      if (first :: second :: rest).any (·.binding.cors?.isSome) then .preflight else .best first
    else if m.strategy.compare r first.mapping second.mapping = .eq then
      .ambiguous first.binding.handler second.binding.handler
    else .best first

def select (m : HandlerMapping D) (path : String) (r : Request D) : Selection D :=
  m.choose r (m.rank r (m.candidates path r))

/-- The handler method for a lookup path. What won is noted on the request. -/
def lookup (m : HandlerMapping D) (path : String) (r : Request D) :
    Except DispatchError (Option HandlerMethod) × Request D :=
  match m.select path r with
  | .nothing => (m.strategy.onNoMatch m.registry path r, r)
  | .preflight => (.ok (some .preflight), r)
  | .ambiguous first second => (.error (.ambiguousHandlers r.uri first.text second.text), r)
  | .best found =>
    let noted := (r.note .bestHandler found.binding.handler).note .bestMapping found.mapping
    (.ok (some found.binding.handler), m.strategy.onMatch found.mapping path noted)

def lookupEvents (m : HandlerMapping D) (path : String) (r : Request D) : List LogEvent :=
  let path' := ("path", LogField.text path)
  let count := (m.candidates path r).length
  (if (m.directMatches path r).isEmpty then
    [.trace "No direct path match, scanning all mappings" [path']] else []) ++
  (if 1 < count then
    [.trace "Ranked matching mappings" [path', ("candidates", .number count)]] else [])

/-! ### CORS metadata of a handler -/

def hasCorsSource (m : HandlerMapping D) (h : HandlerMethod) : Bool :=
  !m.globalCors.isEmpty || h.isPreflight || (m.registry.corsOf? h).isSome

def globalCorsFor? (m : HandlerMapping D) (path : String) : Option CorsConfig :=
  (m.globalCors.find? fun e => m.matcher e.1 path).map (·.2)

def handlerCors? (m : HandlerMapping D) (h : HandlerMethod) : Option CorsConfig :=
  if h.isPreflight then some .permissiveWithCredentials else m.registry.corsOf? h

def corsFor? (m : HandlerMapping D) (h : HandlerMethod) (r : Request D) : Option CorsConfig :=
  match m.globalCorsFor? (r.notedPath m.options.decode), m.handlerCors? h with
  | some g, some own => some (g.combine own)
  | some g, none => some g
  | none, own => own

/-! ### Chains -/

def corsInterceptors (m : HandlerMapping D) (h : HandlerMethod) (r : Request D) :
    Except DispatchError (List (Interceptor D)) :=
  if m.hasCorsSource h || r.isPreflight then
    match m.corsFor? h r with
    | none => .ok []
    | some c => c.validate.map fun _ => [.cors c]
  else .ok []

def chainFor (m : HandlerMapping D) (h : HandlerMethod) (r : Request D) :
    Except DispatchError (Chain D) :=
  let own := m.interceptors.filterMap (·.forPath? (r.notedPath m.options.decode))
  (m.corsInterceptors h r).map fun cors => ⟨h, cors ++ own⟩

structure Lookup (D α : Type) where
  result : Except DispatchError α
  request : Request D
  containers : Containers
  events : List LogEvent

/-- The handler method for a request, with its bean at hand. -/
def findHandler (m : HandlerMapping D) (c : Containers) (r : Request D) :
    Lookup D (Option HandlerMethod) :=
  let path := r.pathForLookup m.options.decode
  let r := r.note .lookupPath path
  let events := m.lookupEvents path r
  match m.lookup path r with
  | (.error e, r) => ⟨.error e, r, c, events⟩
  | (.ok none, r) => ⟨.ok none, r, c, events⟩
  | (.ok (some h), r) =>
    let (resolved, c') := h.resolve c
    ⟨resolved.map some, r, c', events ++ h.resolveEvents c⟩

/-- The chain for a request. The default handler takes what nothing matches. -/
def getHandler (m : HandlerMapping D) (c : Containers) (r : Request D) :
    Lookup D (Option (Chain D)) :=
  let found := m.findHandler c r
  match found.result with
  | .error e => ⟨.error e, found.request, found.containers, found.events⟩
  | .ok h? =>
    match h?.or m.defaultHandler? with
    | none => ⟨.ok none, found.request, found.containers, found.events⟩
    | some h =>
      let chain := m.chainFor h found.request
      let mapped : List LogEvent :=
        match chain with
        | .error _ => []
        | .ok _ => [.debug "Mapped request"
            [("path", .text (found.request.notedPath m.options.decode)), ("handler", .text h.text)]]
      ⟨chain.map some, found.request, found.containers, found.events ++ mapped⟩

end HandlerMapping

end RequestDispatch
