import RequestDispatch.Mapping.HandlerMapping

/-!
# Discovery

Discovery walks the names of a container and registers the handler methods of each handler type.
It looks at types only: no bean is created. If it fails, the mapping is left empty and can be
started again.
-/
namespace RequestDispatch

/-- Beans behind a scoped proxy carry this in front of their names. They are no candidates. -/
def scopedTarget : String := "scopedTarget."

structure Progress (D : Type) where
  registry : Registry D
  events : List LogEvent := []

def Progress.emit {D : Type} (p : Progress D) (events : List LogEvent) : Progress D :=
  { p with events := p.events ++ events }

namespace HandlerMapping

variable {D : Type} [DecidableEq D]

/-- The descriptors of the handler methods among `methods`. The first that cannot be described
fails the type. -/
def describeAll (m : HandlerMapping D) (type : BeanType) :
    List Signature → Except DispatchError (List (D × Signature))
  | [] => .ok []
  | method :: rest =>
    match m.strategy.describe method type with
    | .error e => .error (.invalidMapping type.name method.text e)
    | .ok none => describeAll m type rest
    | .ok (some d) => (describeAll m type rest).map ((d, method) :: ·)

/-- Registers descriptors one after another, up to the first that fails. -/
def registerAll (m : HandlerMapping D) (source : HandlerSource) :
    List (D × Signature) → Progress D → Except DispatchError Unit × Progress D
  | [], p => (.ok (), p)
  | (d, method) :: rest, p =>
    let p := p.emit [.trace "Registering detected mapping"
      [("mapping", .text (m.strategy.render d)), ("method", .text method.text)]]
    match p.registry.register m.strategy m.naming? d source method with
    | .error e => (.error e, p)
    | .ok r =>
      registerAll m source rest
        ⟨r, p.events ++ p.registry.registerEvents m.strategy d source method⟩

/-- Registers the handler methods of a type. All are described before any is registered. -/
def detectInto (m : HandlerMapping D) (source : HandlerSource) (type : BeanType) (p : Progress D) :
    Except DispatchError Unit × Progress D :=
  match m.describeAll type type.methods with
  | .error e => (.error e, p)
  | .ok described =>
    m.registerAll source described (p.emit [.debug "Detected handler methods"
      [("handler_type", .text type.name), ("mappings", .number described.length)]])

def discoverBean (m : HandlerMapping D) (c : Containers) (name : String) (p : Progress D) :
    Except DispatchError Unit × Progress D :=
  if Text.startsWithText scopedTarget name then
    (.ok (), p.emit [.trace "Skipping scoped proxy target" [("bean", .text name)]])
  else
    match c.typeOf 0 name with
    | .error e =>
      (.ok (), p.emit [.trace "Could not resolve type for bean"
        [("bean", .text name), ("error", .text e.message)]])
    | .ok type =>
      if m.strategy.isHandler type then m.detectInto (.bean name) type p else (.ok (), p)

def discoverFrom (m : HandlerMapping D) (c : Containers) :
    List String → Progress D → Except DispatchError Unit × Progress D
  | [], p => (.ok (), p)
  | name :: rest, p =>
    match m.discoverBean c name p with
    | (.error e, p) => (.error e, p)
    | (.ok _, p) => discoverFrom m c rest p

def discover (m : HandlerMapping D) (c : Containers) : Except DispatchError Unit × Progress D :=
  m.discoverFrom c (c.names 0 m.options.ancestors) ⟨m.registry, []⟩

/-- Registers the handler methods of a type, in whatever state the mapping is. -/
def detect (m : HandlerMapping D) (source : HandlerSource) (type : BeanType) :
    Except DispatchError Unit × HandlerMapping D × List LogEvent :=
  let (result, p) := m.detectInto source type ⟨m.registry, []⟩
  (result, { m with registry := p.registry }, p.events)

/-- Discovers and announces the handler methods, and makes the mapping ready. -/
def start (m : HandlerMapping D) (c : Containers) :
    Except DispatchError Unit × HandlerMapping D × List LogEvent :=
  if m.state ≠ .uninitialized then
    (.error (.illegalState ("handler method mapping cannot be initialized in state " ++
      m.state.text)), m, [])
  else
    match m.discover c with
    | (.error e, p) => (.error e, { m with registry := .empty }, p.events)
    | (.ok _, p) =>
      let found := p.registry.handlers
      (.ok (), { m with registry := p.registry, state := .ready, announced := m.announced ++ [found] },
        p.events ++ [.info "Handler method mapping ready"
          [("handler_methods", .number found.length)]])

end HandlerMapping

end RequestDispatch
