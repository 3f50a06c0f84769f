import RequestDispatch.Mapping.Strategy

/-!
# Registration

What a strategy tells about a descriptor is derived once, when the descriptor is bound.
-/
namespace RequestDispatch.Registry

variable {D : Type} [DecidableEq D]

def bindingFor (s : Strategy D) (naming? : Option (Naming D)) (d : D) (source : HandlerSource)
    (method : Signature) : Except DispatchError Binding :=
  let handler : HandlerMethod := ⟨source, method, none⟩
  let cors? := s.corsFor source method d
  match cors?.elim (.ok ()) CorsConfig.validate with
  | .error e => .error e
  | .ok _ =>
    .ok { handler := handler
          directPaths := (s.directPaths d).eraseDups
          name? := naming?.bind fun naming => naming handler d
          cors? := cors? }

/-- Binds a descriptor to a handler method. A descriptor that another handler method holds is not
taken away from it; binding one again to the same handler method replaces the binding. -/
def register (r : Registry D) (s : Strategy D) (naming? : Option (Naming D)) (d : D)
    (source : HandlerSource) (method : Signature) : Except DispatchError (Registry D) :=
  let handler : HandlerMethod := ⟨source, method, none⟩
  let bind (before : Registry D) : Except DispatchError (Registry D) :=
    (bindingFor s naming? d source method).map fun b => before.enter d b
  match r.binding? d with
  | none => bind r
  | some held =>
    if held.handler.sameAs handler then bind (r.release d held)
    else
      .error (.ambiguousMapping handler.beanDescription handler.text (s.render d)
        held.handler.beanDescription held.handler.text)

def registerEvents (r : Registry D) (s : Strategy D) (d : D) (source : HandlerSource)
    (method : Signature) : List LogEvent :=
  let mapping := ("mapping", LogField.text (s.render d))
  let handler : HandlerMethod := ⟨source, method, none⟩
  let replaced : List LogEvent :=
    match r.binding? d with
    | none => []
    | some _ => [.trace "Replacing existing registration" [mapping]]
  replaced ++ [.trace "Mapped handler method" [mapping, ("handler", .text handler.text)]]

def unregisterEvents (r : Registry D) (s : Strategy D) (d : D) : List LogEvent :=
  match r.binding? d with
  | none => []
  | some b => [.debug "Unregistered mapping"
      [("mapping", .text (s.render d)), ("handler", .text b.handler.text)]]

end RequestDispatch.Registry
