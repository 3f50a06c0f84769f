import RequestDispatch.Http.Request
import RequestDispatch.Mapping.Registry

/-!
# Mapping strategies

Descriptors say which requests a handler method takes. What descriptors are is left open:
everything about them is told by a strategy.
-/
namespace RequestDispatch

structure Strategy (D : Type) where
  /-- Whether beans of the type have handler methods. -/
  isHandler : BeanType → Bool
  /-- The descriptor of a method, if it is a handler method. -/
  describe : Signature → BeanType → Except DispatchError (Option D)
  /-- The literal paths that a descriptor covers. -/
  directPaths : D → List String
  /-- What of a descriptor matches the request, if anything does. -/
  narrow : D → Request D → Option D
  /-- Ranks two narrowed descriptors. The lesser one is the better match. -/
  compare : Request D → D → D → Ordering
  corsFor : HandlerSource → Signature → D → Option CorsConfig := fun _ _ _ => none
  /-- What is noted on the request about the winner and the lookup path. -/
  onMatch : D → String → Request D → Request D := fun _ path r => r.note .pathWithinMapping path
  /-- The handler for a lookup path that nothing matched. -/
  onNoMatch : Registry D → String → Request D → Except DispatchError (Option HandlerMethod) :=
    fun _ _ _ => .ok none
  /-- How a descriptor reads in diagnostics. -/
  render : D → String

abbrev Naming (D : Type) := HandlerMethod → D → Option String

end RequestDispatch
