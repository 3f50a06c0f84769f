import RequestDispatch.Mapping.Strategy
import RequestDispatch.Text.Split

/-!
# Fallbacks

What to do with lookup paths that nothing matched: refuse those below one path, and give those
below another to a handler.
-/
namespace RequestDispatch

structure Fallback where
  refused? : Option String := none
  handled? : Option (String × HandlerMethod) := none

namespace Fallback

def answer (f : Fallback) (path : String) : Except DispatchError (Option HandlerMethod) :=
  let refuses := f.refused?.any fun front => Text.startsWithText front path
  if refuses then .error (.handler ("no match for " ++ path))
  else
    match f.handled? with
    | some (front, h) => .ok (if Text.startsWithText front path then some h else none)
    | none => .ok none

def install {D : Type} (f : Fallback) (s : Strategy D) : Strategy D :=
  { s with onNoMatch := fun _ path _ => f.answer path }

end Fallback

end RequestDispatch
