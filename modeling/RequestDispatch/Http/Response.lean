import RequestDispatch.Assoc
import RequestDispatch.Data.Value

/-!
# Responses, and what handlers produce

Header names of a response keep their case. A handler may produce a view with a model.
-/
namespace RequestDispatch

structure Response where
  status : UInt16 := 200
  headers : List (String × String) := []
  body : String := ""
  deriving DecidableEq, Repr

namespace Response

def ok : Response := {}
def forbidden : Response := { status := 403 }

def setHeader (r : Response) (name value : String) : Response :=
  { r with headers := Assoc.put r.headers name value }

end Response

structure ModelView where
  view : Option String := none
  model : List (String × Value) := []

namespace ModelView

def withAttribute (m : ModelView) (key : String) (v : Value) : ModelView :=
  { m with model := Value.putField m.model key v }

def isBlank (m : ModelView) : Bool :=
  m.view.isNone && m.model.isEmpty

end ModelView

end RequestDispatch
