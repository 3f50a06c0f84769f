import RequestDispatch.Handler.Container

/-!
# Handler methods

A bean together with the method of it that handles a request. The bean is either at hand or known
by name, and then a container resolves it.
-/
namespace RequestDispatch

inductive HandlerSource where
  | bean (name : String)
  | object (bean : Bean)
  deriving DecidableEq, Repr

/-- `via` is the bean name that the object was resolved from, if it was. -/
structure HandlerMethod where
  source : HandlerSource
  method : Signature
  via : Option String := none
  deriving DecidableEq, Repr

structure HandlerKey where
  source : HandlerSource
  method : Signature
  deriving DecidableEq, Repr

namespace HandlerMethod

def key (h : HandlerMethod) : HandlerKey := ⟨h.source, h.method⟩

def sameAs (h other : HandlerMethod) : Bool :=
  h.key = other.key

def isDeferred (h : HandlerMethod) : Bool :=
  match h.source with
  | .bean _ => true
  | .object _ => false

def beanName? (h : HandlerMethod) : Option String :=
  match h.source with
  | .bean name => some name
  | .object _ => none

def bean? (h : HandlerMethod) : Option Bean :=
  match h.source with
  | .bean _ => none
  | .object b => some b

def beanDescription (h : HandlerMethod) : String :=
  match h.source with
  | .bean name => name
  | .object _ => h.method.owner

/-- The handler method that this one was resolved from. -/
def origin? (h : HandlerMethod) : Option HandlerMethod :=
  h.via.map fun name => ⟨.bean name, h.method, none⟩

/-- The same handler method with its bean at hand. -/
def resolve (h : HandlerMethod) (c : Containers) : Except DispatchError HandlerMethod × Containers :=
  match h.source with
  | .object _ => (.ok h, c)
  | .bean name =>
    match c.bean 0 name with
    | (.ok b, c) => (.ok ⟨.object b, h.method, some name⟩, c)
    | (.error e, c) => (.error e, c)

def resolveEvents (h : HandlerMethod) (c : Containers) : List LogEvent :=
  match h.source with
  | .object _ => []
  | .bean name => c.beanEvents 0 name

/-- Handles preflight requests that matched several mappings, one of them with CORS metadata. -/
def preflight : HandlerMethod :=
  ⟨.object .preflight, ⟨"PreflightHandler", "handle", []⟩, none⟩

def isPreflight (h : HandlerMethod) : Bool :=
  h.sameAs preflight

def text (h : HandlerMethod) : String :=
  h.method.text

def debugText (h : HandlerMethod) : String :=
  Text.rendered "HandlerMethod" [("bean", Text.quoted h.beanDescription),
    ("deferred", Text.flag h.isDeferred), ("method", Text.quoted h.text)]

def nameText (name : String) : String :=
  "BeanName(" ++ Text.quoted name ++ ")"

end HandlerMethod

end RequestDispatch
