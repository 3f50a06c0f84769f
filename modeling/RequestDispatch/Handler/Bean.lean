import RequestDispatch.Handler.Signature

/-!
# Beans and their types

A bean is an object that handles requests. Two beans are the same object exactly if they are
equal: what a container creates has a serial of its own.
-/
namespace RequestDispatch

inductive Bean where
  /-- Answers preflight requests that matched several mappings. -/
  | preflight
  /-- Handed over by the application under a label. -/
  | supplied (label : String)
  | created (serial : Nat) (label : String)
  deriving DecidableEq, Repr

def Bean.label? : Bean → Option String
  | .preflight => none
  | .supplied label => some label
  | .created _ label => some label

structure BeanType where
  name : String
  /-- Declared methods, then inherited ones. -/
  methods : List Signature
  deriving DecidableEq, Repr, Inhabited

namespace BeanType

def named (name : String) : BeanType := ⟨name, []⟩

def simpleName (t : BeanType) : String :=
  simpleTypeName t.name

def withMethod (t : BeanType) (name : String) (parameters : List String) : BeanType :=
  { t with methods := t.methods ++ [⟨t.name, name, parameters⟩] }

def inheriting (t parent : BeanType) : BeanType :=
  { t with methods := t.methods ++ parent.methods.filter fun m => !t.methods.any (·.overrides m) }

end BeanType

end RequestDispatch
