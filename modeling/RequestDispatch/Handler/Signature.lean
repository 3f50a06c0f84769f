import RequestDispatch.Text.Quoted

/-!
# Method signatures

A method of a handler type: the type that declares it, its name and its parameter types.
-/
namespace RequestDispatch

structure Signature where
  owner : String
  name : String
  parameters : List String
  deriving DecidableEq, Repr

def afterLastQualifier? : List Char → Option (List Char)
  | [] => none
  | ':' :: ':' :: rest => (afterLastQualifier? (':' :: rest)).or (some rest)
  | _ :: rest => afterLastQualifier? rest

def simpleTypeName (name : String) : String :=
  String.ofList ((afterLastQualifier? name.toList).getD name.toList)

def compareLists : List String → List String → Ordering
  | [], [] => .eq
  | [], _ :: _ => .lt
  | _ :: _, [] => .gt
  | a :: as, b :: bs => (compare a b).then (compareLists as bs)

namespace Signature

def text (m : Signature) : String :=
  m.owner ++ "::" ++ m.name ++ "(" ++ ", ".intercalate m.parameters ++ ")"

def simpleOwner (m : Signature) : String :=
  simpleTypeName m.owner

/-- Same name and parameters, whatever the declaring type. -/
def overrides (m other : Signature) : Bool :=
  m.name = other.name && m.parameters = other.parameters

def compare (m other : Signature) : Ordering :=
  (Ord.compare m.owner other.owner).then
    ((Ord.compare m.name other.name).then (compareLists m.parameters other.parameters))

def debugText (m : Signature) : String :=
  Text.rendered "MethodSignature" [("declaring_type", Text.quoted m.owner),
    ("name", Text.quoted m.name), ("parameter_types", Text.quotedList m.parameters)]

end Signature

end RequestDispatch
