import RequestDispatch.Chain.Interceptor
import RequestDispatch.Path.Match

/-!
# Where interceptors apply

A scoped interceptor applies to the paths that one of its patterns includes and none excludes.
Without any including pattern it applies to every path that is not excluded.
-/
namespace RequestDispatch

structure PathScope where
  includes : List String := []
  excludes : List String := []
  matcher : Path.Matching := Path.isMatch

def PathScope.covers (s : PathScope) (path : String) : Bool :=
  !s.excludes.any (s.matcher · path) &&
    (s.includes.isEmpty || s.includes.any (s.matcher · path))

structure ScopedInterceptor (D : Type) where
  interceptor : Interceptor D
  scope? : Option PathScope := none

namespace ScopedInterceptor

variable {D : Type}

def forPath? (i : ScopedInterceptor D) (path : String) : Option (Interceptor D) :=
  match i.scope? with
  | none => some i.interceptor
  | some scope => if scope.covers path then some i.interceptor else none

def debugText (name : String) (scope : PathScope) : String :=
  Text.rendered "MappedInterceptor" [("include", Text.quotedList scope.includes),
    ("exclude", Text.quotedList scope.excludes), ("interceptor", Text.quoted name)]

end ScopedInterceptor

end RequestDispatch
