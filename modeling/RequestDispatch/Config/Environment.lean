import RequestDispatch.Assoc
import RequestDispatch.Config.Error
import RequestDispatch.Config.Typed
import RequestDispatch.Text.Case
import RequestDispatch.Text.Split

/-!
# Configuration from the environment

An environment is a list of variables in the order in which they were first set. A reader takes the
variables whose names start with its prefix; the rest of the name, in lower case, is the key. Of two
variables with one key the later counts.
-/
namespace RequestDispatch

abbrev Environment := List (String × String)

namespace Environment

def ofList (entries : List (String × String)) : Environment :=
  Assoc.ofList entries

/-- The value of a variable, found by the text `name=` at the front of its entry `NAME=VALUE`. -/
def value? (env : Environment) (name : String) : Option String :=
  if name = "" then none
  else env.findSome? fun (n, v) =>
    (Text.after? (name ++ "=").toList (n ++ "=" ++ v).toList).map String.ofList

def setDefault (env : Environment) (name value : String) : Environment :=
  if (env.value? name).isSome then env else Assoc.put env name value

end Environment

structure EnvironmentReader where
  namePrefix? : Option String

namespace EnvironmentReader

def defaultPrefix : String := "TRELLIS"

def key? (r : EnvironmentReader) (name : String) : Option String :=
  match r.namePrefix? with
  | none => some (Text.toLower name)
  | some front =>
    match Text.after? front.toList name.toList with
    | none => none
    | some rest =>
      let rest := rest.dropWhile (· = '_')
      if rest = [] then none else some (Text.toLower (String.ofList rest))

def entries (r : EnvironmentReader) (env : Environment) : List (String × String) :=
  env.filterMap fun (name, value) => (r.key? name).map fun key => (key, value)

def load (r : EnvironmentReader) (env : Environment) : List (String × String) :=
  Assoc.ofList (r.entries env)

def loadTyped (r : EnvironmentReader) (env : Environment) : List (String × Value) :=
  (r.load env).map fun (key, raw) => (key, typedValue raw)

def variableName (r : EnvironmentReader) (key : String) : String :=
  match r.namePrefix? with
  | none => Text.toUpper key
  | some front => front ++ "_" ++ Text.toUpper key

def value (r : EnvironmentReader) (env : Environment) (key : String) :
    Except ConfigError String :=
  match env.value? (r.variableName key) with
  | some value => .ok value
  | none => .error .unsetVariable

def valueOr (r : EnvironmentReader) (env : Environment) (key default : String) : String :=
  match r.value env key with
  | .ok value => value
  | .error _ => default

end EnvironmentReader

end RequestDispatch
