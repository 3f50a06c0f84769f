import RequestDispatch.Config.EnvText
import RequestDispatch.Config.Error
import RequestDispatch.Data.Json
import RequestDispatch.Data.Toml.Reader

/-!
# Formats of configuration files

A format is named by the extension of a path, in any case, and reads a text to a value.
-/
namespace RequestDispatch

inductive FileFormat where
  | json | toml | env
  deriving DecidableEq, Repr

namespace FileFormat

def text : FileFormat → String
  | json => "Json"
  | toml => "Toml"
  | env => "Env"

def ofExtension? (extension : String) : Option FileFormat :=
  match Text.toLower extension with
  | "json" => some json
  | "toml" => some toml
  | "env" => some env
  | _ => none

/-- The last part of a path, unless the path ends in a parent directory or is a root. Empty parts
and the current directory count for nothing. -/
def fileName? (path : List Char) : Option (List Char) :=
  let parts := (Text.split '/' path).filter fun part => part ≠ [] && part ≠ ['.']
  parts.getLast?.filter fun part => part ≠ ['.', '.']

/-- What follows the last point of a file name that starts before it. -/
def extension? (path : String) : Option String := do
  let name ← fileName? path.toList
  let (back, front) ← Text.splitOnce? '.' name.reverse
  if front = [] then none else some (String.ofList back.reverse)

def ofPath (path : String) : Except ConfigError FileFormat :=
  match extension? path with
  | none => .error (.noExtension path)
  | some extension =>
    match ofExtension? extension with
    | none => .error (.unsupportedFormat extension)
    | some format => .ok format

def orMalformed (v? : Option Value) : Except ConfigError Value :=
  match v? with
  | some v => .ok v
  | none => .error .malformed

def read (format : FileFormat) (content : String) : Except ConfigError Value :=
  match format with
  | json => orMalformed (Json.read? content.toList)
  | toml => orMalformed (Toml.read? content.toList)
  | env => .ok (EnvText.read content)

end FileFormat

end RequestDispatch
