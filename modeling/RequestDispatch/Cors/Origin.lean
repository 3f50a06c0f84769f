import RequestDispatch.Regex.Reader
import RequestDispatch.Text.Split

/-!
# Origins

Patterns that accept origins: texts in which a star stands for any run of characters, and regular
expressions, which have to match some part of the origin. Slashes at the end of an origin do not
count.
-/
namespace RequestDispatch

/-- Finds the parts one after another, and the last one at the end. -/
def partsMatch (s : List Char) : (parts : List (List Char)) → Bool
  | [] => s = []
  | [last] => Text.endsWith last s
  | part :: parts =>
    match Text.afterFirst? part s with
    | some rest => partsMatch rest parts
    | none => false

/-- Whether the value is the pattern with its stars filled in. -/
def wildcardMatch (pattern value : String) : Bool :=
  match Text.split '*' pattern.toList with
  | [] => value = ""
  | front :: parts =>
    match Text.after? front value.toList with
    | some rest => partsMatch rest parts
    | none => false

inductive OriginPattern where
  | wildcard (pattern : String)
  | regex (pattern : Regex.Pattern)
  deriving DecidableEq, Repr

namespace OriginPattern

def accepts (origin : String) : OriginPattern → Bool
  | wildcard pattern => wildcardMatch pattern origin
  | regex pattern => pattern.isMatch origin

def source : OriginPattern → String
  | wildcard pattern => pattern
  | regex pattern => pattern.source

end OriginPattern

def withoutEndSlashes (origin : String) : String :=
  String.ofList (Text.dropEndWhile (· = '/') origin.toList)

end RequestDispatch
