import RequestDispatch.Config.Typed
import RequestDispatch.Text.Case
import RequestDispatch.Text.Split

/-!
# Files of `KEY=value` lines

Blank lines, comment lines and lines without an equals sign count for nothing. Keys are read in
lower case; a value loses the blanks, then the double quotes, then the single quotes around it. Of
two lines with one key the later counts.
-/
namespace RequestDispatch.EnvText

def strip (c : Char) (s : List Char) : List Char :=
  Text.dropEndWhile (· = c) (s.dropWhile (· = c))

def unquote (s : List Char) : List Char :=
  strip '\'' (strip '"' (Text.trim s))

def entry? (line : List Char) : Option (String × String) :=
  let line := Text.trim line
  match line with
  | [] | '#' :: _ => none
  | line => (Text.splitOnce? '=' line).map fun (key, value) =>
    (Text.toLower (String.ofList (Text.trim key)), String.ofList (unquote value))

def entries (s : String) : List (String × String) :=
  (Text.lines s.toList).filterMap entry?

def read (s : String) : Value :=
  .object (Value.ofFields ((entries s).map fun (key, raw) => (key, typedValue raw)))

end RequestDispatch.EnvText
