import RequestDispatch.Config.EnvFile.Line
import RequestDispatch.Config.Environment
import RequestDispatch.Text.Category

/-!
# Files of environment variables

Each line sets a variable unless the environment has it. A value may be quoted, escape characters
behind a backslash, and name variables behind a dollar sign; these are looked up in the environment
as the lines before have left it.
-/
namespace RequestDispatch.EnvFile

/-! ### Values -/

/-- What the next character of a value belongs to; the flag says that a double quote is open. -/
inductive Place where
  | text (quoted : Bool)
  | escape (quoted : Bool)
  | single
  | name (quoted : Bool) (read : List Char)
  /-- A name between braces. -/
  | braced (quoted : Bool) (read : List Char)
  /-- The value is over; blanks and a comment may follow. -/
  | ending

def expansion (env : Environment) (name : List Char) : List Char :=
  ((env.value? (String.ofList name)).getD "").toList

def escaped? : Char → Option Char
  | 'n' => some '\n'
  | c => if ['\\', '\'', '"', '$', ' '].contains c then some c else none

def valueFrom? (env : Environment) : Place → List Char → Option (List Char)
  | .text quoted, [] | .escape quoted, [] => if quoted then none else some []
  | .name quoted read, [] => if quoted then none else some (expansion env read)
  | .single, [] | .braced _ _, [] => none
  | .ending, [] => some []
  | .ending, c :: rest =>
    if c = ' ' || c = '\t' then valueFrom? env .ending rest
    else if c = '#' then some [] else none
  | .escape quoted, c :: rest =>
    match escaped? c with
    | some c => (valueFrom? env (.text quoted) rest).map (c :: ·)
    | none => none
  | .single, c :: rest =>
    if c = '\'' then valueFrom? env (.text false) rest
    else (valueFrom? env .single rest).map (c :: ·)
  | .name quoted read, c :: rest =>
    if Text.isAlphanumeric c then valueFrom? env (.name quoted (read ++ [c])) rest
    else if c = '\x7b' && read = [] then valueFrom? env (.braced quoted []) rest
    else if c = '$' then (valueFrom? env (.name quoted []) rest).map (expansion env read ++ ·)
    else (valueFrom? env (.text quoted) rest).map (expansion env read ++ c :: ·)
  | .braced quoted read, c :: rest =>
    if c = '\x7d' then (valueFrom? env (.text quoted) rest).map (expansion env read ++ ·)
    else valueFrom? env (.braced quoted (read ++ [c])) rest
  | .text quoted, c :: rest =>
    if c = '$' then valueFrom? env (.name quoted []) rest
    else if c = '\\' then valueFrom? env (.escape quoted) rest
    else if c = '"' then valueFrom? env (.text !quoted) rest
    else if quoted then (valueFrom? env (.text true) rest).map (c :: ·)
    else if c = '\'' then valueFrom? env .single rest
    else if c = ' ' || c = '\t' then valueFrom? env .ending rest
    else (valueFrom? env (.text false) rest).map (c :: ·)

/-! ### Lines -/

def isKeyStart (c : Char) : Bool :=
  c.isAlpha || c = '_'

def isKeyChar (c : Char) : Bool :=
  c.isAlphanum || c = '_' || c = '.'

def key? : List Char → Option (List Char × List Char)
  | [] => none
  | c :: rest =>
    if isKeyStart c then
      some (c :: rest.takeWhile isKeyChar, Text.trimStart (rest.dropWhile isKeyChar))
    else none

/-- The key before the equals sign, and what follows the sign. The word `export` may stand in
front of the key. -/
def assigned? (s : List Char) : Option (List Char × List Char) :=
  match key? s with
  | none => none
  | some (key, '=' :: rest) => some (key, rest)
  | some (key, rest) =>
    if key = "export".toList then
      match key? rest with
      | some (key, '=' :: rest) => some (key, rest)
      | _ => none
    else none

def applyLine? (env : Environment) (line : List Char) : Option Environment :=
  match Text.trimStart (Text.trimEnd line) with
  | [] | '#' :: _ => some env
  | s =>
    match assigned? s with
    | none => none
    | some (key, rest) =>
      let value? :=
        match Text.trimStart rest with
        | [] | '#' :: _ => some []
        | rest => valueFrom? env (.text false) rest
      value?.map fun value => env.setDefault (String.ofList key) (String.ofList value)

def load? (env : Environment) (content : String) : Option Environment := do
  let lines ← lines? (Text.skipMark content.toList)
  lines.foldlM applyLine? env

end RequestDispatch.EnvFile
