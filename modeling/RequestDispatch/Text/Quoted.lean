import RequestDispatch.Text.Category

/-!
# Quoted text

Text between double quotes, in which quotes, backslashes and whatever would not show as itself
are written as escapes; and the texts of structures that hold quoted text.
-/
namespace RequestDispatch.Text

def hexDigits (n : Nat) : String :=
  String.ofList (Nat.toDigits 16 n)

def escapeChar (c : Char) : String :=
  match c with
  | '"' => "\\\""
  | '\\' => "\\\\"
  | '\n' => "\\n"
  | '\r' => "\\r"
  | '\t' => "\\t"
  | '\x00' => "\\0"
  | c =>
    if c.toNat < 0x7F && 0x20 ≤ c.toNat then c.toString
    else if isGraphemeExtend c || !isPrintable c then
      "\\u\x7b" ++ hexDigits c.toNat ++ "\x7d"
    else c.toString

def quoted (s : String) : String :=
  "\"" ++ String.join (s.toList.map escapeChar) ++ "\""

def quotedOption : Option String → String
  | none => "None"
  | some s => "Some(" ++ quoted s ++ ")"

def bracketed (items : List String) : String :=
  "[" ++ ", ".intercalate items ++ "]"

def quotedList (items : List String) : String :=
  bracketed (items.map quoted)

/-- A named structure with its fields, as in `Name \x7b field: value \x7d`. -/
def rendered (name : String) (fields : List (String × String)) : String :=
  name ++ " \x7b " ++ ", ".intercalate (fields.map fun (field, value) => field ++ ": " ++ value) ++
    " \x7d"

def flag (b : Bool) : String :=
  if b then "true" else "false"

end RequestDispatch.Text
