import RequestDispatch.Data.Value

/-!
# Building views

A view shows a value of the library as data: a record of named parts, with null for what is
missing.
-/
namespace RequestDispatch.View

def record (parts : List (String × Value)) : Value :=
  .object (Value.ofFields parts)

def number (n : Nat) : Value := .int n

def optional {α : Type} (view : α → Value) : Option α → Value
  | none => .null
  | some a => view a

def textOrNull : Option String → Value :=
  optional .text

def texts (items : List String) : Value :=
  .list (items.map .text)

def items {α : Type} (view : α → Value) (l : List α) : Value :=
  .list (l.map view)

def table {α : Type} (view : α → Value) (entries : List (String × α)) : Value :=
  record (entries.map fun (k, a) => (k, view a))

def withParts (v : Value) (parts : List (String × Value)) : Value :=
  match v with
  | .object fields => record (fields ++ parts)
  | v => v

def grid {α : Type} (items : List α) (mark : α → α → String) : Value :=
  texts (items.map fun a => String.join (items.map fun b => mark a b))

def orderMark (lt eq gt : String) : Ordering → String
  | .lt => lt
  | .eq => eq
  | .gt => gt

/-! ### Floats by their bits -/

def bitsText (x : Binary64) : String :=
  let digits := Nat.toDigits 16 x.bits.toNat
  String.ofList (List.replicate (16 - digits.length) '0' ++ digits)

mutual

/-- Every float in the value is shown by its bits. -/
def withFloatBits : Value → Value
  | .float x => .object [("$f64", .text (bitsText x))]
  | .list items => .list (itemsWithFloatBits items)
  | .object fields => .object (fieldsWithFloatBits fields)
  | v => v

def itemsWithFloatBits : List Value → List Value
  | [] => []
  | v :: rest => withFloatBits v :: itemsWithFloatBits rest

def fieldsWithFloatBits : List (String × Value) → List (String × Value)
  | [] => []
  | (key, v) :: rest => (key, withFloatBits v) :: fieldsWithFloatBits rest

end

end RequestDispatch.View
