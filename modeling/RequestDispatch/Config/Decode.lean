import RequestDispatch.Data.Value
import RequestDispatch.Number.Literal

/-!
# Typed data from values

A decoder accepts the values of one shape. A record is an object, in which unknown fields do not
count, or a list of its first fields; the fields left out have defaults.
-/
namespace RequestDispatch

abbrev Decoder (α : Type) := Value → Option α

namespace Decoder

def value : Decoder Value := some

def bool : Decoder Bool
  | .bool b => some b
  | _ => none

def text : Decoder String
  | .text s => some s
  | _ => none

def intBetween (low high : Int) : Decoder Int
  | .int n => if low ≤ n && n ≤ high then some n else none
  | _ => none

def int64 : Decoder Int :=
  intBetween Literal.minInt64 Literal.maxInt64

def word (bits : Nat) : Decoder Nat :=
  fun v => (intBetween 0 (Nat.pow 2 bits - 1 : Nat) v).map Int.toNat

/-- An integer is taken for the nearest float. -/
def float : Decoder Binary64
  | .float x => some x
  | .int n => some (Binary64.ofInt n)
  | _ => none

def optional {α : Type} (decode : Decoder α) : Decoder (Option α)
  | .null => some none
  | v => (decode v).map some

def list {α : Type} (decode : Decoder α) : Decoder (List α)
  | .list items => items.mapM decode
  | _ => none

def table {α : Type} (decode : Decoder α) : Decoder (List (String × α))
  | .object fields => fields.mapM fun (key, v) => (decode v).map (key, ·)
  | _ => none

/-- One of the given words, by itself or as the only field of an object, with nothing in it. -/
def choice {α : Type} (options : List (String × α)) : Decoder α
  | .text word | .object [(word, .null)] => Value.field? options word
  | _ => none

def fields (names : List String) : Decoder (List (String × Value))
  | .object given => some given
  | .list items => if items.length ≤ names.length then some (names.zip items) else none
  | _ => none

def fieldOr {α : Type} (given : List (String × Value)) (name : String) (decode : Decoder α)
    (default : α) : Option α :=
  match Value.field? given name with
  | none => some default
  | some v => decode v

end Decoder

end RequestDispatch
