import RequestDispatch.Config.Settings

/-!
# Stores of configuration

A store holds one value under each key, in the order of the keys. The settings of a handler mapping
are read from the table under one key, over which a few keys of the store itself take precedence.
-/
namespace RequestDispatch

abbrev Store := List (String × Value)

namespace Store

def putAll (s : Store) (entries : List (String × Value)) : Store :=
  entries.foldl (fun s e => Value.putField s e.1 e.2) s

def find? (s : Store) (key : String) : Option Value :=
  Value.field? s key

theorem find?_putAll (s : Store) (entries : List (String × Value)) (key : String) :
    (s.putAll entries).find? key = ((entries.reverse.find? fun e => e.1 = key).map (·.2)).or
      (s.find? key) := by
  induction entries generalizing s with
  | nil => rfl
  | cons e rest ih =>
    have step : s.putAll (e :: rest) = putAll (Value.putField s e.1 e.2) rest := rfl
    rw [step, ih, List.reverse_cons, List.find?_append]
    cases rest.reverse.find? fun e => e.1 = key with
    | some found => rfl
    | none =>
      by_cases h : e.1 = key
      · subst h
        simp [Store.find?, Value.field?_putField_self]
      · simp [Store.find?, h, Value.field?_putField_of_ne s e.2 (Ne.symm h)]

def contains (s : Store) (key : String) : Bool :=
  (s.find? key).isSome

def keys (s : Store) : List String :=
  s.map (·.1)

def get {α : Type} (s : Store) (decode : Decoder α) (key : String) : Except ConfigError α :=
  match s.find? key with
  | none => .error (.keyNotFound key)
  | some v =>
    match decode v with
    | none => .error .wrongType
    | some a => .ok a

def getOr {α : Type} (s : Store) (decode : Decoder α) (key : String) (default : α) : α :=
  match s.get decode key with
  | .ok a => a
  | .error _ => default

def checked {α : Type} (decode : Decoder α) (validate : α → Rule.Checked) (v : Value) :
    Except ConfigError α :=
  match decode v with
  | none => .error .wrongType
  | some a => (validate a).map fun _ => a

def validated {α : Type} (s : Store) (decode : Decoder α) (validate : α → Rule.Checked) :
    Except ConfigError α :=
  checked decode validate (.object s)

/-! ### Mapping settings -/

def sectionKey : String := "mapping"

/-- The keys of the store that take precedence over the fields of the same name. -/
def overrideKeys : List String :=
  ["detect_in_ancestor_contexts", "url_decode", "naming", "log_level"]

def overrides (s : Store) : List (String × Value) :=
  overrideKeys.filterMap fun key => (s.find? key).map (key, ·)

/-- The table that the mapping settings are decoded from. -/
def settingsTable (s : Store) : Except ConfigError Store :=
  match s.find? sectionKey with
  | none => .ok (putAll [] s.overrides)
  | some (.object fields) => .ok (putAll fields s.overrides)
  | some v => .error (.invalid (.sectionNotTable sectionKey v))

def mappingSettings (s : Store) : Except ConfigError MappingSettings := do
  let table ← s.settingsTable
  checked MappingSettings.decode? MappingSettings.validate (.object table)

end Store

end RequestDispatch
