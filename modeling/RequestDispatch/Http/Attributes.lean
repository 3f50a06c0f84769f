/-!
# Typed attributes

A store with at most one value per key, where the key determines the type of its value.
-/
namespace RequestDispatch

structure Attributes (κ : Type) (α : κ → Type) where
  entries : List ((k : κ) × α k) := []

namespace Attributes

variable {κ : Type} {α : κ → Type} [DecidableEq κ]

def empty : Attributes κ α := ⟨[]⟩

def find? (key : κ) : List ((k : κ) × α k) → Option (α key)
  | [] => none
  | ⟨k, v⟩ :: rest => if h : k = key then some (h ▸ v) else find? key rest

def get? (s : Attributes κ α) (key : κ) : Option (α key) :=
  find? key s.entries

def contains (s : Attributes κ α) (key : κ) : Bool :=
  (s.get? key).isSome

def erase (s : Attributes κ α) (key : κ) : Attributes κ α :=
  ⟨s.entries.filter fun e => e.1 ≠ key⟩

def insert (s : Attributes κ α) (key : κ) (v : α key) : Attributes κ α :=
  ⟨(s.erase key).entries ++ [⟨key, v⟩]⟩

def size (s : Attributes κ α) : Nat :=
  s.entries.length

theorem find?_append_of_none {key : κ} {m : List ((k : κ) × α k)} (h : find? key m = none)
    (rest : List ((k : κ) × α k)) : find? key (m ++ rest) = find? key rest := by
  induction m with
  | nil => rfl
  | cons e m ih =>
    obtain ⟨k, v⟩ := e
    by_cases hk : k = key
    · simp [find?, hk] at h
    · simp only [find?, hk, dite_false] at h
      simpa [find?, hk] using ih h

theorem get?_erase_self (s : Attributes κ α) (key : κ) : (s.erase key).get? key = none := by
  obtain ⟨m⟩ := s
  simp only [erase, get?]
  induction m with
  | nil => rfl
  | cons e m ih =>
    by_cases h : e.1 = key
    · simpa [h] using ih
    · simpa [h, find?] using ih

theorem get?_insert_self (s : Attributes κ α) (key : κ) (v : α key) :
    (s.insert key v).get? key = some v := by
  have h : find? key (s.erase key).entries = none := s.get?_erase_self key
  simp [insert, get?, find?_append_of_none h, find?]

theorem get?_insert_of_ne (s : Attributes κ α) {key other : κ} (v : α key) (h : other ≠ key) :
    (s.insert key v).get? other = s.get? other := by
  obtain ⟨m⟩ := s
  simp only [insert, erase, get?]
  induction m with
  | nil => simp [find?, Ne.symm h]
  | cons e m ih =>
    obtain ⟨k, w⟩ := e
    by_cases hk : k = key
    · subst hk
      simpa [find?, Ne.symm h] using ih
    · by_cases ho : k = other
      · subst ho
        simp [hk, find?]
      · simpa [hk, find?, ho] using ih

def debugText (s : Attributes κ α) : String :=
  "Extensions \x7b count: " ++ toString s.size ++ " \x7d"

end Attributes

end RequestDispatch
