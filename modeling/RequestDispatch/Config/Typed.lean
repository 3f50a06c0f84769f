import RequestDispatch.Data.Value
import RequestDispatch.Number.Literal
import RequestDispatch.Text.Blank

/-!
# Typed values from raw text

Truth values and numbers are recognised whatever blanks surround them. All other text is kept as it
is, blanks included. An integer beyond 64 signed bits is read as a fraction.
-/
namespace RequestDispatch

def typedNumber? (s : List Char) : Option Value :=
  match Literal.int64? s with
  | some n => some (.int n)
  | none => ((Literal.float? s).filter Binary64.isFinite).map .float

def typedValue (raw : String) : Value :=
  let body := Text.trim raw.toList
  if body = "true".toList then .bool true
  else if body = "false".toList then .bool false
  else (typedNumber? body).getD (.text raw)

theorem typedNumber?_ne_text {s : List Char} {t : String} : typedNumber? s ≠ some (.text t) := by
  intro h
  rw [typedNumber?] at h
  split at h
  · cases h
  · obtain ⟨x, -, hx⟩ := Option.map_eq_some_iff.1 h
    cases hx

theorem eq_of_typedValue_eq_text {raw t : String} (h : typedValue raw = .text t) : raw = t := by
  simp only [typedValue] at h
  split at h
  · cases h
  · split at h
    · cases h
    · cases hnumber : typedNumber? (Text.trim raw.toList) with
      | none =>
        rw [hnumber] at h
        exact Value.text.inj h
      | some v =>
        rw [hnumber] at h
        obtain rfl : v = .text t := h
        exact absurd hnumber typedNumber?_ne_text

end RequestDispatch
