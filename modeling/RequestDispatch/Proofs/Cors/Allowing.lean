import RequestDispatch.Proofs.Cors.Enforcement
import RequestDispatch.Proofs.Text.Recasing

/-! # Allowing a value

What is allowed stays allowed when another value is. An origin is accepted from then on as it was
given. A method and a header are kept in upper and lower case, and compared ignoring the case of
ASCII letters only. So they are accepted as they were given exactly if their characters beyond ASCII
are in that case already. -/
namespace RequestDispatch

theorem withoutEndSlashes_ne_empty_iff {origin : String} :
    withoutEndSlashes origin ≠ "" ↔ ∃ ch ∈ origin.toList, ch ≠ '/' := by
  constructor
  · intro hne
    by_contra hnamed
    have hdrop : origin.toList.reverse.dropWhile (· = '/') = [] := by
      refine List.dropWhile_eq_nil_iff.2 fun ch hch => decide_eq_true ?_
      by_contra hother
      exact hnamed ⟨ch, List.mem_reverse.1 hch, hother⟩
    refine hne ?_
    rw [withoutEndSlashes, Text.dropEndWhile, hdrop]
    rfl
  · exact withoutEndSlashes_ne_empty

namespace CorsConfig

/-! ### One more value -/

variable {allowed : List String} {value v : String}

theorem accepts_addNew_iff :
    accepts (addNew allowed value) v = true ↔
      accepts allowed v = true ∨ value = anyValue ∨ Text.sameIgnoringAsciiCase value v = true := by
  simp only [accepts, List.any_eq_true, mem_addNew, or_and_right, exists_or, exists_eq_left,
    Bool.or_eq_true, decide_eq_true_eq]

theorem accepts_addNew_of_accepts (h : accepts allowed v = true) (value : String) :
    accepts (addNew allowed value) v = true :=
  accepts_addNew_iff.2 (.inl h)

/-- A value that is added in another case is accepted as it was given if it keeps that case. -/
theorem accepts_addNew_recased_iff {kept : Char → Prop}
    (h : Text.Recased kept v.toList value.toList) :
    accepts (addNew allowed value) v = true ↔
      accepts allowed v = true ∨ ∀ ch ∈ v.toList, kept ch := by
  have hstar : value = anyValue → ∀ ch ∈ v.toList, kept ch := by
    rintro rfl
    exact h.kept_of_star
  rw [accepts_addNew_iff, h.sameIgnoringAsciiCase_iff, or_iff_right_of_imp hstar]

structure Widens (c wider : CorsConfig) : Prop where
  origins : ∀ origin, c.allowsOrigin origin = true → wider.allowsOrigin origin = true
  methods : ∀ method, c.allowsMethod method = true → wider.allowsMethod method = true
  headers : ∀ header, c.allowsHeader header = true → wider.allowsHeader header = true

theorem allowsOrigin_iff {c : CorsConfig} {origin : String} :
    c.allowsOrigin origin = true ↔ (∃ ch ∈ origin.toList, ch ≠ '/') ∧
      (accepts c.origins (withoutEndSlashes origin) = true ∨
        c.patterns.any (·.accepts (withoutEndSlashes origin)) = true) := by
  rw [allowsOrigin_eq, Bool.and_eq_true, Bool.or_eq_true, decide_eq_true_iff,
    withoutEndSlashes_ne_empty_iff]

variable (c : CorsConfig) (s : String)

theorem widens_allowOrigin : c.Widens (c.allowOrigin s) where
  origins origin h := by
    obtain ⟨hnamed, h⟩ := allowsOrigin_iff.1 h
    refine allowsOrigin_iff.2 ⟨hnamed, h.imp_left fun haccepts => ?_⟩
    exact accepts_addNew_of_accepts haccepts _
  methods _ h := h
  headers _ h := h

theorem widens_allowMethod : c.Widens (c.allowMethod s) where
  origins _ h := h
  methods _ h := accepts_addNew_of_accepts h _
  headers _ h := h

theorem widens_allowHeader : c.Widens (c.allowHeader s) where
  origins _ h := h
  methods _ h := h
  headers _ h := accepts_addNew_of_accepts h _

/-! ### The value itself -/

theorem allowOrigin_allowsOrigin_iff :
    (c.allowOrigin s).allowsOrigin s = true ↔ ∃ ch ∈ s.toList, ch ≠ '/' := by
  rw [allowsOrigin_iff, and_iff_left_iff_imp]
  intro _
  exact .inl (accepts_addNew_iff.2 (.inr (.inr (decide_eq_true rfl))))

theorem allowMethod_allowsMethod_iff :
    (c.allowMethod s).allowsMethod s = true ↔
      c.allowsMethod s = true ∨ ∀ ch ∈ s.toList, Text.KeptBy Text.upperChar ch :=
  accepts_addNew_recased_iff (Text.recased_toUpper s)

theorem allowHeader_allowsHeader_iff :
    (c.allowHeader s).allowsHeader s = true ↔
      c.allowsHeader s = true ∨ ∀ ch ∈ s.toList, Text.KeptBy Text.lowerChar ch :=
  accepts_addNew_recased_iff (Text.recased_toLower s)

/-- Allowing a value takes nothing away. The value is accepted as it was given, unless it is an
origin of slashes only, or else a method or header that was not accepted so far and has a character
beyond ASCII with another upper or lower case. -/
theorem allowed_value_accepted_iff :
    ((c.allowMethod s).allowsMethod s = true ↔
      c.allowsMethod s = true ∨ ∀ ch ∈ s.toList, Text.KeptBy Text.upperChar ch) ∧
    ((c.allowHeader s).allowsHeader s = true ↔
      c.allowsHeader s = true ∨ ∀ ch ∈ s.toList, Text.KeptBy Text.lowerChar ch) ∧
    ((c.allowOrigin s).allowsOrigin s = true ↔ ∃ ch ∈ s.toList, ch ≠ '/') ∧
    c.Widens (c.allowMethod s) ∧ c.Widens (c.allowHeader s) ∧ c.Widens (c.allowOrigin s) :=
  ⟨c.allowMethod_allowsMethod_iff s, c.allowHeader_allowsHeader_iff s,
    c.allowOrigin_allowsOrigin_iff s, c.widens_allowMethod s, c.widens_allowHeader s,
    c.widens_allowOrigin s⟩

/-- An umlaut in the other case than the one that is kept. -/
theorem umlaut_names_refused :
    (strict.allowMethod "pr\u00fcfen").allowsMethod "pr\u00fcfen" = false ∧
      (strict.allowHeader "X-\u00dcbersicht").allowsHeader "X-\u00dcbersicht" = false := by
  decide +kernel

end CorsConfig

end RequestDispatch
