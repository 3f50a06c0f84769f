import RequestDispatch.Config.Decode
import RequestDispatch.Proofs.Config.Quoting
import RequestDispatch.Proofs.Number.Decimals

/-! # Integers in raw text and in JSON

JSON keeps every integer of 64 bits, signed or not. Raw text keeps the signed ones; the integers
from 2^63 on become the nearest float, which no setting that counts takes. -/
namespace RequestDispatch

open Literal (minInt64 maxInt64 maxWord64)

/-! ### Decimal text among blanks -/

section Blanks

variable {n : Int} {front back : List Char}

theorem not_blank_of_isDigit {c : Char} (hc : c.isDigit = true) : Text.isBlank c = false := by
  have hrange : 48 ≤ c.toNat ∧ c.toNat ≤ 57 := by
    simp only [Char.isDigit, Bool.and_eq_true, decide_eq_true_eq] at hc
    exact hc
  simp only [Text.isBlank, Bool.or_eq_false_iff, Bool.and_eq_false_iff, decide_eq_false_iff_not]
  omega

theorem sign_or_digit {c : Char} (hc : c ∈ (toString n).toList) : c = '-' ∨ c.isDigit = true := by
  rw [toList_toString] at hc
  split at hc
  · exact (List.mem_cons.1 hc).imp_right (isDigit_of_mem_digits n.natAbs)
  · exact .inr (isDigit_of_mem_digits n.natAbs hc)

theorem not_blank_of_mem_decimal {c : Char} (hc : c ∈ (toString n).toList) :
    Text.isBlank c = false := by
  rcases sign_or_digit hc with rfl | hdigit
  · rfl
  · exact not_blank_of_isDigit hdigit

theorem trim_decimal (hfront : ∀ c ∈ front, Text.isBlank c = true)
    (hback : ∀ c ∈ back, Text.isBlank c = true) :
    Text.trim (front ++ (toString n).toList ++ back) = (toString n).toList :=
  trim_eq_iff.2 ⟨front, back, rfl, hfront, hback,
    fun _ hc => not_blank_of_mem_decimal (List.mem_of_mem_head? hc),
    fun _ hc => not_blank_of_mem_decimal (List.mem_of_getLast? hc)⟩

theorem decimal_ne {word : List Char} {c : Char} (hmem : c ∈ word) (hminus : c ≠ '-')
    (hdigit : c.isDigit = false) : (toString n).toList ≠ word := by
  rintro rfl
  rcases sign_or_digit hmem with rfl | h
  · exact hminus rfl
  · rw [hdigit] at h
    cases h

/-- An integer of 64 bits stays one only if it is in the signed range. -/
theorem typedNumber?_decimal (hlow : minInt64 ≤ n) (hhigh : n ≤ maxWord64) :
    typedNumber? (toString n).toList =
      some (if n ≤ maxInt64 then .int n else .float (Binary64.ofInt n)) := by
  have hbits : n.natAbs < 2 ^ 64 := by
    simp only [minInt64, maxWord64] at hlow hhigh
    omega
  have hlength : Binary64.decimalLength n.natAbs ≤ 310 :=
    Nat.le_trans ((Nat.length_toDigits_le_iff (by decide) (by decide)).2
      (Nat.lt_trans hbits (by decide : 2 ^ 64 < 10 ^ 20))) (by decide)
  rw [typedNumber?, Literal.int64?_decimal]
  by_cases hsigned : n ≤ maxInt64
  · rw [if_pos ⟨hlow, hsigned⟩, if_pos hsigned]
  · rw [if_neg fun h => hsigned h.2, if_neg hsigned, Literal.float?_decimal hlength,
      Option.filter_some, if_pos (Binary64.isFinite_ofInt hbits), Option.map_some]

theorem typedValue_decimal (hlow : minInt64 ≤ n) (hhigh : n ≤ maxWord64)
    (hfront : ∀ c ∈ front, Text.isBlank c = true) (hback : ∀ c ∈ back, Text.isBlank c = true) :
    typedValue (String.ofList (front ++ (toString n).toList ++ back)) =
      if n ≤ maxInt64 then .int n else .float (Binary64.ofInt n) := by
  have htrue : (toString n).toList ≠ "true".toList :=
    decimal_ne (by decide : 't' ∈ "true".toList) (by decide) (by decide)
  have hfalse : (toString n).toList ≠ "false".toList :=
    decimal_ne (by decide : 'f' ∈ "false".toList) (by decide) (by decide)
  rw [typedValue, String.toList_ofList, trim_decimal hfront hback, if_neg htrue, if_neg hfalse,
    typedNumber?_decimal hlow hhigh, Option.getD_some]

end Blanks

/-! ### Integers in JSON -/

namespace Json

theorem appendDigits_eq {n : Nat} {digits : List Char}
    (h : Nat.ofDigitChars 10 digits n < UInt64.size) :
    appendDigits n digits = (Nat.ofDigitChars 10 digits n, []) := by
  induction digits generalizing n with
  | nil => rfl
  | cons c digits ih =>
    rw [Nat.ofDigitChars_cons] at h ⊢
    have hgrows : ∀ k, k ≤ Nat.ofDigitChars 10 digits k := by
      intro k
      rw [Nat.ofDigitChars_eq_ofDigitChars_zero]
      exact Nat.le_add_right_of_le (Nat.le_mul_of_pos_left k (Nat.pow_pos (by decide)))
    rw [appendDigits, if_pos (Nat.lt_of_le_of_lt (hgrows _) h), ih h]

theorem appendDigits_digits {m : Nat} (h : m < UInt64.size) :
    appendDigits 0 (Nat.toDigits 10 m) = (m, []) := by
  have hvalue : Nat.ofDigitChars 10 (Nat.toDigits 10 m) 0 = m := Literal.digitsValue_digits m
  rw [appendDigits_eq (hvalue.symm ▸ h), hvalue]

section Numbers

variable {m : Nat} {tail : List Char}

theorem minus_digits (negative : Bool) :
    (match if negative then '-' :: (Nat.toDigits 10 m ++ tail) else Nat.toDigits 10 m ++ tail with
      | '-' :: rest => (true, rest)
      | rest => (false, rest)) = (negative, Nat.toDigits 10 m ++ tail) := by
  cases negative with
  | true => rfl
  | false =>
    obtain ⟨c, cs, hdigits, hc⟩ := exists_cons_digits m
    have hminus : c ≠ '-' := ne_of_isDigit hc (by decide)
    rw [hdigits]
    simp [hminus]

theorem exponent?_of_blank (h : ∀ c ∈ tail.head?, Text.isBlank c = true) :
    exponent? tail = some (none, tail) := by
  cases tail with
  | nil => rfl
  | cons c tail =>
    have hpower : ¬(c = 'e' || c = 'E') = true := by
      intro hc
      rcases (Bool.or_eq_true _ _).mp hc with hc | hc <;>
        · rw [of_decide_eq_true hc] at h
          exact absurd (h _ rfl) (by decide)
    rw [exponent?, if_neg hpower]

/-- Digits are one number as far as a blank, or the end. -/
theorem number?_digits {negative : Bool} (hm : m < UInt64.size)
    (htail : ∀ c ∈ tail.head?, Text.isBlank c = true) :
    number? (if negative then '-' :: (Nat.toDigits 10 m ++ tail) else Nat.toDigits 10 m ++ tail) =
      (integer? negative m).map (·, tail) := by
  have hall : ∀ c ∈ Nat.toDigits 10 m, c.isDigit = true := fun c hc => isDigit_of_mem_digits m hc
  have hstop : ∀ c ∈ tail.head?, c.isDigit = false := fun c hc =>
    Bool.eq_false_iff.2 fun hdigit => absurd (htail c hc) (by simp [not_blank_of_isDigit hdigit])
  have htake : (Nat.toDigits 10 m ++ tail).takeWhile Char.isDigit = Nat.toDigits 10 m := by
    rw [List.takeWhile_append_of_pos hall, takeWhile_of_head? hstop, List.append_nil]
  have hdrop : (Nat.toDigits 10 m ++ tail).dropWhile Char.isDigit = tail := by
    rw [List.dropWhile_append_of_pos hall, dropWhile_of_head? hstop]
  have hlead : ¬((Nat.toDigits 10 m).head? = some '0' ∧ (Nat.toDigits 10 m).length ≠ 1) := by
    rintro ⟨hzero, hlength⟩
    rcases Nat.eq_zero_or_pos m with rfl | hpos
    · exact hlength rfl
    · exact head?_digits_ne_zero hpos hzero
  unfold number?
  split
  rename_i sign body hsign
  obtain ⟨rfl, rfl⟩ := Prod.mk.inj (hsign.symm.trans (minus_digits negative))
  dsimp only
  rw [htake, hdrop, appendDigits_digits hm, if_neg (by simpa [Nat.toDigits_ne_nil] using hlead)]
  split
  · exact absurd (htail '.' rfl) (by decide)
  · rw [exponent?_of_blank htail]
    rfl

theorem number?_decimal {n : Int} (hlow : minInt64 ≤ n) (hhigh : n ≤ maxWord64)
    (htail : ∀ c ∈ tail.head?, Text.isBlank c = true) :
    number? ((toString n).toList ++ tail) = some (.int n, tail) := by
  simp only [minInt64, maxWord64] at hlow hhigh
  have hsize : n.natAbs < UInt64.size := by
    simp only [UInt64.size]
    omega
  have htext : (toString n).toList ++ tail =
      if decide (n < 0) then '-' :: (Nat.toDigits 10 n.natAbs ++ tail)
      else Nat.toDigits 10 n.natAbs ++ tail := by
    rw [toList_toString]
    by_cases hn : n < 0
    · simp [hn]
    · simp [hn]
  rw [htext, number?_digits hsize htail, integer?]
  by_cases hn : n < 0
  · have hrange : 0 < n.natAbs ∧ n.natAbs ≤ 0x8000000000000000 := by omega
    have hvalue : -(n.natAbs : Int) = n := by omega
    rw [decide_eq_true hn, if_neg (by decide), if_pos hrange, hvalue, Option.map_some]
  · have hvalue : (n.natAbs : Int) = n := by omega
    rw [decide_eq_false hn, if_pos (by decide), hvalue, Option.map_some]

theorem number?_eq_none {c : Char} {rest : List Char} (hminus : c ≠ '-')
    (hdigit : c.isDigit = false) : number? (c :: rest) = none := by
  unfold number?
  split
  rename_i negative body hbody
  obtain ⟨rfl, rfl⟩ : false = negative ∧ c :: rest = body := by
    simpa [hminus] using hbody
  simp [hdigit]

end Numbers

section Reading

variable {n : Int} {front back : List Char}

def openings : List Char := ['"', '[', '\x7b', 'n', 't', 'f']

theorem value?_number {depth fuel : Nat} {s rest : List Char} {c : Char}
    (hs : skipSpace s = c :: rest) (hc : c ∉ openings) :
    value? depth (fuel + 1) s = number? (c :: rest) := by
  simp only [openings, List.mem_cons, List.not_mem_nil, or_false, not_or] at hc
  rw [value?, hs]
  split <;> simp_all

theorem openings_plain :
    ∀ c ∈ openings, c ≠ '-' ∧ c.isDigit = false ∧ Text.isBlank c = false := by
  intro c hc
  simp only [openings, List.mem_cons, List.not_mem_nil, or_false] at hc
  rcases hc with rfl | rfl | rfl | rfl | rfl | rfl <;> decide

theorem isBlank_of_isSpace {c : Char} (h : isSpace c = true) : Text.isBlank c = true := by
  simp only [isSpace, Bool.or_eq_true, decide_eq_true_eq] at h
  rcases h with ((rfl | rfl) | rfl) | rfl <;> rfl

theorem blank_begins_nothing {c : Char} (hc : Text.isBlank c = true) :
    c ∉ openings ∧ c ≠ '-' ∧ c.isDigit = false := by
  refine ⟨fun hopening => ?_, ?_, Bool.eq_false_iff.2 fun hdigit => ?_⟩
  · simp [(openings_plain c hopening).2.2] at hc
  · rintro rfl
    exact absurd hc (by decide)
  · simp [not_blank_of_isDigit hdigit] at hc

theorem exists_cons_decimal (n : Int) :
    ∃ c cs, (toString n).toList = c :: cs ∧ isSpace c = false ∧ c ∉ openings := by
  cases htext : (toString n).toList with
  | nil =>
    rw [toList_toString] at htext
    split at htext
    · cases htext
    · exact absurd htext Nat.toDigits_ne_nil
  | cons c cs =>
    have hmem : c ∈ (toString n).toList := htext ▸ List.mem_cons_self
    refine ⟨c, cs, rfl, Bool.eq_false_iff.2 fun hspace => ?_, fun hopening => ?_⟩
    · exact absurd (isBlank_of_isSpace hspace) (by simp [not_blank_of_mem_decimal hmem])
    · obtain ⟨hminus, hdigit, -⟩ := openings_plain c hopening
      exact (sign_or_digit hmem).elim hminus (by simp [hdigit])

/-- The white space of JSON is four characters; the others are no part of a text. -/
theorem read?_decimal (hlow : minInt64 ≤ n) (hhigh : n ≤ maxWord64)
    (hfront : ∀ c ∈ front, Text.isBlank c = true) (hback : ∀ c ∈ back, Text.isBlank c = true) :
    read? (front ++ (toString n).toList ++ back) =
      if (front ++ back).all isSpace then some (.int n) else none := by
  rw [List.append_assoc, read?, List.all_append]
  cases hrest : front.dropWhile isSpace with
  | nil =>
    have hall : ∀ c ∈ front, isSpace c = true := List.dropWhile_eq_nil_iff.1 hrest
    obtain ⟨c, cs, htext, hspace, hopening⟩ := exists_cons_decimal n
    have hskip : skipSpace (front ++ ((toString n).toList ++ back)) = c :: (cs ++ back) := by
      rw [skipSpace, List.dropWhile_append_of_pos hall, htext, List.cons_append,
        List.dropWhile_cons_of_neg (by simp [hspace])]
    have hend : skipSpace back = [] ↔ (front.all isSpace && back.all isSpace) = true := by
      rw [skipSpace, List.dropWhile_eq_nil_iff, Bool.and_eq_true, List.all_eq_true,
        List.all_eq_true, and_iff_right hall]
    rw [value?_number hskip hopening, ← List.cons_append, ← htext,
      number?_decimal hlow hhigh fun c hc => hback c (List.mem_of_mem_head? hc)]
    exact if_congr hend rfl rfl
  | cons c rest =>
    -- A blank that is no space stands where the value should begin.
    have hmem : c ∈ front := (List.dropWhile_sublist isSpace).subset (hrest ▸ List.mem_cons_self)
    have hspace : isSpace c = false := by
      have hhead := List.head?_dropWhile_not isSpace front
      rwa [hrest] at hhead
    have hskip : skipSpace (front ++ ((toString n).toList ++ back)) =
        c :: (rest ++ ((toString n).toList ++ back)) := by
      rw [skipSpace, List.dropWhile_append, hrest]
      rfl
    obtain ⟨hopening, hminus, hdigit⟩ := blank_begins_nothing (hfront c hmem)
    have hall : (front.all isSpace && back.all isSpace) = false :=
      Bool.and_eq_false_imp.2 fun h => absurd (List.all_eq_true.1 h c hmem) (by simp [hspace])
    rw [value?_number hskip hopening, number?_eq_none hminus hdigit, hall]
    rfl

end Reading

end Json

/-! ### The two readings -/

section Readings

variable {n : Int}

theorem Decoder.word_int (hhigh : n ≤ maxWord64) :
    Decoder.word 64 (.int n) = if 0 ≤ n then some n.toNat else none := by
  have hmax : n ≤ ((Nat.pow 2 64 - 1 : Nat) : Int) := hhigh
  by_cases hn : 0 ≤ n
  · rw [if_pos hn, word, intBetween, if_pos (by simpa [hn] using hmax), Option.map_some]
  · rw [if_neg hn, word, intBetween, if_neg (by simp [hn]), Option.map_none]

/-- The decimal text of an integer of 64 bits among white space. As raw text it is the integer if
that is a signed one, and the nearest float otherwise. As JSON it is the integer always, if it is
text of JSON, which has four characters of white space. A setting that is a word takes the integer
and not the float. -/
theorem decimal_readings (n : Int) (front back : List Char) (hlow : minInt64 ≤ n)
    (hhigh : n ≤ maxWord64) (hfront : ∀ c ∈ front, Text.isBlank c = true)
    (hback : ∀ c ∈ back, Text.isBlank c = true) :
    let raw := String.ofList (front ++ (toString n).toList ++ back)
    typedValue raw = (if n ≤ maxInt64 then .int n else .float (Binary64.ofInt n)) ∧
    Json.read? raw.toList = (if (front ++ back).all Json.isSpace then some (.int n) else none) ∧
    Decoder.word 64 (typedValue raw) = (if 0 ≤ n ∧ n ≤ maxInt64 then some n.toNat else none) ∧
    Decoder.word 64 (.int n) = (if 0 ≤ n then some n.toNat else none) := by
  have htyped := typedValue_decimal hlow hhigh hfront hback
  refine ⟨htyped, ?_, ?_, Decoder.word_int hhigh⟩
  · rw [String.toList_ofList]
    exact Json.read?_decimal hlow hhigh hfront hback
  · rw [htyped]
    by_cases hsigned : n ≤ maxInt64
    · simp only [hsigned, if_true, and_true, Decoder.word_int hhigh]
    · rw [if_neg hsigned, if_neg fun h => hsigned h.2]
      rfl

/-- The largest word becomes 2^64, and no word. -/
theorem largest_word_readings :
    typedValue " 18446744073709551615\n" = .float ⟨0x43F0000000000000⟩ ∧
    Json.read? " 18446744073709551615\n".toList = some (.int 18446744073709551615) ∧
    Decoder.word 64 (typedValue " 18446744073709551615\n") = none ∧
    Decoder.word 64 (.int 18446744073709551615) = some 18446744073709551615 :=
  decimal_readings 18446744073709551615 [' '] ['\n'] (by decide) (by decide)
    (List.forall_mem_singleton.2 rfl) (List.forall_mem_singleton.2 rfl)

theorem large_decimal_rounded :
    typedValue "9223372036854775808" = .float ⟨0x43E0000000000000⟩ ∧
    Json.read? "9223372036854775808".toList = some (.int 9223372036854775808) :=
  ⟨rfl, rfl⟩

end Readings

end RequestDispatch
