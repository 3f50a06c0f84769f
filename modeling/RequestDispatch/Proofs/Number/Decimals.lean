import Mathlib.Data.List.Basic
import Mathlib.Data.List.TakeWhile
import Mathlib.Tactic.IntervalCases
import RequestDispatch.Number.Literal

/-! # Decimal integers as literals

The decimal text of an integer is read back to that integer, and as a fraction to the nearest
double, which is finite for every integer of 64 bits. -/
namespace RequestDispatch

/-! ### Decimal digits -/

section Digits

variable (m : Nat)

theorem isDigit_of_mem_digits {c : Char} (h : c ∈ Nat.toDigits 10 m) : c.isDigit = true :=
  Nat.isDigit_of_mem_toDigits (by decide) (by decide) h

theorem exists_cons_digits : ∃ c cs, Nat.toDigits 10 m = c :: cs ∧ c.isDigit = true := by
  have hne : Nat.toDigits 10 m ≠ [] := Nat.toDigits_ne_nil
  obtain ⟨c, cs, hdigits⟩ := List.exists_cons_of_ne_nil hne
  exact ⟨c, cs, hdigits, isDigit_of_mem_digits m (hdigits ▸ List.mem_cons_self)⟩

theorem digits_ne {word : List Char} {c : Char} (hmem : c ∈ word) (hc : c.isDigit = false) :
    Nat.toDigits 10 m ≠ word := by
  rintro rfl
  rw [isDigit_of_mem_digits m hmem] at hc
  cases hc

theorem ne_of_isDigit {c d : Char} (hc : c.isDigit = true) (hd : d.isDigit = false) : c ≠ d := by
  rintro rfl
  rw [hc] at hd
  cases hd

theorem toLower_of_isDigit {c : Char} (hc : c.isDigit = true) : c.toLower = c := by
  simp only [Char.isDigit, Bool.and_eq_true, decide_eq_true_eq] at hc
  have hletter : ¬(c.val ≥ 'A'.val ∧ c.val ≤ 'Z'.val) :=
    fun h => absurd (UInt32.le_trans h.1 hc.2) (by decide)
  exact dif_neg hletter

theorem digitChar_ne_zero {d : Nat} (hpos : 0 < d) (hlt : d < 10) : d.digitChar ≠ '0' := by
  interval_cases d <;> decide

theorem head?_digits_ne_zero {m : Nat} (hpos : 0 < m) :
    (Nat.toDigits 10 m).head? ≠ some '0' := by
  induction m using Nat.strong_induction_on with
  | _ m ih =>
    by_cases hlt : m < 10
    · rw [Nat.toDigits_of_lt_base hlt, List.head?_cons]
      exact fun h => digitChar_ne_zero hpos hlt (Option.some.inj h)
    · -- The first digit stays when the last one is dropped.
      rw [Nat.toDigits_of_base_le (by decide) (by omega),
        List.head?_append_of_ne_nil _ Nat.toDigits_ne_nil]
      exact ih (m / 10) (by omega) (by omega)

theorem Literal.digitsValue_digits : Literal.digitsValue (Nat.toDigits 10 m) = m :=
  Nat.ofDigitChars_toDigits (by decide) (by decide)

theorem toList_toString (n : Int) :
    (toString n).toList =
      if n < 0 then '-' :: Nat.toDigits 10 n.natAbs else Nat.toDigits 10 n.natAbs := by
  rw [Int.toString_eq_repr, Int.repr_eq_if]
  by_cases hn : n < 0
  · rw [if_neg (by omega), if_pos hn, String.toList_append, Nat.toList_repr,
      show (-n).toNat = n.natAbs by omega]
    rfl
  · rw [if_pos (by omega), if_neg hn, Nat.toList_repr, show n.toNat = n.natAbs by omega]

end Digits

/-! ### The nearest double -/

namespace Binary64

theorem isFinite_ofMagnitudeBits {negative : Bool} {magnitude : Nat}
    (h : magnitude < infinityBits) : (ofMagnitudeBits negative magnitude).isFinite = true := by
  have hsmall : magnitude < 0x8000000000000000 := Nat.lt_trans h (by decide)
  have hbits : (ofMagnitudeBits negative magnitude).magnitudeBits = magnitude := by
    simp only [magnitudeBits, ofMagnitudeBits, UInt64.toNat_ofNat', signBit]
    split <;> omega
  rw [isFinite, hbits]
  exact decide_eq_true h

theorem roundQuotient_le (num den : Nat) : roundQuotient num den ≤ num / den + 1 := by
  simp only [roundQuotient]
  split
  · omega
  · split
    · exact Nat.le_refl _
    · split <;> omega

theorem floorLog2_one {m : Nat} (hm : m ≠ 0) : floorLog2 m 1 = m.log2 := by
  have hscaled : scaled m 1 m.log2 = (m, 2 ^ m.log2) := by
    simp [scaled]
  have hlog : ((m.log2 : Int) - (1 : Nat).log2) = m.log2 := Int.sub_zero _
  simp only [floorLog2, hlog, hscaled, if_pos (Nat.log2_self_le hm)]

/-- Scaled by its own power of two an integer has at most 53 bits. -/
theorem scaled_quotient_lt (m : Nat) :
    (scaled m 1 (m.log2 - 52)).1 / (scaled m 1 (m.log2 - 52)).2 < 2 ^ 53 := by
  have hm : m < 2 ^ (m.log2 + 1) := Nat.lt_log2_self
  by_cases hlarge : 52 ≤ m.log2
  · obtain ⟨k, hk⟩ := Nat.exists_eq_add_of_le hlarge
    have hq : ((m.log2 : Int) - 52) = k := by omega
    rw [hk, show 52 + k + 1 = 53 + k by omega, Nat.pow_add] at hm
    simp only [scaled, hq, Int.natCast_nonneg, if_true, Int.toNat_natCast, Nat.one_mul]
    exact (Nat.div_lt_iff_lt_mul (Nat.two_pow_pos k)).2 hm
  · obtain ⟨k, hk⟩ : ∃ k, m.log2 + k + 1 = 52 := ⟨51 - m.log2, by omega⟩
    have hq : ((m.log2 : Int) - 52) = -((k + 1 : Nat) : Int) := by omega
    have hneg : ¬(0 : Int) ≤ -((k + 1 : Nat) : Int) := by omega
    simp only [scaled, hq, if_neg hneg, Int.neg_neg, Int.toNat_natCast, Nat.div_one]
    calc m * 2 ^ (k + 1) < 2 ^ (m.log2 + 1) * 2 ^ (k + 1) :=
          Nat.mul_lt_mul_of_pos_right hm (Nat.two_pow_pos _)
      _ = 2 ^ 53 := by rw [← Nat.pow_add, show m.log2 + 1 + (k + 1) = 53 by omega]

theorem isFinite_ofInt {n : Int} (h : n.natAbs < 2 ^ 64) : (ofInt n).isFinite = true := by
  rw [ofInt, ofRatio]
  by_cases hzero : n.natAbs = 0
  · rw [if_pos hzero]
    exact isFinite_ofMagnitudeBits (by decide)
  · have hlog : n.natAbs.log2 < 64 := (Nat.log2_lt hzero).2 h
    have hq : max ((n.natAbs.log2 : Int) - 52) (-1074) = n.natAbs.log2 - 52 :=
      Int.max_eq_left (by omega)
    simp only [if_neg hzero, floorLog2_one hzero, hq]
    apply isFinite_ofMagnitudeBits
    -- The power of two is at most 11, and what is rounded is at most 2^53 afterwards.
    have hround := roundQuotient_le (scaled n.natAbs 1 (n.natAbs.log2 - 52)).1
      (scaled n.natAbs 1 (n.natAbs.log2 - 52)).2
    have hquotient := scaled_quotient_lt n.natAbs
    have hpower : ((n.natAbs.log2 : Int) - 52 + 1074).toNat ≤ 1085 := by omega
    have hfield : ((n.natAbs.log2 : Int) - 52 + 1074).toNat * leadingBit ≤ 1085 * leadingBit :=
      Nat.mul_le_mul_right _ hpower
    have hbits : infinityBits = 2047 * leadingBit ∧ 2 ^ 53 = 2 * leadingBit ∧ 1 < leadingBit := by
      decide
    exact Nat.lt_of_le_of_lt (Nat.min_le_left _ _) (by omega)

theorem ofDecimal_integer {negative : Bool} {m : Nat} (h : decimalLength m ≤ 310) :
    ofDecimal negative m 0 = ofRatio negative m 1 := by
  rw [ofDecimal]
  by_cases hzero : m = 0
  · rw [if_pos hzero, ofRatio, if_pos hzero]
  · rw [if_neg hzero, if_neg (by omega), if_neg (by omega), if_pos (Int.le_refl 0)]
    exact congrArg (ofRatio negative · 1) (Nat.mul_one m)

end Binary64

/-! ### Reading decimal text -/

namespace Literal

theorem sign_of_isDigit {c : Char} (hc : c.isDigit = true) (cs : List Char) :
    sign (c :: cs) = (false, c :: cs) := by
  have hminus : c ≠ '-' := ne_of_isDigit hc (by decide)
  have hplus : c ≠ '+' := ne_of_isDigit hc (by decide)
  rw [sign]
  · exact fun rest h => hminus (List.cons.inj h).1
  · exact fun rest h => hplus (List.cons.inj h).1

theorem sign_decimal (n : Int) :
    sign (toString n).toList = (decide (n < 0), Nat.toDigits 10 n.natAbs) := by
  rw [toList_toString]
  by_cases hn : n < 0
  · rw [if_pos hn, decide_eq_true hn]
    rfl
  · obtain ⟨c, cs, hdigits, hc⟩ := exists_cons_digits n.natAbs
    rw [if_neg hn, decide_eq_false hn, hdigits, sign_of_isDigit hc]

theorem integer?_decimal (n : Int) : integer? (toString n).toList = some n := by
  have hall : allDigits (Nat.toDigits 10 n.natAbs) = true := by
    simpa [allDigits, Nat.toDigits_ne_nil] using fun c hc => isDigit_of_mem_digits n.natAbs hc
  rw [integer?, sign_decimal]
  simp only [hall, if_true, digitsValue_digits, decide_eq_true_eq]
  split <;> congr 1 <;> omega

theorem int64?_decimal (n : Int) :
    int64? (toString n).toList = if minInt64 ≤ n ∧ n ≤ maxInt64 then some n else none := by
  rw [int64?, integer?_decimal]
  simp [Option.filter]

theorem lowerAscii_digits (m : Nat) :
    lowerAscii (Nat.toDigits 10 m) = Nat.toDigits 10 m :=
  (List.map_congr_left fun _ hc => toLower_of_isDigit (isDigit_of_mem_digits m hc)).trans
    (List.map_id _)

theorem float?_decimal {n : Int} (h : Binary64.decimalLength n.natAbs ≤ 310) :
    float? (toString n).toList = some (Binary64.ofInt n) := by
  have hall : ∀ d ∈ Nat.toDigits 10 n.natAbs, d.isDigit = true :=
    fun d hd => isDigit_of_mem_digits n.natAbs hd
  have htake : (Nat.toDigits 10 n.natAbs).takeWhile Char.isDigit = Nat.toDigits 10 n.natAbs :=
    List.takeWhile_eq_self_iff.2 hall
  have hdrop : (Nat.toDigits 10 n.natAbs).dropWhile Char.isDigit = [] :=
    List.dropWhile_eq_nil_iff.2 hall
  have hinf : Nat.toDigits 10 n.natAbs ≠ "inf".toList :=
    digits_ne n.natAbs (by decide : 'i' ∈ "inf".toList) (by decide)
  have hinfinity : Nat.toDigits 10 n.natAbs ≠ "infinity".toList :=
    digits_ne n.natAbs (by decide : 'i' ∈ "infinity".toList) (by decide)
  have hnan : Nat.toDigits 10 n.natAbs ≠ "nan".toList :=
    digits_ne n.natAbs (by decide : 'n' ∈ "nan".toList) (by decide)
  simp only [float?, sign_decimal, lowerAscii_digits, htake, hdrop, hinf, hinfinity, hnan,
    Nat.toDigits_ne_nil, power?, List.append_nil, List.length_nil, digitsValue_digits,
    Bool.or_self, Bool.false_and, decide_false, Option.map_some, Bool.false_eq_true, if_false]
  exact congrArg some (Binary64.ofDecimal_integer h)

end Literal

end RequestDispatch
