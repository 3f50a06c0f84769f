import RequestDispatch.Path.Match
import RequestDispatch.Path.Rank
import RequestDispatch.Proofs.Ranked

/-! # Specificity of path patterns

The order of patterns is lexicographic over numbers and truth values, so it is total and
transitive; patterns that count alike are tied. A literal matches itself, and no other pattern
ranks beside the one that is the path. -/
namespace RequestDispatch.Path

open Std (TransCmp)

instance compareRanks_trans : TransCmp compareRanks :=
  inferInstanceAs (TransCmp (compareLex (compareOn fun r : Rank => decide (0 < r.anyRuns))
    (compareLex (compareOn Rank.wildcards) (compareLex (fun a b => compareOn Rank.length b a)
      (compareLex (compareOn Rank.runs) (compareOn Rank.captures))))))

instance comparePatterns_trans (path : String) : TransCmp (comparePatterns path) :=
  have := Ranked.comap_trans Rank.ofPattern compareRanks
  inferInstanceAs (TransCmp (compareLex (compareOn fun p => decide (p ≠ path))
    (compareLex (compareOn isCatchAll)
      fun a b => compareRanks (Rank.ofPattern a) (Rank.ofPattern b))))

/-- The pattern that is the path comes before all others. -/
theorem comparePatterns_path {path other : String} (h : other ≠ path) :
    comparePatterns path path other = .lt := by
  simp only [comparePatterns, ne_eq, not_true_eq_false, decide_false, h, not_false_eq_true,
    decide_true]
  rfl

theorem eq_path_of_comparePatterns_isLE {path p : String}
    (h : (comparePatterns path p path).isLE) : p = path := by
  refine Decidable.byContradiction fun hne => ?_
  have hlt : comparePatterns path p path = .gt :=
    Std.OrientedCmp.gt_of_lt (comparePatterns_path hne)
  rw [hlt] at h
  cases h

theorem comparePatterns_catchAll_ne_lt {path : String} (h : path ≠ "/**") (p : String) :
    comparePatterns path "/**" p ≠ .lt := by
  by_cases hp : p = path
  · subst hp
    rw [Std.OrientedCmp.gt_of_lt (comparePatterns_path h.symm)]
    decide
  · by_cases hall : isCatchAll p = true
    · -- both spellings of the catch-all have the same counts
      have hranks : ∀ q ∈ ["/**", "**"], Rank.ofPattern q = Rank.ofPattern "/**" := by
        decide +kernel
      have hmem : p ∈ ["/**", "**"] := by simpa [isCatchAll] using hall
      have htie : comparePatterns path "/**" p = .eq := by
        rw [comparePatterns, hranks p hmem, hall]
        simp [hp, h.symm, isCatchAll, Std.ReflCmp.compare_self]
      simp [htie]
    · have hlast : comparePatterns path "/**" p = .gt := by
        simp only [comparePatterns, ne_eq, h.symm, hp, Bool.eq_false_iff.2 hall,
          not_false_eq_true, decide_true]
        rfl
      simp [hlast]

theorem align?_literals (vars : Bindings) (values : List String) :
    align? vars (values.map .literal) values = some vars := by
  induction values with
  | nil => simp [align?]
  | cons value values ih => simpa [align?, Segment.bind?, Assoc.putAll] using ih

theorem ofText_eq_literal {s text : String} (h : Segment.ofText s = .literal text) : text = s := by
  unfold Segment.ofText at h
  split at h
  · cases h
  · split at h
    · cases h
    · split at h
      · cases h
      · cases h
        rfl

/-- A path of literals, read as a pattern, matches itself. -/
theorem isMatch_self {path : String} (h : isPattern path = false) : isMatch path path = true := by
  have hliteral : (segments path).map Segment.ofText = (segments path).map .literal := by
    refine List.map_congr_left fun s hs => ?_
    have hs := List.any_eq_false.1 h s hs
    split at hs
    · next text ht => rw [ht, ofText_eq_literal ht]
    · exact absurd rfl hs
  simp [isMatch, bindings?, hliteral, align?_literals]

end RequestDispatch.Path
