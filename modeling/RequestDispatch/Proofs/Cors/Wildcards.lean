import RequestDispatch.Cors.Origin

/-! # Origins that a pattern stands for

A pattern stands for the texts that come of writing some text for each of its stars. The matcher
never goes back: it takes the leftmost occurrence of every part between two stars, and the last
part at the end. It misses nothing by that, since a text with a longer run in front can be covered
whenever the shorter one can. -/
namespace RequestDispatch

/-- The pattern with its stars replaced, the first one by the first run. -/
def withRuns : (pattern : List Char) → (runs : List (List Char)) → List Char
  | [], _ => []
  | c :: pattern, runs =>
    if c = '*' then runs.headD [] ++ withRuns pattern runs.tail else c :: withRuns pattern runs

/-- The parts stand in the text in order, each behind some run, and the last one at the end. -/
inductive Covers : (parts : List (List Char)) → List Char → Prop where
  | nil : Covers [] []
  | cons (run part : List Char) {parts rest} : Covers parts rest →
      Covers (part :: parts) (run ++ (part ++ rest))

/-! ### The leftmost occurrence -/

section Leftmost

variable {part s rest : List Char}

theorem eq_of_afterFirst? (h : Text.afterFirst? part s = some rest) :
    ∃ run, s = run ++ (part ++ rest) := by
  induction s with
  | nil =>
    have hs := Text.after?_eq_some_iff.1 h
    exact ⟨[], hs⟩
  | cons c s ih =>
    rw [Text.afterFirst?] at h
    split at h
    · next rest' hhere =>
      cases h
      have hs := Text.after?_eq_some_iff.1 hhere
      exact ⟨[], hs⟩
    · obtain ⟨run, rfl⟩ := ih h
      exact ⟨c :: run, rfl⟩

/-- What follows an occurrence also ends what follows the leftmost one. -/
theorem afterFirst?_append (run part rest : List Char) :
    ∃ more, Text.afterFirst? part (run ++ (part ++ rest)) = some (more ++ rest) := by
  induction run with
  | nil =>
    have hhere : Text.after? part (part ++ rest) = some rest := Text.after?_eq_some_iff.2 rfl
    refine ⟨[], ?_⟩
    cases hs : part ++ rest with
    | nil =>
      obtain ⟨rfl, rfl⟩ := List.append_eq_nil_iff.1 hs
      rfl
    | cons c s =>
      rw [hs] at hhere
      rw [List.nil_append, Text.afterFirst?, hhere]
      rfl
  | cons c run ih =>
    rw [List.cons_append, Text.afterFirst?]
    split
    · next rest' hhere =>
      -- an occurrence that begins further left leaves more of the text
      have hs := Text.after?_eq_some_iff.1 hhere
      have hsuffix : rest <:+ part ++ rest' := by
        rw [← hs]
        exact ⟨c :: (run ++ part), by simp⟩
      have hlength : rest.length ≤ rest'.length := by
        have hcount := congrArg List.length hs
        simp only [List.length_cons, List.length_append] at hcount
        omega
      obtain ⟨more, hmore⟩ := List.suffix_of_suffix_length_le hsuffix
        (List.suffix_append part rest') hlength
      exact ⟨more, by rw [hmore]⟩
    · exact ih

end Leftmost

/-! ### Covering a text -/

namespace Covers

variable {part : List Char} {parts : List (List Char)} {s : List Char}

theorem nil_iff : Covers [] s ↔ s = [] := by
  constructor
  · rintro ⟨⟩
    rfl
  · rintro rfl
    exact .nil

theorem cons_iff : Covers (part :: parts) s ↔
    ∃ run rest, s = run ++ (part ++ rest) ∧ Covers parts rest := by
  constructor
  · intro h
    cases h with
    | cons run _ h => exact ⟨run, _, rfl, h⟩
  · rintro ⟨run, rest, rfl, h⟩
    exact .cons run part h

theorem last_iff : Covers [part] s ↔ part <:+ s := by
  rw [cons_iff]
  constructor
  · rintro ⟨run, rest, rfl, h⟩
    obtain rfl := nil_iff.1 h
    exact ⟨run, by simp⟩
  · rintro ⟨run, rfl⟩
    exact ⟨run, [], by simp, .nil⟩

theorem append (more : List Char) (hparts : parts ≠ []) (h : Covers parts s) :
    Covers parts (more ++ s) := by
  cases h with
  | nil => exact absurd rfl hparts
  | cons run part h =>
    rw [← List.append_assoc]
    exact .cons (more ++ run) part h

theorem iff_runs : Covers parts s ↔ ∃ runs : List (List Char), runs.length = parts.length ∧
    s = (List.zipWith (· ++ ·) runs parts).flatten := by
  constructor
  · intro h
    induction h with
    | nil => exact ⟨[], rfl, rfl⟩
    | cons run part _ ih =>
      obtain ⟨runs, hlength, rfl⟩ := ih
      exact ⟨run :: runs, congrArg (· + 1) hlength, by simp⟩
  · rintro ⟨runs, hlength, rfl⟩
    induction parts generalizing runs with
    | nil => simpa using Covers.nil
    | cons part parts ih =>
      obtain ⟨run, runs, rfl⟩ := List.exists_cons_of_length_eq_add_one hlength
      rw [List.zipWith_cons_cons, List.flatten_cons, List.append_assoc]
      exact .cons run part (ih runs (Nat.succ.inj hlength))

end Covers

/-- Taking the leftmost occurrence of every part finds a cover if there is one. -/
theorem partsMatch_iff_covers {parts : List (List Char)} {s : List Char} :
    partsMatch s parts = true ↔ Covers parts s := by
  induction parts generalizing s with
  | nil => rw [partsMatch, Covers.nil_iff, decide_eq_true_iff]
  | cons part parts ih =>
    cases parts with
    | nil => rw [partsMatch, Covers.last_iff, Text.endsWith_iff]
    | cons next parts =>
      rw [partsMatch, Covers.cons_iff]
      · constructor
        · intro h
          split at h
          · next rest hfirst =>
            obtain ⟨run, hs⟩ := eq_of_afterFirst? hfirst
            exact ⟨run, rest, hs, ih.1 h⟩
          · cases h
        · rintro ⟨run, rest, rfl, h⟩
          obtain ⟨more, hfirst⟩ := afterFirst?_append run part rest
          rw [hfirst]
          exact ih.2 (h.append more (List.cons_ne_nil next parts))
      · exact fun h => nomatch h

/-! ### Patterns -/

theorem split_withRuns (pattern : List Char) :
    ∃ front parts, Text.split '*' pattern = front :: parts ∧
      parts.length = pattern.count '*' ∧
      ∀ runs : List (List Char), runs.length = parts.length →
        withRuns pattern runs = front ++ (List.zipWith (· ++ ·) runs parts).flatten := by
  induction pattern with
  | nil => exact ⟨[], [], rfl, rfl, by simp [withRuns]⟩
  | cons c pattern ih =>
    obtain ⟨front, parts, hsplit, hcount, hruns⟩ := ih
    rw [Text.split, hsplit]
    by_cases hc : c = '*'
    · subst hc
      refine ⟨[], front :: parts, if_pos rfl, by simp [hcount], ?_⟩
      intro runs hlength
      obtain ⟨run, runs, rfl⟩ := List.exists_cons_of_length_eq_add_one hlength
      simp [withRuns, hruns runs (Nat.succ.inj hlength)]
    · refine ⟨c :: front, parts, if_neg hc, by simp [hcount, hc], ?_⟩
      intro runs hlength
      simp [withRuns, hc, hruns runs hlength]

/-- A pattern accepts exactly the texts that it stands for. -/
theorem wildcardMatch_iff_withRuns (pattern value : String) :
    wildcardMatch pattern value = true ↔
      ∃ runs : List (List Char), runs.length = pattern.toList.count '*' ∧
        value.toList = withRuns pattern.toList runs := by
  obtain ⟨front, parts, hsplit, hcount, hruns⟩ := split_withRuns pattern.toList
  have hcovers : wildcardMatch pattern value = true ↔
      ∃ rest, value.toList = front ++ rest ∧ Covers parts rest := by
    rw [wildcardMatch, hsplit]
    dsimp only
    constructor
    · intro h
      split at h
      · next rest hfront =>
        exact ⟨rest, Text.after?_eq_some_iff.1 hfront, partsMatch_iff_covers.1 h⟩
      · cases h
    · rintro ⟨rest, hvalue, h⟩
      rw [Text.after?_eq_some_iff.2 hvalue]
      exact partsMatch_iff_covers.2 h
  rw [hcovers, ← hcount]
  constructor
  · rintro ⟨rest, hvalue, h⟩
    obtain ⟨runs, hlength, rfl⟩ := Covers.iff_runs.1 h
    exact ⟨runs, hlength, hvalue.trans (hruns runs hlength).symm⟩
  · rintro ⟨runs, hlength, hvalue⟩
    exact ⟨_, hvalue.trans (hruns runs hlength), Covers.iff_runs.2 ⟨runs, hlength, rfl⟩⟩

/-- Front and end may not overlap, and of two places for a part the first will do. -/
example : wildcardMatch "https://a*a.test" "https://a.test" = false ∧
    wildcardMatch "*.a.*.test" "https://x.a.b.a.c.test" = true := by decide +kernel

end RequestDispatch
