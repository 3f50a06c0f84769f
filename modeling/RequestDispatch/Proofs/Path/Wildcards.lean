import Mathlib.Data.List.Forall2
import RequestDispatch.Path.Match

/-! # What wildcards and variables take

A segment of literals, wildcards and unconstrained variables matches a value exactly if it is not
too large to be compiled and the value splits along it with no line feed for a wildcard to take. -/
namespace RequestDispatch.Path

/-! ### Splitting a value along the pieces -/

def Piece.takesRun : Piece → Bool
  | .run | .variable _ _ => true
  | _ => false

/-- The text splits along the pieces. Literals stand for themselves, and all that the others take
are characters in `takes`. -/
inductive Splits (takes : Char → Prop) : List Piece → List Char → Prop where
  | nil : Splits takes [] []
  | literal {ps s} (c) : Splits takes ps s → Splits takes (.literal c :: ps) (c :: s)
  | one {ps s c} : takes c → Splits takes ps s → Splits takes (.one :: ps) (c :: s)
  | run {p ps s} (taken : List Char) : p.takesRun = true → (∀ c ∈ taken, takes c) →
      Splits takes ps s → Splits takes (p :: ps) (taken ++ s)

namespace Splits

variable {takes : Char → Prop} {p : Piece} {ps : List Piece} {s : List Char} {c : Char}

theorem mono {more : Char → Prop} (h : Splits takes ps s) (hs : ∀ c ∈ s, takes c → more c) :
    Splits more ps s := by
  induction h with
  | nil => exact .nil
  | literal c _ ih => exact .literal c (ih fun d hd => hs d (List.mem_cons_of_mem c hd))
  | one hc _ ih =>
    exact .one (hs _ List.mem_cons_self hc) (ih fun d hd => hs d (List.mem_cons_of_mem _ hd))
  | run taken hp htaken _ ih =>
    refine .run taken hp (fun d hd => hs d (List.mem_append_left _ hd) (htaken d hd)) (ih ?_)
    exact fun d hd => hs d (List.mem_append_right _ hd)

theorem nil_iff : Splits takes [] s ↔ s = [] := by
  constructor
  · rintro ⟨⟩
    rfl
  · rintro rfl
    exact .nil

theorem literal_cons_iff {l : Char} :
    Splits takes (.literal l :: ps) (c :: s) ↔ c = l ∧ Splits takes ps s := by
  constructor
  · generalize ht : c :: s = t
    intro h
    cases h with
    | literal _ h =>
      obtain ⟨rfl, rfl⟩ := List.cons.inj ht
      exact ⟨rfl, h⟩
    | run _ hp => cases hp
  · rintro ⟨rfl, h⟩
    exact .literal c h

theorem one_cons_iff : Splits takes (.one :: ps) (c :: s) ↔ takes c ∧ Splits takes ps s := by
  constructor
  · generalize ht : c :: s = t
    intro h
    cases h with
    | one hc h =>
      obtain ⟨rfl, rfl⟩ := List.cons.inj ht
      exact ⟨hc, h⟩
    | run _ hp => cases hp
  · rintro ⟨hc, h⟩
    exact .one hc h

theorem run_iff (hp : p.takesRun = true) :
    Splits takes (p :: ps) s ↔
      ∃ taken rest, s = taken ++ rest ∧ (∀ c ∈ taken, takes c) ∧ Splits takes ps rest := by
  constructor
  · intro h
    cases h with
    | literal | one => cases hp
    | run taken _ htaken h => exact ⟨taken, _, rfl, htaken, h⟩
  · rintro ⟨taken, rest, rfl, htaken, h⟩
    exact .run taken hp htaken h

theorem run_cons_iff (hp : p.takesRun = true) :
    Splits takes (p :: ps) (c :: s) ↔
      Splits takes ps (c :: s) ∨ takes c ∧ Splits takes (p :: ps) s := by
  rw [run_iff hp, run_iff hp]
  constructor
  · rintro ⟨_ | ⟨d, taken⟩, rest, hs, htaken, h⟩
    · exact .inl (hs ▸ h)
    · obtain ⟨rfl, rfl⟩ := List.cons.inj hs
      rw [List.forall_mem_cons] at htaken
      exact .inr ⟨htaken.1, taken, rest, rfl, htaken.2, h⟩
  · rintro (h | ⟨hc, taken, rest, rfl, htaken, h⟩)
    · exact ⟨[], c :: s, rfl, by simp, h⟩
    · exact ⟨c :: taken, rest, rfl, List.forall_mem_cons.2 ⟨hc, htaken⟩, h⟩

theorem nil_text_iff : Splits takes (p :: ps) [] ↔ p.takesRun = true ∧ Splits takes ps [] := by
  constructor
  · generalize ht : ([] : List Char) = t
    intro h
    cases h with
    | literal | one => cases ht
    | run taken hp _ h =>
      obtain ⟨-, rfl⟩ := List.append_eq_nil_iff.1 ht.symm
      exact ⟨hp, by simpa [← ht] using h⟩
  · rintro ⟨hp, h⟩
    exact .run [] hp (by simp) h

end Splits

/-! ### The rows of the matcher -/

section rows

variable {p : Piece} {ps : List Piece} {s : List Char} {c : Char}

theorem fits_cons (ps : List Piece) (c : Char) (s : List Char) :
    ∃ here, fits ps (c :: s) = here :: fits ps s := by
  induction ps with
  | nil => exact ⟨false, by simp [fits, List.replicate_succ]⟩
  | cons p ps ih =>
    obtain ⟨here, hrow⟩ := ih
    exact ⟨_, congrArg (p.fitsBefore (c :: s)) hrow⟩

theorem fitsBefore_nil (hp : p.takesRun = true) (row : List Bool) : p.fitsBefore [] row = row := by
  match p, hp with
  | .run, _ | .variable _ _, _ => rfl

theorem fitsBefore_cons (hp : p.takesRun = true) (here : Bool) (row : List Bool) :
    p.fitsBefore (c :: s) (here :: row) =
      (here || (c ≠ '\n' && (p.fitsBefore s row).headD false)) :: p.fitsBefore s row := by
  match p, hp with
  | .run, _ | .variable _ _, _ => rfl

theorem headD_fits_iff : (fits ps s).headD false = true ↔ Splits (· ≠ '\n') ps s := by
  induction ps generalizing s with
  | nil => cases s <;> simp [fits, Splits.nil_iff, List.replicate_succ]
  | cons p ps ihp =>
    -- a run is tried from every place, so the text is taken from its end
    induction s with
    | nil =>
      rw [Splits.nil_text_iff, ← ihp, fits]
      match p with
      | .literal _ | .one => exact iff_of_false Bool.false_ne_true fun h => nomatch h.1
      | .run | .variable _ _ =>
        rw [fitsBefore_nil rfl]
        simp [Piece.takesRun]
    | cons c s ihs =>
      obtain ⟨here, hrow⟩ := fits_cons ps c s
      have hhere : here = true ↔ Splits (· ≠ '\n') ps (c :: s) := by
        rw [← ihp, hrow, List.headD_cons]
      rw [fits] at ihs ⊢
      rw [hrow]
      match p with
      | .literal l =>
        change (decide (c = l) && (fits ps s).headD false) = true ↔ _
        rw [Bool.and_eq_true, decide_eq_true_iff, ihp, Splits.literal_cons_iff]
      | .one =>
        change (decide (c ≠ '\n') && (fits ps s).headD false) = true ↔ _
        rw [Bool.and_eq_true, decide_eq_true_iff, ihp, Splits.one_cons_iff]
      | .run | .variable _ _ =>
        rw [fitsBefore_cons rfl, Splits.run_cons_iff rfl, ← hhere, ← ihs]
        simp

theorem splits_of_longestRun? {run rest : List Char}
    (h : longestRun? s (fits ps s) = some (run, rest)) :
    s = run ++ rest ∧ (∀ c ∈ run, c ≠ '\n') ∧ Splits (· ≠ '\n') ps rest := by
  induction s generalizing run with
  | nil =>
    rw [longestRun?] at h
    split at h
    · next hrow =>
      cases h
      exact ⟨rfl, by simp, headD_fits_iff.1 hrow⟩
    · cases h
  | cons c s ih =>
    obtain ⟨here, hrow⟩ := fits_cons ps c s
    rw [longestRun?, hrow, List.tail_cons, ← hrow] at h
    split at h
    · next longer rest' hlonger =>
      cases h
      split at hlonger
      · cases hlonger
      · next hc =>
        obtain ⟨rfl, hrun, hrest⟩ := ih hlonger
        exact ⟨rfl, List.forall_mem_cons.2 ⟨hc, hrun⟩, hrest⟩
    · split at h
      · next hhere =>
        cases h
        exact ⟨rfl, by simp, headD_fits_iff.1 hhere⟩
      · cases h

theorem longestRun?_isSome (hp : p.takesRun = true) (h : Splits (· ≠ '\n') (p :: ps) s) :
    (longestRun? s (fits ps s)).isSome = true := by
  induction s with
  | nil =>
    rw [Splits.nil_text_iff] at h
    rw [longestRun?, if_pos (headD_fits_iff.2 h.2)]
    rfl
  | cons c s ih =>
    obtain ⟨here, hrow⟩ := fits_cons ps c s
    rw [longestRun?, hrow, List.tail_cons, ← hrow]
    split
    · rfl
    · next hlonger =>
      rcases (Splits.run_cons_iff hp).1 h with h | ⟨hc, h⟩
      · rw [if_pos (headD_fits_iff.2 h)]
        rfl
      · rw [if_neg hc] at hlonger
        simp [hlonger] at ih
        exact absurd h ih

/-- The variables can be filled exactly if the text splits with no line feed taken. -/
theorem fill?_isSome_iff : (fill? ps s).isSome = true ↔ Splits (· ≠ '\n') ps s := by
  induction ps generalizing s with
  | nil => cases s <;> simp [fill?, Splits.nil_iff]
  | cons p ps ih =>
    match p with
    | .literal l =>
      cases s with
      | nil => simp [fill?, Splits.nil_text_iff, Piece.takesRun]
      | cons c s =>
        rw [fill?, Splits.literal_cons_iff, ← ih]
        by_cases hc : c = l
        · rw [if_pos hc, and_iff_right hc]
        · rw [if_neg hc]
          exact iff_of_false Bool.false_ne_true fun h => hc h.1
    | .one =>
      cases s with
      | nil => simp [fill?, Splits.nil_text_iff, Piece.takesRun]
      | cons c s =>
        rw [fill?, Splits.one_cons_iff, ← ih]
        by_cases hc : c ≠ '\n'
        · rw [if_pos hc, and_iff_right hc]
        · rw [if_neg hc]
          exact iff_of_false Bool.false_ne_true fun h => hc h.1
    | .run | .variable _ _ =>
      rw [fill?]
      constructor
      · intro h
        obtain ⟨_, hf⟩ := Option.isSome_iff_exists.1 h
        obtain ⟨⟨run, rest⟩, hlongest, -⟩ := Option.bind_eq_some_iff.1 hf
        obtain ⟨rfl, hrun, hrest⟩ := splits_of_longestRun? hlongest
        exact .run run rfl hrun hrest
      · intro h
        obtain ⟨⟨run, rest⟩, hlongest⟩ :=
          Option.isSome_iff_exists.1 (longestRun?_isSome rfl h)
        rw [hlongest, Option.bind_some]
        simpa using ih.2 (splits_of_longestRun? hlongest).2.2

end rows

/-! ### Reading a segment -/

def Piece.written : Piece → List Char
  | .literal c => [c]
  | .one => ['?']
  | .run => ['*']
  | .variable name none => '\x7b' :: (name.toList ++ ['\x7d'])
  | .variable name (some constraint) =>
    '\x7b' :: (name.toList ++ ':' :: (constraint.toList ++ ['\x7d']))

/-- A literal is no wildcard, and a variable has no constraint and neither braces nor a colon in
its name. -/
def Piece.IsPlain : Piece → Prop
  | .literal c => isWild c = false
  | .one | .run => True
  | .variable name constraint? =>
    constraint? = none ∧ ∀ c ∈ name.toList, c ≠ '\x7b' ∧ c ≠ '\x7d' ∧ c ≠ ':'

instance : DecidablePred Piece.IsPlain
  | .literal c => inferInstanceAs (Decidable (isWild c = false))
  | .one | .run => isTrue trivial
  | .variable name constraint? =>
    let _ := List.decidableBAll (fun c => c ≠ '\x7b' ∧ c ≠ '\x7d' ∧ c ≠ ':') name.toList
    inferInstanceAs (Decidable (constraint? = none ∧
      ∀ c ∈ name.toList, c ≠ '\x7b' ∧ c ≠ '\x7d' ∧ c ≠ ':'))

theorem closing?_append {body : List Char} (h : ∀ c ∈ body, c ≠ '\x7b' ∧ c ≠ '\x7d')
    (rest : List Char) : closing? 1 (body ++ '\x7d' :: rest) = some (body, rest) := by
  induction body with
  | nil => simp [closing?]
  | cons c body ih =>
    obtain ⟨hc, hbody⟩ := List.forall_mem_cons.1 h
    rw [List.cons_append, closing?, if_neg hc.2, if_neg hc.1, ih hbody]
    rfl

theorem pieces?_written_append {p : Piece} (hp : p.IsPlain) (s : List Char) :
    pieces? (p.written ++ s) = (pieces? s).map (p :: ·) := by
  match p, hp with
  | .literal c, hc =>
    simp only [Piece.IsPlain, isWild, Bool.or_eq_false_iff, decide_eq_false_iff_not] at hc
    simp [Piece.written, pieces?, hc]
  | .one, _ | .run, _ => simp [Piece.written, pieces?]
  | .variable name _, ⟨rfl, hname⟩ =>
    have hbody : Piece.ofBody name.toList = .variable name none := by
      have hcolon : Text.splitOnce? ':' name.toList = none :=
        Text.splitOnce?_eq_none_iff.2 fun hmem => (hname ':' hmem).2.2 rfl
      rw [Piece.ofBody, hcolon, String.ofList_toList]
    have hclosing : closing? 1 (name.toList ++ '\x7d' :: s) = some (name.toList, s) :=
      closing?_append (fun c hc => ⟨(hname c hc).1, (hname c hc).2.1⟩) s
    rw [Piece.written, List.cons_append, List.append_assoc, List.singleton_append, pieces?,
      if_pos rfl]
    split
    · next hnone => rw [hclosing] at hnone; cases hnone
    · next body rest hsome =>
      rw [hclosing] at hsome
      cases hsome
      rw [hbody]

theorem pieces?_written {ps : List Piece} (h : ∀ p ∈ ps, p.IsPlain) :
    pieces? (ps.flatMap Piece.written) = some ps := by
  induction ps with
  | nil => simp [pieces?]
  | cons p ps ih =>
    obtain ⟨hp, hps⟩ := List.forall_mem_cons.1 h
    rw [List.flatMap_cons, pieces?_written_append hp, ih hps]
    rfl

/-- The text is a segment with these pieces. It is not `**` and does not begin with a colon, which
have meanings of their own. -/
structure Spells (ps : List Piece) (text : String) : Prop where
  toList_eq : text.toList = ps.flatMap Piece.written
  isPlain : ∀ p ∈ ps, p.IsPlain
  ne_any : text ≠ "**"
  ne_capture : text.toList.head? ≠ some ':'

theorem Piece.IsPlain.isConstrained {p : Piece} (h : p.IsPlain) : p.isConstrained = false := by
  match p, h with
  | .literal _, _ | .one, _ | .run, _ | .variable _ _, ⟨rfl, _⟩ => rfl

theorem Piece.IsPlain.eq_literal {p : Piece} (h : p.IsPlain)
    (hw : p.written.any isWild = false) : ∃ c, p = .literal c := by
  match p, h with
  | .literal c, _ => exact ⟨c, rfl⟩
  | .one, _ | .run, _ | .variable _ _, ⟨rfl, _⟩ => simp [Piece.written, isWild] at hw

theorem splits_of_literals {takes : Char → Prop} {ps : List Piece}
    (h : ∀ p ∈ ps, ∃ c, p = .literal c) {s : List Char} :
    Splits takes ps s ↔ s = ps.flatMap Piece.written := by
  induction ps generalizing s with
  | nil => rw [Splits.nil_iff]; rfl
  | cons p ps ih =>
    obtain ⟨⟨c, rfl⟩, hps⟩ := List.forall_mem_cons.1 h
    cases s with
    | nil => simp [Splits.nil_text_iff, Piece.takesRun, Piece.written]
    | cons d s => simp [Splits.literal_cons_iff, ih hps, Piece.written]

/-- Segments of literals are compared as they are. All others have an expression, which may be too
large. -/
def Compiles (ps : List Piece) : Prop :=
  (∀ p ∈ ps, ∃ c, p = .literal c) ∨ (tree ps).weight ≤ Regex.Node.maxWeight

namespace Spells

variable {ps : List Piece} {text : String}

theorem ofText?_eq (h : Spells ps text) :
    SegmentPattern.ofText? text =
      if (tree ps).weight ≤ Regex.Node.maxWeight then some (.plain ps) else none := by
  have hany : ps.any Piece.isConstrained = false :=
    List.any_eq_false.2 fun p hp => by simp [(h.isPlain p hp).isConstrained]
  rw [SegmentPattern.ofText?, h.toList_eq, pieces?_written h.isPlain]
  simp only [hany, Option.bind_eq_bind, Option.bind_some]
  rfl

theorem ofText_eq (h : Spells ps text) :
    Segment.ofText text = if text.toList.any isWild then .mixed text else .literal text := by
  rw [Segment.ofText, if_neg h.ne_any]
  have hcapture := h.ne_capture
  split
  · next name htext => simp [htext] at hcapture
  · rfl

theorem ofText_ne_any (h : Spells ps text) : Segment.ofText text ≠ .any := by
  rw [h.ofText_eq]
  split <;> simp

theorem any_isWild_iff (h : Spells ps text) :
    text.toList.any isWild = false ↔ ∀ p ∈ ps, ∃ c, p = .literal c := by
  rw [h.toList_eq, List.any_flatMap, List.any_eq_false]
  refine forall₂_congr fun p hp => ?_
  rw [Bool.not_eq_true]
  constructor
  · exact (h.isPlain p hp).eq_literal
  · rintro ⟨c, rfl⟩
    have hc : isWild c = false := h.isPlain _ hp
    simpa [Piece.written] using hc

theorem bind?_isSome_iff (h : Spells ps text) (value : String) :
    ((Segment.ofText text).bind? value).isSome = true ↔
      Compiles ps ∧ Splits (· ≠ '\n') ps value.toList := by
  rw [h.ofText_eq]
  split
  · next hwild =>
    have hliteral : ¬∀ p ∈ ps, ∃ c, p = .literal c := by
      rw [← h.any_isWild_iff, hwild]
      exact Bool.noConfusion
    rw [Segment.bind?, h.ofText?_eq, Compiles, or_iff_right hliteral]
    split
    · next hweight =>
      rw [Option.bind_some, SegmentPattern.bind?, Option.isSome_map, fill?_isSome_iff]
      exact (and_iff_right hweight).symm
    · next hweight =>
      exact iff_of_false Bool.false_ne_true fun hall => hweight hall.1
  · next hwild =>
    have hliteral := h.any_isWild_iff.1 (Bool.not_eq_true _ ▸ hwild)
    rw [splits_of_literals hliteral, ← h.toList_eq, Segment.bind?, String.toList_inj,
      and_iff_right (.inl hliteral)]
    split
    · next heq => simp [heq]
    · next hne => simp [Ne.symm hne]

end Spells

/-! ### Whole paths -/

theorem align?_isSome_iff {parts : List (List Piece)} {texts : List String}
    (h : List.Forall₂ Spells parts texts) (vars : Bindings) (values : List String) :
    (align? vars (texts.map Segment.ofText) values).isSome = true ↔
      List.Forall₂ (fun ps value => Compiles ps ∧ Splits (· ≠ '\n') ps value.toList)
        parts values := by
  induction h generalizing vars values with
  | nil => cases values <;> simp [align?]
  | cons hspells _ ih =>
    rw [List.map_cons]
    cases values with
    | nil => rw [align?.eq_4 _ _ _ hspells.ofText_ne_any]; simp
    | cons value values =>
      rw [align?.eq_5 _ _ _ _ _ hspells.ofText_ne_any, List.forall₂_cons,
        ← hspells.bind?_isSome_iff]
      split
      · next more hmore => simp [ih, hmore]
      · next hnone => simp [hnone]

/-- A path matches a pattern of such segments if it has as many, and each splits along its own. -/
theorem isMatch_iff_splits {pattern path : String} {parts : List (List Piece)}
    (h : List.Forall₂ Spells parts (segments pattern)) :
    isMatch pattern path = true ↔
      List.Forall₂ (fun ps value => Compiles ps ∧ Splits (· ≠ '\n') ps value.toList) parts
        (segments path) :=
  align?_isSome_iff h [] (segments path)

end RequestDispatch.Path
