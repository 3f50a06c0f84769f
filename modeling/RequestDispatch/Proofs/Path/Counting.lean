import Mathlib.Algebra.GroupWithZero.Nat
import Mathlib.Data.List.TakeWhile
import RequestDispatch.Path.Rank

/-! # What a rank counts

A rank counts the variables and wildcards of a pattern character by character, while a segment is
compiled from its pieces. The counts agree as long as no segment has a closing brace that closes
nothing: what stands behind such a brace, outside of all braces, is not counted. -/
namespace RequestDispatch.Path

/-! ### What is compiled -/

def Segment.pieces : Segment → List Piece
  | .mixed text => (pieces? text.toList).getD []
  | _ => []

def Segment.captures : Segment → Nat
  | .capture _ => 1
  | s => (variableNames s.pieces).length

def Segment.runs (s : Segment) : Nat :=
  s.pieces.count .run

/-- Every segment is `**`, or begins with a colon, or can be compiled. -/
def Readable (pattern : String) : Prop :=
  ∀ text ∈ segments pattern, text = "**" ∨ text.toList.head? = some ':' ∨
    (SegmentPattern.ofText? text).isSome = true

structure CountsAgree (pattern : String) : Prop where
  captures : (Rank.ofPattern pattern).captures =
    ((segments pattern).map fun text => (Segment.ofText text).captures).sum
  runs : (Rank.ofPattern pattern).runs =
    ((segments pattern).map fun text => (Segment.ofText text).runs).sum

/-! ### Closing braces that close nothing -/

def Piece.stray : Piece := .literal '\x7d'

def fromStray (ps : List Piece) : List Piece :=
  ps.dropWhile (· ≠ .stray)

def beforeStray (ps : List Piece) : List Piece :=
  ps.takeWhile (· ≠ .stray)

/-- A variable with neither braces nor stars in its name and its constraint. -/
def Piece.IsBare : Piece → Prop
  | .variable name constraint? =>
    ∀ c ∈ name.toList ++ (constraint?.getD "").toList, c ≠ '\x7b' ∧ c ≠ '*'
  | _ => True

theorem forall_of_isBare_ofBody {body : List Char} (h : (Piece.ofBody body).IsBare) :
    ∀ c ∈ body, c ≠ '\x7b' ∧ c ≠ '*' := by
  unfold Piece.ofBody at h
  split at h
  · simpa [Piece.IsBare] using h
  · next name constraint hsplit =>
    obtain ⟨rfl, -⟩ := Text.splitOnce?_eq_some_iff.1 hsplit
    simp only [Piece.IsBare, Option.getD_some, String.toList_ofList] at h
    intro c hc
    rcases List.mem_append.1 hc with hc | hc
    · exact h c (List.mem_append_left _ hc)
    · rcases List.mem_cons.1 hc with rfl | hc
      · decide
      · exact h c (List.mem_append_right _ hc)

/-! ### Counting characters -/

theorem closing?_cases {depth : Nat} {c : Char} {s body rest : List Char}
    (h : closing? depth (c :: s) = some (body, rest)) :
    (c = '\x7d' ∧ depth ≤ 1 ∧ rest = s ∧ body = []) ∨
    ∃ inner, body = c :: inner ∧
      ((c = '\x7d' ∧ 1 < depth ∧ closing? (depth - 1) s = some (inner, rest)) ∨
        (c = '\x7b' ∧ closing? (depth + 1) s = some (inner, rest)) ∨
        (c ≠ '\x7d' ∧ c ≠ '\x7b' ∧ closing? depth s = some (inner, rest))) := by
  rw [closing?] at h
  split at h
  · next hclose =>
    split at h
    · next hlast =>
      obtain ⟨rfl, rfl⟩ := Prod.mk.inj (Option.some.inj h)
      exact .inl ⟨hclose, hlast, rfl, rfl⟩
    · next hlast =>
      obtain ⟨⟨inner, _⟩, hinner, heq⟩ := Option.map_eq_some_iff.1 h
      obtain ⟨rfl, rfl⟩ := Prod.mk.inj heq
      exact .inr ⟨inner, rfl, .inl ⟨hclose, Nat.lt_of_not_le hlast, hinner⟩⟩
  · next hclose =>
    obtain ⟨⟨inner, _⟩, hinner, heq⟩ := Option.map_eq_some_iff.1 h
    obtain ⟨rfl, rfl⟩ := Prod.mk.inj heq
    refine .inr ⟨inner, rfl, .inr ?_⟩
    by_cases hopen : c = '\x7b'
    · rw [if_pos hopen] at hinner
      exact .inl ⟨hopen, hinner⟩
    · rw [if_neg hopen] at hinner
      exact .inr ⟨hclose, hopen, hinner⟩

namespace Rank

section characters

variable {depth : Int} {c : Char} (s : List Char) (r : Rank)

theorem ofChars_close : ofChars depth ('\x7d' :: s) r = ofChars (depth - 1) s r := by
  simp [ofChars]

theorem ofChars_open (h : depth ≠ 0) :
    ofChars depth ('\x7b' :: s) r = ofChars (depth + 1) s r := by
  simp [ofChars, h]

theorem ofChars_open_zero : ofChars 0 ('\x7b' :: s) r =
    ofChars 1 s { r with captures := r.captures + 1, length := r.length + 1 } := by
  simp [ofChars]

theorem ofChars_inside (h : depth ≠ 0) (hclose : c ≠ '\x7d') (hopen : c ≠ '\x7b') :
    ofChars depth (c :: s) r = ofChars depth s r := by
  simp [ofChars, h, hclose, hopen]

theorem ofChars_outside (hclose : c ≠ '\x7d') (hopen : c ≠ '\x7b') :
    ofChars 0 (c :: s) r = ofChars 0 s
      { r with runs := r.runs + (if c = '*' then 1 else 0), length := r.length + 1 } := by
  simp [ofChars, hclose, hopen]

end characters

theorem ofChars_closing {depth : Nat} {s body rest : List Char} (hdepth : 1 ≤ depth)
    (h : closing? depth s = some (body, rest)) (r : Rank) :
    ofChars depth s r = ofChars 0 rest r := by
  induction s generalizing depth body with
  | nil => cases h
  | cons c s ih =>
    have hinside : (depth : Int) ≠ 0 := by omega
    rcases closing?_cases h with ⟨rfl, hlast, rfl, -⟩ | ⟨inner, -, hinner⟩
    · obtain rfl : depth = 1 := by omega
      exact ofChars_close rest r
    · rcases hinner with ⟨rfl, hmore, hinner⟩ | ⟨rfl, hinner⟩ | ⟨hclose, hopen, hinner⟩
      · have hpred : (depth : Int) - 1 = (depth - 1 : Nat) := by omega
        rw [ofChars_close, hpred]
        exact ih (by omega) hinner
      · rw [ofChars_open s r hinside]
        exact ih (Nat.le_succ_of_le hdepth) hinner
      · rw [ofChars_inside s r hinside hclose hopen]
        exact ih hdepth hinner

structure SameCounts (a b : Rank) : Prop where
  captures : a.captures = b.captures
  runs : a.runs = b.runs

theorem SameCounts.trans {a b c : Rank} (h : SameCounts a b) (h' : SameCounts b c) :
    SameCounts a c :=
  ⟨h.captures.trans h'.captures, h.runs.trans h'.runs⟩

/-- Behind a stray brace a bare variable counts as text at most, and leaves the depth as it was. -/
theorem ofChars_bare (depth : Int) {s body rest : List Char}
    (hbare : ∀ c ∈ body, c ≠ '\x7b' ∧ c ≠ '*') (h : closing? 1 s = some (body, rest)) (r : Rank) :
    ∃ counted, SameCounts counted r ∧ ofChars depth s r = ofChars (depth - 1) rest counted := by
  induction s generalizing body r with
  | nil => cases h
  | cons c s ih =>
    rcases closing?_cases h with ⟨rfl, -, rfl, -⟩ | ⟨inner, rfl, hinner⟩
    · exact ⟨r, ⟨rfl, rfl⟩, ofChars_close rest r⟩
    · obtain ⟨hc, hbare⟩ := List.forall_mem_cons.1 hbare
      rcases hinner with ⟨-, hmore, -⟩ | ⟨hopen, -⟩ | ⟨hclose, hopen, hinner⟩
      · exact absurd hmore (Nat.lt_irrefl 1)
      · exact absurd hopen hc.1
      · by_cases hdepth : depth = 0
        · subst hdepth
          rw [ofChars_outside s r hclose hopen, if_neg hc.2]
          obtain ⟨counted, hsame, heq⟩ := ih hbare hinner { r with length := r.length + 1 }
          exact ⟨counted, hsame.trans ⟨rfl, rfl⟩, heq⟩
        · rw [ofChars_inside s r hdepth hclose hopen]
          exact ih hbare hinner r

end Rank

/-! ### Counting pieces -/

def Piece.ofChar (c : Char) : Piece :=
  if c = '*' then .run else if c = '?' then .one else .literal c

theorem pieces?_cases {c : Char} {s : List Char} {ps : List Piece}
    (h : pieces? (c :: s) = some ps) :
    (∃ body rest more, c = '\x7b' ∧ closing? 1 s = some (body, rest) ∧
      pieces? rest = some more ∧ ps = .ofBody body :: more) ∨
    ∃ more, c ≠ '\x7b' ∧ pieces? s = some more ∧ ps = .ofChar c :: more := by
  rw [pieces?] at h
  split at h
  · next hopen =>
    split at h
    · cases h
    · next body rest hclosing =>
      obtain ⟨more, hmore, rfl⟩ := Option.map_eq_some_iff.1 h
      exact .inl ⟨body, rest, more, hopen, hclosing, hmore, rfl⟩
  · next hopen =>
    obtain ⟨more, hmore, rfl⟩ := Option.map_eq_some_iff.1 h
    exact .inr ⟨more, hopen, hmore, rfl⟩

theorem ofBody_eq_variable (body : List Char) :
    ∃ name constraint?, Piece.ofBody body = .variable name constraint? := by
  unfold Piece.ofBody
  split
  · exact ⟨_, _, rfl⟩
  · exact ⟨_, _, rfl⟩

theorem ofChar_ne_stray {c : Char} (h : c ≠ '\x7d') : Piece.ofChar c ≠ .stray := by
  unfold Piece.ofChar Piece.stray
  split
  · simp
  · split
    · simp
    · simpa using h

theorem variableNames_ofChar (c : Char) (ps : List Piece) :
    variableNames (.ofChar c :: ps) = variableNames ps := by
  unfold Piece.ofChar
  split
  · rfl
  · split <;> rfl

theorem count_run_ofChar (c : Char) (ps : List Piece) :
    (Piece.ofChar c :: ps).count .run = (if c = '*' then 1 else 0) + ps.count .run := by
  unfold Piece.ofChar
  split
  · simp [Nat.add_comm]
  · split <;> simp

theorem beforeStray_cons {p : Piece} (hp : p ≠ .stray) (ps : List Piece) :
    beforeStray (p :: ps) = p :: beforeStray ps :=
  List.takeWhile_cons_of_pos (decide_eq_true hp)

theorem fromStray_cons {p : Piece} (hp : p ≠ .stray) (ps : List Piece) :
    fromStray (p :: ps) = fromStray ps :=
  List.dropWhile_cons_of_pos (decide_eq_true hp)

namespace Rank

/-- Behind a stray brace the depth is negative, and stays so. -/
theorem ofChars_behind {depth : Int} {s : List Char} {ps : List Piece} (hdepth : depth < 0)
    (hps : pieces? s = some ps) (hbare : ∀ p ∈ ps, p.IsBare) (r : Rank) :
    SameCounts (ofChars depth s r) r := by
  match s with
  | [] => exact ⟨rfl, rfl⟩
  | c :: s =>
    rcases pieces?_cases hps with
      ⟨body, rest, more, rfl, hclosing, hmore, rfl⟩ | ⟨more, hopen, hmore, rfl⟩
    · obtain ⟨hbody, hmoreBare⟩ := List.forall_mem_cons.1 hbare
      obtain ⟨counted, hsame, heq⟩ :=
        ofChars_bare (depth + 1) (forall_of_isBare_ofBody hbody) hclosing r
      have := closing?_length hclosing
      rw [ofChars_open s r (by omega), heq]
      exact (ofChars_behind (by omega) hmore hmoreBare counted).trans hsame
    · have hmoreBare := (List.forall_mem_cons.1 hbare).2
      by_cases hclose : c = '\x7d'
      · subst hclose
        rw [ofChars_close]
        exact ofChars_behind (by omega) hmore hmoreBare r
      · rw [ofChars_inside s r (by omega) hclose hopen]
        exact ofChars_behind hdepth hmore hmoreBare r
termination_by s.length

/-- A segment counts with the pieces before its first stray brace. -/
theorem ofChars_pieces {s : List Char} {ps : List Piece} (hps : pieces? s = some ps)
    (hbare : ∀ p ∈ fromStray ps, p.IsBare) (r : Rank) :
    (ofChars 0 s r).captures = r.captures + (variableNames (beforeStray ps)).length ∧
      (ofChars 0 s r).runs = r.runs + (beforeStray ps).count .run := by
  match s with
  | [] =>
    rw [pieces?] at hps
    obtain rfl := Option.some.inj hps
    exact ⟨rfl, rfl⟩
  | c :: s =>
    rcases pieces?_cases hps with
      ⟨body, rest, more, rfl, hclosing, hmore, rfl⟩ | ⟨more, hopen, hmore, rfl⟩
    · have hopened : ofChars 0 ('\x7b' :: s) r = ofChars 0 rest
          { r with captures := r.captures + 1, length := r.length + 1 } := by
        rw [ofChars_open_zero]
        exact ofChars_closing (Nat.le_refl 1) hclosing _
      obtain ⟨name, constraint?, hvariable⟩ := ofBody_eq_variable body
      have hne : Piece.ofBody body ≠ .stray := by
        rw [hvariable]
        exact Piece.noConfusion
      rw [fromStray_cons hne] at hbare
      have := closing?_length hclosing
      have ih := ofChars_pieces hmore hbare
        { r with captures := r.captures + 1, length := r.length + 1 }
      rw [hopened, beforeStray_cons hne, ih.1, ih.2, hvariable]
      constructor
      · simp only [variableNames, List.filterMap_cons, Piece.variable?, List.length_cons]
        omega
      · simp
    · by_cases hclose : c = '\x7d'
      · subst hclose
        have hmoreBare := (List.forall_mem_cons.1 hbare).2
        have hbehind := ofChars_behind (Int.negSucc_lt_zero 0) hmore hmoreBare r
        exact ⟨hbehind.captures, hbehind.runs⟩
      · have hne := ofChar_ne_stray hclose
        rw [fromStray_cons hne] at hbare
        have ih := ofChars_pieces hmore hbare
          { r with runs := r.runs + (if c = '*' then 1 else 0), length := r.length + 1 }
        rw [ofChars_outside s r hclose hopen, beforeStray_cons hne, ih.1, ih.2,
          variableNames_ofChar, count_run_ofChar]
        exact ⟨rfl, Nat.add_assoc ..⟩
termination_by s.length

theorem ofChars_literal {s : List Char} (h : s.any isWild = false) (depth : Int) (r : Rank) :
    SameCounts (ofChars depth s r) r := by
  induction s generalizing depth r with
  | nil => exact ⟨rfl, rfl⟩
  | cons c s ih =>
    rw [List.any_cons, Bool.or_eq_false_iff] at h
    obtain ⟨hstar, hopen⟩ : c ≠ '*' ∧ c ≠ '\x7b' := by
      have hc := h.1
      simp only [isWild, Bool.or_eq_false_iff, decide_eq_false_iff_not] at hc
      exact ⟨hc.1.1, hc.2⟩
    by_cases hclose : c = '\x7d'
    · subst hclose
      rw [ofChars_close]
      exact ih h.2 (depth - 1) r
    · by_cases hdepth : depth = 0
      · subst hdepth
        rw [ofChars_outside s r hclose hopen, if_neg hstar]
        exact (ih h.2 0 _).trans ⟨rfl, rfl⟩
      · rw [ofChars_inside s r hdepth hclose hopen]
        exact ih h.2 depth r

end Rank

/-! ### Counting patterns -/

theorem ofText_cases (text : String) :
    (text = "**" ∧ Segment.ofText text = .any) ∨
    (text.toList.head? = some ':' ∧ ∃ name, Segment.ofText text = .capture name) ∨
    text ≠ "**" ∧ text.toList.head? ≠ some ':' ∧
      (text.toList.any isWild = false ∧ Segment.ofText text = .literal text ∨
        Segment.ofText text = .mixed text) := by
  unfold Segment.ofText
  split
  · next hany => exact .inl ⟨hany, rfl⟩
  · next hany =>
    split
    · next hcolon => exact .inr (.inl ⟨by rw [hcolon, List.head?_cons], _, rfl⟩)
    · next hcapture =>
      have hhead : text.toList.head? ≠ some ':' := by
        intro hhead
        obtain ⟨rest, hrest⟩ := List.head?_eq_some_iff.1 hhead
        exact hcapture rest hrest
      split
      · exact .inr (.inr ⟨hany, hhead, .inr rfl⟩)
      · next hwild => exact .inr (.inr ⟨hany, hhead, .inl ⟨Bool.eq_false_iff.2 hwild, rfl⟩⟩)

/-- The variables that stand behind a stray brace. -/
def hiddenCaptures (text : String) : Nat :=
  (variableNames (fromStray (Segment.ofText text).pieces)).length

def hiddenRuns (text : String) : Nat :=
  (fromStray (Segment.ofText text).pieces).count .run

theorem exists_pieces? {text : String} (h : (SegmentPattern.ofText? text).isSome = true) :
    ∃ ps, pieces? text.toList = some ps := by
  obtain ⟨pattern, hpattern⟩ := Option.isSome_iff_exists.1 h
  obtain ⟨ps, hps, -⟩ := Option.bind_eq_some_iff.1 hpattern
  exact ⟨ps, hps⟩

namespace Rank

theorem addSegment_counts {text : String}
    (h : text = "**" ∨ text.toList.head? = some ':' ∨
      (SegmentPattern.ofText? text).isSome = true)
    (hbare : ∀ p ∈ fromStray (Segment.ofText text).pieces, p.IsBare) (r : Rank) :
    (r.addSegment text).captures + hiddenCaptures text =
        r.captures + (Segment.ofText text).captures ∧
      (r.addSegment text).runs + hiddenRuns text = r.runs + (Segment.ofText text).runs := by
  unfold hiddenCaptures hiddenRuns Segment.runs addSegment
  rcases ofText_cases text with ⟨-, hkind⟩ | ⟨-, name, hkind⟩ |
    ⟨hany, hhead, ⟨hwild, hkind⟩ | hkind⟩
  · rw [hkind]
    exact ⟨rfl, rfl⟩
  · rw [hkind]
    exact ⟨rfl, rfl⟩
  · rw [hkind]
    have hsame := ofChars_literal hwild 0 r
    exact ⟨hsame.captures, hsame.runs⟩
  · obtain ⟨ps, hps⟩ := exists_pieces? ((h.resolve_left hany).resolve_left hhead)
    have hpieces : (Segment.mixed text).pieces = ps := by rw [Segment.pieces, hps, Option.getD_some]
    rw [hkind, hpieces] at hbare
    have hcounts := ofChars_pieces hps hbare r
    have hsplit : beforeStray ps ++ fromStray ps = ps := List.takeWhile_append_dropWhile
    have hcaptures : (Segment.mixed text).captures = (variableNames ps).length := by
      rw [← hpieces]
      rfl
    rw [hkind, hcaptures, hpieces]
    constructor
    · calc (ofChars 0 text.toList r).captures + (variableNames (fromStray ps)).length
        _ = r.captures + (variableNames (beforeStray ps ++ fromStray ps)).length := by
          rw [hcounts.1, variableNames, variableNames, variableNames, List.filterMap_append,
            List.length_append, Nat.add_assoc]
        _ = r.captures + (variableNames ps).length := by rw [hsplit]
    · calc (ofChars 0 text.toList r).runs + (fromStray ps).count .run
        _ = r.runs + (beforeStray ps ++ fromStray ps).count .run := by
          rw [hcounts.2, List.count_append, Nat.add_assoc]
        _ = r.runs + ps.count .run := by rw [hsplit]

theorem foldl_addSegment_counts {texts : List String}
    (h : ∀ text ∈ texts, text = "**" ∨ text.toList.head? = some ':' ∨
      (SegmentPattern.ofText? text).isSome = true)
    (hbare : ∀ text ∈ texts, ∀ p ∈ fromStray (Segment.ofText text).pieces, p.IsBare) (r : Rank) :
    (texts.foldl addSegment r).captures + (texts.map hiddenCaptures).sum =
        r.captures + (texts.map fun text => (Segment.ofText text).captures).sum ∧
      (texts.foldl addSegment r).runs + (texts.map hiddenRuns).sum =
        r.runs + (texts.map fun text => (Segment.ofText text).runs).sum := by
  induction texts generalizing r with
  | nil => exact ⟨rfl, rfl⟩
  | cons text texts ih =>
    obtain ⟨htext, htexts⟩ := List.forall_mem_cons.1 h
    obtain ⟨hbareText, hbareTexts⟩ := List.forall_mem_cons.1 hbare
    have hstep := addSegment_counts htext hbareText r
    have hrest := ih htexts hbareTexts (r.addSegment text)
    simp only [List.foldl_cons, List.map_cons, List.sum_cons]
    omega

end Rank

def Piece.IsUncounted (p : Piece) : Prop :=
  p.variable? = none ∧ p ≠ .run

theorem hidden_eq_zero_iff (text : String) :
    hiddenCaptures text = 0 ∧ hiddenRuns text = 0 ↔
      ∀ p ∈ fromStray (Segment.ofText text).pieces, p.IsUncounted := by
  rw [hiddenCaptures, hiddenRuns, List.length_eq_zero_iff, variableNames,
    List.filterMap_eq_nil_iff, List.count_eq_zero]
  constructor
  · exact fun ⟨hnames, hrun⟩ p hp => ⟨hnames p hp, fun heq => hrun (heq ▸ hp)⟩
  · exact fun h => ⟨fun p hp => (h p hp).1, fun hrun => (h _ hrun).2 rfl⟩

theorem hidden_sums_eq_zero_iff (texts : List String) :
    (texts.map hiddenCaptures).sum = 0 ∧ (texts.map hiddenRuns).sum = 0 ↔
      ∀ text ∈ texts, ∀ p ∈ fromStray (Segment.ofText text).pieces, p.IsUncounted := by
  simp only [List.sum_eq_zero_iff_forall_eq_nat, List.forall_mem_map, ← hidden_eq_zero_iff]
  constructor
  · exact fun ⟨hcaptures, hruns⟩ text htext => ⟨hcaptures text htext, hruns text htext⟩
  · exact fun h => ⟨fun text htext => (h text htext).1, fun text htext => (h text htext).2⟩

theorem fromStray_eq_nil {ps : List Piece} (h : .stray ∉ ps) : fromStray ps = [] := by
  rw [fromStray, List.dropWhile_eq_nil_iff]
  intro p hp
  exact decide_eq_true fun heq => h (heq ▸ hp)

/-- A pattern is ranked by the variables and wildcards that it is compiled with, as long as no
segment has a stray brace. Otherwise those behind the stray braces are missing, unless they are
none: this is exact where no variable behind a stray brace has braces or stars of its own. -/
theorem Rank.counts_up_to_stray_braces {pattern : String} (h : Readable pattern) :
    ((∀ text ∈ segments pattern, .stray ∉ (Segment.ofText text).pieces) → CountsAgree pattern) ∧
    ((∀ text ∈ segments pattern, ∀ p ∈ fromStray (Segment.ofText text).pieces, p.IsBare) →
      (ofPattern pattern).captures + ((segments pattern).map hiddenCaptures).sum =
          ((segments pattern).map fun text => (Segment.ofText text).captures).sum ∧
        (ofPattern pattern).runs + ((segments pattern).map hiddenRuns).sum =
          ((segments pattern).map fun text => (Segment.ofText text).runs).sum ∧
        (CountsAgree pattern ↔ ∀ text ∈ segments pattern,
          ∀ p ∈ fromStray (Segment.ofText text).pieces, p.IsUncounted)) := by
  have hcounted : (∀ text ∈ segments pattern,
      ∀ p ∈ fromStray (Segment.ofText text).pieces, p.IsBare) →
      (ofPattern pattern).captures + ((segments pattern).map hiddenCaptures).sum =
          ((segments pattern).map fun text => (Segment.ofText text).captures).sum ∧
        (ofPattern pattern).runs + ((segments pattern).map hiddenRuns).sum =
          ((segments pattern).map fun text => (Segment.ofText text).runs).sum := by
    intro hbare
    have hcounts := foldl_addSegment_counts h hbare {}
    rwa [Nat.zero_add, Nat.zero_add] at hcounts
  have hagree : (∀ text ∈ segments pattern,
      ∀ p ∈ fromStray (Segment.ofText text).pieces, p.IsBare) →
      (CountsAgree pattern ↔ ∀ text ∈ segments pattern,
        ∀ p ∈ fromStray (Segment.ofText text).pieces, p.IsUncounted) := by
    intro hbare
    obtain ⟨hcaptures, hruns⟩ := hcounted hbare
    rw [← hidden_sums_eq_zero_iff]
    constructor
    · rintro ⟨hagree, hagree'⟩
      omega
    · rintro ⟨hnone, hnone'⟩
      exact ⟨by omega, by omega⟩
  refine ⟨fun hstray => ?_, fun hbare => ⟨(hcounted hbare).1, (hcounted hbare).2, hagree hbare⟩⟩
  have hnil : ∀ text ∈ segments pattern, fromStray (Segment.ofText text).pieces = [] :=
    fun text htext => fromStray_eq_nil (hstray text htext)
  have hnone : ∀ (P : Piece → Prop), ∀ text ∈ segments pattern,
      ∀ p ∈ fromStray (Segment.ofText text).pieces, P p := by
    intro P text htext p hp
    rw [hnil text htext] at hp
    cases hp
  exact (hagree (hnone _)).2 (hnone _)

def ordersPattern : String := "/orders/:year/\x7bid\x7b*\x7d\x7d-*/**"

theorem ordersPattern_counts :
    Readable ordersPattern ∧
      (∀ text ∈ segments ordersPattern, .stray ∉ (Segment.ofText text).pieces) ∧
      CountsAgree ordersPattern ∧ (Rank.ofPattern ordersPattern).captures = 2 ∧
      (Rank.ofPattern ordersPattern).runs = 1 := by
  have hsegments : segments ordersPattern =
      ["orders", ":year", "\x7bid\x7b*\x7d\x7d-*", "**"] := by decide +kernel
  have hreadable : Readable ordersPattern := by
    rw [Readable, hsegments]
    decide +kernel
  have hstray : ∀ text ∈ segments ordersPattern, .stray ∉ (Segment.ofText text).pieces := by
    rw [hsegments]
    decide +kernel
  exact ⟨hreadable, hstray, (Rank.counts_up_to_stray_braces hreadable).1 hstray,
    by decide +kernel, by decide +kernel⟩

/-- Behind the closing brace the star is not counted, so the pattern ties with one that has no
wildcard to be counted. -/
theorem star_behind_brace_uncounted :
    Readable "/x\x7d*" ∧ ((segments "/x\x7d*").map fun text => (Segment.ofText text).runs).sum = 1 ∧
      (Rank.ofPattern "/x\x7d*").runs = 0 ∧ ¬CountsAgree "/x\x7d*" ∧
      comparePatterns "/x\x7dy" "/x\x7d*" "/x\x7d?" = .eq := by
  have hsegments : segments "/x\x7d*" = ["x\x7d*"] := by decide +kernel
  have hreadable : Readable "/x\x7d*" := by
    rw [Readable, hsegments]
    decide +kernel
  have hcompiled : ((segments "/x\x7d*").map fun text => (Segment.ofText text).runs).sum = 1 := by
    rw [hsegments]
    decide +kernel
  have hranked : (Rank.ofPattern "/x\x7d*").runs = 0 := by decide +kernel
  refine ⟨hreadable, hcompiled, hranked, fun hagree => ?_, by decide +kernel⟩
  have hruns := hagree.runs
  rw [hcompiled, hranked] at hruns
  cases hruns

end RequestDispatch.Path
