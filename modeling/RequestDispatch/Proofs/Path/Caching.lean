import Mathlib.Data.Set.Card
import RequestDispatch.Path.Rank
import RequestDispatch.Proofs.Path.Alignment

/-!
# A matcher that keeps what it compiles

A search comes to a segment of the pattern if the segments before it align with a beginning of the
path, and no alignment of the whole comes before that one. The wildcard segments it comes to are
compiled; what is kept of them never changes an answer, also where an attempt is given up. After
any questions the matcher holds one entry for each wildcard segment that one of them came to and
that can be compiled.
-/
namespace RequestDispatch.Path

/-! ### What a search comes to -/

/-- The search tries to go on behind `front`, aligned with `before` by these runs: it has not
stopped at an alignment of the whole whose runs come first. -/
structure Tried (ss : List Segment) (values : List String) (front : List Segment)
    (before : List String) (runs : List Nat) : Prop where
  aligns : ∃ made, Aligns front before runs made
  least : ∀ {others more}, Aligns ss values others more → ShorterFirst runs others

def Reaches (ss : List Segment) (values : List String) (s : Segment) : Prop :=
  ∃ front rest before value after runs, ss = front ++ s :: rest ∧
    values = before ++ value :: after ∧ Tried ss values front before runs

section tried

variable {s : Segment} {ss front : List Segment} {value : String} {values before : List String}
  {n : Nat} {runs : List Nat} {made : Bindings}

theorem Aligns.any_cases (h : Aligns (.any :: ss) values runs made) :
    (∃ later, runs = 0 :: later ∧ Aligns ss values later made) ∨
      ∃ value rest n later, values = value :: rest ∧ runs = (n + 1) :: later ∧
        Aligns (.any :: ss) rest (n :: later) made := by
  obtain ⟨taken, rest, later, rfl, rfl, hrest⟩ := Aligns.any_iff.1 h
  cases taken with
  | nil => exact .inl ⟨later, rfl, hrest⟩
  | cons value taken => exact .inr ⟨value, _, taken.length, later, rfl, rfl, .any taken hrest⟩

namespace Tried

theorem start : Tried ss values [] [] [] where
  aligns := ⟨[], .nil⟩
  least := fun _ => trivial

theorem any_empty (h : Tried ss values front before runs) :
    Tried (.any :: ss) values (.any :: front) before (0 :: runs) where
  aligns := by
    obtain ⟨made, haligns⟩ := h.aligns
    exact ⟨made, .any [] haligns⟩
  least := by
    intro others more hother
    rcases hother.any_cases with ⟨later, rfl, hlater⟩ | ⟨_, _, n, later, -, rfl, -⟩
    · exact .inr ⟨rfl, h.least hlater⟩
    · exact .inl (Nat.succ_pos n)

theorem any_longer (hempty : ∀ runs made, ¬Aligns ss (value :: values) runs made)
    (h : Tried (.any :: ss) values (.any :: front) before (n :: runs)) :
    Tried (.any :: ss) (value :: values) (.any :: front) (value :: before)
      ((n + 1) :: runs) where
  aligns := by
    obtain ⟨made, haligns⟩ := h.aligns
    exact ⟨made, Aligns.any_cons_iff.2 (.inr ⟨n, runs, rfl, haligns⟩)⟩
  least := by
    intro others more hother
    rcases Aligns.any_cons_iff.1 hother with ⟨later, rfl, hlater⟩ | ⟨n', later, rfl, hlater⟩
    · exact absurd hlater (hempty later more)
    · rcases h.least hlater with hlt | ⟨rfl, hfirst⟩
      · exact .inl (Nat.succ_lt_succ hlt)
      · exact .inr ⟨rfl, hfirst⟩

theorem of_any_empty (haligns : Aligns front before runs made)
    (h : Tried (.any :: ss) values (.any :: front) before (0 :: runs)) :
    Tried ss values front before runs where
  aligns := ⟨made, haligns⟩
  least := by
    intro others more hother
    rcases h.least (.any [] hother) with hlt | ⟨-, hfirst⟩
    · exact absurd hlt (Nat.lt_irrefl 0)
    · exact hfirst

theorem not_aligns_of_any_longer {whole : List String}
    (h : Tried (.any :: ss) values (.any :: front) whole ((n + 1) :: runs))
    (others : List Nat) (more : Bindings) : ¬Aligns ss values others more := by
  intro hother
  rcases h.least (.any [] hother) with hlt | ⟨heq, -⟩
  · exact Nat.not_lt_zero _ hlt
  · cases heq

theorem of_any_longer (haligns : Aligns (.any :: front) before (n :: runs) made)
    (h : Tried (.any :: ss) (value :: values) (.any :: front) (value :: before)
      ((n + 1) :: runs)) :
    Tried (.any :: ss) values (.any :: front) before (n :: runs) where
  aligns := ⟨made, haligns⟩
  least := by
    intro others more hother
    obtain ⟨taken, _, later, -, rfl, -⟩ := Aligns.any_iff.1 hother
    have hlonger : Aligns (.any :: ss) (value :: values) ((taken.length + 1) :: later) more :=
      Aligns.any_cons_iff.2 (.inr ⟨taken.length, later, rfl, hother⟩)
    rcases h.least hlonger with hlt | ⟨heq, hfirst⟩
    · exact .inl (Nat.lt_of_succ_lt_succ hlt)
    · exact .inr ⟨Nat.succ.inj heq, hfirst⟩

theorem one {more : Bindings} (hs : s ≠ .any) (hbind : s.bind? value = some more)
    (h : Tried ss values front before runs) :
    Tried (s :: ss) (value :: values) (s :: front) (value :: before) runs where
  aligns := by
    obtain ⟨made, haligns⟩ := h.aligns
    exact ⟨more ++ made, .one hbind haligns⟩
  least := by
    intro others _ hother
    obtain ⟨_, _, _, _, hvalues, -, -, hrest⟩ := (Aligns.one_iff hs).1 hother
    obtain ⟨rfl, rfl⟩ := List.cons.inj hvalues
    exact h.least hrest

theorem of_one {more : Bindings} (hbind : s.bind? value = some more)
    (haligns : Aligns front before runs made)
    (h : Tried (s :: ss) (value :: values) (s :: front) (value :: before) runs) :
    Tried ss values front before runs where
  aligns := ⟨made, haligns⟩
  least := fun hother => h.least (.one hbind hother)

end Tried

end tried

namespace Reaches

variable {s s' : Segment} {ss : List Segment} {value : String} {values : List String}

theorem mem (h : Reaches ss values s) : s ∈ ss := by
  obtain ⟨front, rest, before, value, after, runs, rfl, -, -⟩ := h
  exact List.mem_append_right front List.mem_cons_self

theorem not_nil : ¬Reaches [] values s := by
  intro h
  cases h.mem

theorem not_nil_values : ¬Reaches ss [] s := by
  rintro ⟨front, rest, before, value, after, runs, -, hvalues, -⟩
  cases before <;> cases hvalues

theorem of_any_cons (hs : s ≠ .any) (h : Reaches (.any :: ss) (value :: values) s) :
    Reaches ss (value :: values) s ∨
      (∀ runs made, ¬Aligns ss (value :: values) runs made) ∧ Reaches (.any :: ss) values s := by
  obtain ⟨front, rest, before, value', after, runs, hss, hvalues, htried⟩ := h
  cases front with
  | nil => exact absurd (List.cons.inj hss).1.symm hs
  | cons first front =>
    obtain ⟨rfl, htail⟩ := List.cons.inj hss
    obtain ⟨made, haligns⟩ := htried.aligns
    rcases haligns.any_cases with
      ⟨later, rfl, hfront⟩ | ⟨value'', before', n, later, rfl, rfl, hfront⟩
    · exact .inl ⟨front, rest, before, value', after, later, htail, hvalues,
        htried.of_any_empty hfront⟩
    · obtain ⟨rfl, hlater⟩ := List.cons.inj hvalues
      exact .inr ⟨htried.not_aligns_of_any_longer, .any :: front, rest, before', value', after,
        n :: later, hss, hlater, htried.of_any_longer hfront⟩

theorem any_longer (hs : s ≠ .any) (hempty : ∀ runs made, ¬Aligns ss (value :: values) runs made)
    (h : Reaches (.any :: ss) values s) : Reaches (.any :: ss) (value :: values) s := by
  obtain ⟨front, rest, before, value', after, runs, hss, rfl, htried⟩ := h
  cases front with
  | nil => exact absurd (List.cons.inj hss).1.symm hs
  | cons first front =>
    obtain ⟨rfl, -⟩ := List.cons.inj hss
    obtain ⟨made, haligns⟩ := htried.aligns
    obtain ⟨taken, _, later, -, rfl, -⟩ := Aligns.any_iff.1 haligns
    exact ⟨.any :: front, rest, value :: before, value', after, (taken.length + 1) :: later, hss,
      rfl, htried.any_longer hempty⟩

theorem any_cons_iff (hs : s ≠ .any) : Reaches (.any :: ss) (value :: values) s ↔
    Reaches ss (value :: values) s ∨
      (∀ runs made, ¬Aligns ss (value :: values) runs made) ∧ Reaches (.any :: ss) values s := by
  constructor
  · exact of_any_cons hs
  · rintro (⟨front, rest, before, value', after, runs, hss, hvalues, htried⟩ | ⟨hempty, h⟩)
    · exact ⟨.any :: front, rest, before, value', after, 0 :: runs, congrArg _ hss, hvalues,
        htried.any_empty⟩
    · exact h.any_longer hs hempty

theorem one_cons_iff (hs : s' ≠ .any) : Reaches (s' :: ss) (value :: values) s ↔
    s' = s ∨ (∃ more, s'.bind? value = some more) ∧ Reaches ss values s := by
  constructor
  · rintro ⟨front, rest, before, value', after, runs, hss, hvalues, htried⟩
    cases front with
    | nil => exact .inl (List.cons.inj hss).1
    | cons first front =>
      obtain ⟨rfl, htail⟩ := List.cons.inj hss
      obtain ⟨made, haligns⟩ := htried.aligns
      obtain ⟨_, before', more, later, rfl, -, hbind, hfront⟩ := (Aligns.one_iff hs).1 haligns
      obtain ⟨rfl, hlater⟩ := List.cons.inj hvalues
      exact .inr ⟨⟨more, hbind⟩, front, rest, before', value', after, runs, htail, hlater,
        htried.of_one hbind hfront⟩
  · rintro (rfl | ⟨⟨more, hbind⟩, front, rest, before, value', after, runs, hss, hvalues, htried⟩)
    · exact ⟨[], ss, [], value, values, [], rfl, rfl, .start⟩
    · exact ⟨s' :: front, rest, value :: before, value', after, runs, congrArg _ hss,
        congrArg _ hvalues, htried.one hs hbind⟩

end Reaches

/-! ### Wildcard segments -/

structure Wildcard (text : String) : Prop where
  wild : text.toList.any isWild = true
  ne_any : text ≠ "**"
  no_colon : ∀ name, text.toList ≠ ':' :: name

def Compilable (text : String) : Prop :=
  (SegmentPattern.ofText? text).isSome = true

theorem Wildcard.ofText_eq {text : String} (h : Wildcard text) :
    Segment.ofText text = .mixed text := by
  rw [Segment.ofText, if_neg h.ne_any]
  split
  · next name hname => exact absurd hname (h.no_colon name)
  · rw [if_pos h.wild]

theorem ofText_eq_mixed_iff {s text : String} :
    Segment.ofText s = .mixed text ↔ s = text ∧ Wildcard text := by
  constructor
  · intro h
    rw [Segment.ofText] at h
    split at h
    · cases h
    · next hany =>
      split at h
      · cases h
      · next hcolon =>
        split at h
        · next hwild =>
          cases h
          exact ⟨rfl, hwild, hany, hcolon⟩
        · cases h
  · rintro ⟨rfl, h⟩
    exact h.ofText_eq

theorem mixed_ne_any (text : String) : Segment.mixed text ≠ .any :=
  nofun

theorem Aligns.exists_bind? {s : Segment} {ss : List Segment} {values : List String}
    {runs : List Nat} {made : Bindings} (h : Aligns ss values runs made) (hmem : s ∈ ss)
    (hs : s ≠ .any) : ∃ value more, s.bind? value = some more := by
  induction h with
  | nil => cases hmem
  | any taken _ ih =>
    rcases List.mem_cons.1 hmem with rfl | hrest
    · exact absurd rfl hs
    · exact ih hrest
  | one hbind _ ih =>
    rcases List.mem_cons.1 hmem with rfl | hrest
    · exact ⟨_, _, hbind⟩
    · exact ih hrest

theorem bind?_eq_none {text : String} (h : ¬Compilable text) (value : String) :
    (Segment.mixed text).bind? value = none := by
  have hnone : SegmentPattern.ofText? text = none := Option.not_isSome_iff_eq_none.1 h
  rw [Segment.bind?, hnone]
  rfl

/-- A pattern with a segment that cannot be compiled matches no path. -/
theorem bindings?_eq_none {text pattern : String} (hwild : Wildcard text) (h : ¬Compilable text)
    (hmem : text ∈ segments pattern) (path : String) : bindings? pattern path = none := by
  refine Option.not_isSome_iff_eq_none.1 fun hsome => ?_
  obtain ⟨runs, made, haligns⟩ := (align?_finds [] _ _).isSome_iff.1 hsome
  have hmixed : Segment.mixed text ∈ (segments pattern).map Segment.ofText :=
    List.mem_map.2 ⟨text, hmem, hwild.ofText_eq⟩
  obtain ⟨value, more, hbind⟩ := haligns.exists_bind? hmixed (mixed_ne_any text)
  rw [bind?_eq_none h] at hbind
  cases hbind

/-! ### Answers that do not depend on what is kept -/

namespace Matcher

structure Sound (m : Matcher) : Prop where
  nodup : (Assoc.keys m.compiled).Nodup
  ofText?_eq : ∀ {text p}, Assoc.find? m.compiled text = some p →
    SegmentPattern.ofText? text = some p

theorem sound_empty : Sound {} where
  nodup := List.nodup_nil
  ofText?_eq := fun h => nomatch h

structure Grown (m : Matcher) (reached : String → Prop) (m' : Matcher) : Prop where
  sound : m'.Sound
  mem_keys_iff : ∀ text, text ∈ Assoc.keys m'.compiled ↔
    text ∈ Assoc.keys m.compiled ∨ reached text ∧ Compilable text

section grown

variable {m : Matcher} {text : String} {p : SegmentPattern} {reached : String → Prop}

theorem Sound.unchanged (hm : m.Sound)
    (h : ∀ text, reached text → Compilable text → text ∈ Assoc.keys m.compiled) :
    m.Grown reached m where
  sound := hm
  mem_keys_iff := by
    intro text
    constructor
    · exact .inl
    · rintro (hkept | ⟨hreached, hcompilable⟩)
      · exact hkept
      · exact h text hreached hcompilable

theorem Sound.enter (hm : m.Sound) (hnew : Assoc.find? m.compiled text = none)
    (hp : SegmentPattern.ofText? text = some p) :
    m.Grown (fun t => text = t) { m with compiled := Assoc.put m.compiled text p } where
  sound := by
    refine ⟨Assoc.nodup_keys_put hm.nodup text p, ?_⟩
    intro t q ht
    rw [Assoc.find?_put] at ht
    split at ht
    · next heq => rw [heq, hp, ht]
    · exact hm.ofText?_eq ht
  mem_keys_iff := by
    intro t
    have hcompilable : Compilable text := by
      rw [Compilable, hp]
      rfl
    rw [Assoc.keys_put, if_neg (Assoc.find?_eq_none_iff.1 hnew), List.mem_append,
      List.mem_singleton]
    constructor
    · rintro (ht | rfl)
      · exact .inl ht
      · exact .inr ⟨rfl, hcompilable⟩
    · rintro (ht | ⟨rfl, -⟩)
      · exact .inl ht
      · exact .inr rfl

end grown

/-- Whatever the matcher has kept, the answer is this one, and then it keeps what was reached. -/
def Transparent {α : Type} (ask : StateM Matcher α) (answer : α) (reached : String → Prop) :
    Prop :=
  ∀ m : Matcher, m.Sound → ∃ m', ask m = (answer, m') ∧ m.Grown reached m'

namespace Transparent

variable {α β : Type} {ask : StateM Matcher α} {answer : α} {reached reached' : String → Prop}

theorem of_iff (h : Transparent ask answer reached) (hiff : ∀ text, reached' text ↔ reached text) :
    Transparent ask answer reached' := by
  rw [show reached' = reached from funext fun text => propext (hiff text)]
  exact h

theorem pure_of_not (answer : α) (h : ∀ text, ¬reached text) :
    Transparent (Pure.pure answer) answer reached := by
  intro m hm
  refine ⟨m, rfl, hm.unchanged ?_⟩
  intro text hreached
  exact absurd hreached (h text)

theorem pure (answer : α) : Transparent (Pure.pure answer) answer fun _ => False :=
  pure_of_not answer fun _ => id

theorem bind {goOn : α → StateM Matcher β} {answer' : β} (h : Transparent ask answer reached)
    (h' : Transparent (goOn answer) answer' reached') :
    Transparent (ask >>= goOn) answer' fun text => reached text ∨ reached' text := by
  intro m hm
  obtain ⟨m', hask, hgrown⟩ := h m hm
  obtain ⟨m'', hgoOn, hgrown'⟩ := h' m' hgrown.sound
  have hrun : (ask >>= goOn) m = goOn (ask m).1 (ask m).2 := rfl
  refine ⟨m'', ?_, hgrown'.sound, fun text => ?_⟩
  · rw [hrun, hask, hgoOn]
  · rw [hgrown'.mem_keys_iff, hgrown.mem_keys_iff, or_assoc, or_and_right]

theorem map (f : α → β) (h : Transparent ask answer reached) :
    Transparent (do return f (← ask)) (f answer) reached := by
  refine (h.bind (pure (f answer))).of_iff fun text => ?_
  rw [or_false]

end Transparent

theorem segment?_run (text : String) (m : Matcher) : segment? text m =
    match Assoc.find? m.compiled text with
    | some p => (some p, m)
    | none =>
      match SegmentPattern.ofText? text with
      | some p => (some p, { m with compiled := Assoc.put m.compiled text p })
      | none => (none, m) := by
  rw [segment?]
  simp only [Bind.bind, StateT.bind, get, getThe, MonadStateOf.get, StateT.get, Pure.pure]
  cases Assoc.find? m.compiled text with
  | some p => rfl
  | none => cases SegmentPattern.ofText? text <;> rfl

/-- A text is compiled at most once, and it is kept only if it can be compiled. -/
theorem segment?_transparent (text : String) :
    Transparent (segment? text) (SegmentPattern.ofText? text) fun t => text = t := by
  intro m hm
  rw [segment?_run]
  cases hfind : Assoc.find? m.compiled text with
  | some p =>
    refine ⟨m, by rw [hm.ofText?_eq hfind], hm.unchanged ?_⟩
    rintro t rfl -
    rw [← Assoc.contains_iff_mem_keys, Assoc.contains, hfind]
    rfl
  | none =>
    cases hp : SegmentPattern.ofText? text with
    | some p => exact ⟨_, rfl, hm.enter hfind hp⟩
    | none =>
      refine ⟨m, rfl, hm.unchanged ?_⟩
      rintro t rfl hcompilable
      rw [Compilable, hp] at hcompilable
      cases hcompilable

theorem bindSegment?_transparent (s : Segment) (value : String) :
    Transparent (bindSegment? s value) (s.bind? value) fun text => s = .mixed text := by
  cases s with
  | mixed text =>
    refine ((segment?_transparent text).map (·.bind (·.bind? value))).of_iff fun t => ?_
    rw [Segment.mixed.injEq]
  | any => exact .pure_of_not none fun _ => Segment.noConfusion
  | capture name => exact .pure_of_not _ fun _ => Segment.noConfusion
  | literal text => exact .pure_of_not _ fun _ => Segment.noConfusion

theorem firstRun?_transparent {vars : Bindings} {ss : List Segment}
    (h : ∀ values, Transparent (align? vars ss values) (Path.align? vars ss values)
      fun text => Reaches ss values (.mixed text)) (values : List String) :
    Transparent (firstRun? vars ss values) (Path.firstRun? vars ss values)
      fun text => Reaches (.any :: ss) values (.mixed text) := by
  induction values with
  | nil =>
    rw [firstRun?, Path.firstRun?]
    exact (h []).of_iff fun text => iff_of_false Reaches.not_nil_values Reaches.not_nil_values
  | cons value values ih =>
    have hask := h (value :: values)
    have hfound := (align?_finds vars ss (value :: values)).isSome_iff
    rw [firstRun?, Path.firstRun?]
    cases hempty : Path.align? vars ss (value :: values) with
    | some found =>
      rw [hempty] at hask hfound
      obtain ⟨runs, made, haligns⟩ := hfound.1 rfl
      refine Transparent.of_iff (Transparent.bind hask (.pure (some found))) fun text => ?_
      rw [Reaches.any_cons_iff (mixed_ne_any text), or_false]
      exact or_iff_left fun hlonger => hlonger.1 runs made haligns
    | none =>
      rw [hempty] at hask hfound
      have hnone (runs : List Nat) (made : Bindings) : ¬Aligns ss (value :: values) runs made :=
        fun haligns => Bool.false_ne_true (hfound.2 ⟨runs, made, haligns⟩)
      refine Transparent.of_iff (Transparent.bind hask ih) fun text => ?_
      rw [Reaches.any_cons_iff (mixed_ne_any text), and_iff_right hnone]

/-- What an attempt has kept stays where the attempt is given up; it is what the next attempt
would compile again. The induction is over the segments, as in `Path.align?_finds`. -/
theorem align?_transparent (vars : Bindings) (ss : List Segment) (values : List String) :
    Transparent (align? vars ss values) (Path.align? vars ss values)
      fun text => Reaches ss values (.mixed text) := by
  induction ss generalizing vars values with
  | nil =>
    cases values with
    | nil =>
      rw [align?, Path.align?]
      exact .pure_of_not _ fun _ => Reaches.not_nil
    | cons value values =>
      rw [align?, Path.align?]
      exact .pure_of_not _ fun _ => Reaches.not_nil
  | cons s ss ih =>
    by_cases hs : s = .any
    · subst hs
      rw [align?, Path.align?]
      exact firstRun?_transparent (ih vars) values
    · cases values with
      | nil =>
        rw [align?.eq_4 _ _ _ hs, Path.align?.eq_4 _ _ _ hs]
        exact .pure_of_not _ fun _ => Reaches.not_nil_values
      | cons value values =>
        have hask := bindSegment?_transparent s value
        rw [align?.eq_5 _ _ _ _ _ hs, Path.align?.eq_5 _ _ _ _ _ hs]
        cases hbind : s.bind? value with
        | some more =>
          rw [hbind] at hask
          refine Transparent.of_iff
            (Transparent.bind hask (ih (Assoc.putAll vars more) values)) fun text => ?_
          rw [Reaches.one_cons_iff hs, and_iff_right ⟨more, hbind⟩]
        | none =>
          rw [hbind] at hask
          refine Transparent.of_iff (Transparent.bind hask (.pure none)) fun text => ?_
          rw [Reaches.one_cons_iff hs, hbind]
          apply or_congr_right
          constructor
          · rintro ⟨⟨more, hmore⟩, -⟩
            cases hmore
          · exact False.elim

end Matcher

/-! ### Questions -/

/-- What a matcher is asked: whether a path matches a pattern, what is bound then, and which of
two patterns comes first for a path. -/
inductive Question where
  | isMatch (pattern path : String)
  | bindings (pattern path : String)
  | order (path a b : String)
  deriving DecidableEq, Repr

inductive Answer where
  | isMatch (matched : Bool)
  | bindings (found : Option Bindings)
  | order (o : Ordering)
  deriving DecidableEq, Repr

namespace Question

def answer : Question → Answer
  | isMatch pattern path => .isMatch (Path.isMatch pattern path)
  | bindings pattern path => .bindings (bindings? pattern path)
  | order path a b => .order (comparePatterns path a b)

def Reaches : Question → String → Prop
  | isMatch pattern path, text | bindings pattern path, text =>
    Path.Reaches ((segments pattern).map Segment.ofText) (segments path) (Segment.ofText text)
  | order _ _ _, _ => False

end Question

namespace Matcher

def ask : Question → StateM Matcher Answer
  | .isMatch pattern path => return .isMatch (← bindings? pattern path).isSome
  | .bindings pattern path => return .bindings (← bindings? pattern path)
  | .order path a b => return .order (comparePatterns path a b)

def askAll (history : List Question) : StateM Matcher (List Answer) :=
  history.mapM ask

theorem bindings?_transparent (pattern path : String) :
    Transparent (bindings? pattern path) (Path.bindings? pattern path) fun text =>
      Wildcard text ∧ Reaches ((segments pattern).map Segment.ofText) (segments path)
        (Segment.ofText text) := by
  refine (align?_transparent [] _ _).of_iff fun text => ?_
  constructor
  · rintro ⟨hwild, hreaches⟩
    rwa [hwild.ofText_eq] at hreaches
  · intro hreaches
    obtain ⟨s, -, hs⟩ := List.mem_map.1 hreaches.mem
    obtain ⟨rfl, hwild⟩ := ofText_eq_mixed_iff.1 hs
    rw [hwild.ofText_eq]
    exact ⟨hwild, hreaches⟩

theorem ask_transparent (q : Question) :
    Transparent (ask q) q.answer fun text => Wildcard text ∧ q.Reaches text := by
  cases q with
  | isMatch pattern path =>
    exact (bindings?_transparent pattern path).map fun found => Answer.isMatch found.isSome
  | bindings pattern path =>
    exact (bindings?_transparent pattern path).map Answer.bindings
  | order path a b => exact .pure_of_not _ fun _ h => h.2

theorem askAll_transparent (history : List Question) :
    Transparent (askAll history) (history.map Question.answer) fun text =>
      Wildcard text ∧ ∃ q ∈ history, q.Reaches text := by
  induction history with
  | nil =>
    apply Transparent.pure_of_not
    rintro text ⟨-, q, hq, -⟩
    cases hq
  | cons q history ih =>
    rw [askAll, List.mapM_cons]
    refine Transparent.of_iff ((ask_transparent q).bind (ih.map (q.answer :: ·))) fun text => ?_
    rw [List.exists_mem_cons_iff, and_or_left]

/-- A segment that cannot be compiled is tried again each time, and nothing is kept of that. -/
theorem bindSegment?_of_not_compilable {m : Matcher} (hm : m.Sound) {text : String}
    (h : ¬Compilable text) (value : String) :
    bindSegment? (.mixed text) value m = (none, m) := by
  have hnone : SegmentPattern.ofText? text = none := Option.not_isSome_iff_eq_none.1 h
  have hfind : Assoc.find? m.compiled text = none := by
    cases hkept : Assoc.find? m.compiled text with
    | none => rfl
    | some p => exact absurd ((hm.ofText?_eq hkept).symm.trans hnone) (Option.some_ne_none p)
  have hask : segment? text m = (none, m) := by
    rw [segment?_run, hfind, hnone]
  have hrun : bindSegment? (.mixed text) value m =
      ((segment? text m).1.bind (·.bind? value), (segment? text m).2) := rfl
  rw [hrun, hask]
  rfl

/-! ### A matcher after any questions -/

/-- The wildcard segments that a question of the history has come to and that can be compiled. -/
def compiledBy (history : List Question) : Set String :=
  {text | Wildcard text ∧ (∃ q ∈ history, q.Reaches text) ∧ Compilable text}

structure Faithful (history : List Question) (answers : List Answer) (m : Matcher) : Prop where
  as_fresh : answers = history.map fun q => (ask q {}).1
  without_matcher : answers = history.map Question.answer
  nodup : (Assoc.keys m.compiled).Nodup
  mem_keys_iff : ∀ text, text ∈ Assoc.keys m.compiled ↔ text ∈ compiledBy history
  length_eq : m.compiled.length = (compiledBy history).ncard
  debugText_eq : m.debugText = Text.rendered "AntPathMatcher"
    [("cached_segments", toString (compiledBy history).ncard)]
  /-- A wildcard segment that cannot be compiled is not kept, fails on every value, and lets no
  path match. -/
  fails : ∀ text, Wildcard text → ¬Compilable text → text ∉ Assoc.keys m.compiled ∧
    (∀ value, bindSegment? (Segment.ofText text) value m = (none, m)) ∧
    ∀ pattern, text ∈ segments pattern → ∀ path, (bindings? pattern path m).1 = none

theorem length_compiled_eq_ncard {m : Matcher} {kept : Set String}
    (hnodup : (Assoc.keys m.compiled).Nodup)
    (hkept : ∀ text, text ∈ Assoc.keys m.compiled ↔ text ∈ kept) :
    m.compiled.length = kept.ncard := by
  have hset : kept = ((Assoc.keys m.compiled).toFinset : Set String) := by
    ext text
    rw [Finset.mem_coe, List.mem_toFinset, hkept]
  rw [hset, Set.ncard_coe_finset, List.toFinset_card_of_nodup hnodup, Assoc.keys, List.length_map]

/-- A matcher may be asked anything in any order: it answers as a fresh one would, and it holds
what the questions so far have come to and could be compiled. -/
theorem askAll_faithful (history : List Question) :
    Faithful history (askAll history {}).1 (askAll history {}).2 := by
  obtain ⟨m, hrun, hsound, hkeys⟩ := askAll_transparent history {} sound_empty
  have hkept (text : String) : text ∈ Assoc.keys m.compiled ↔ text ∈ compiledBy history := by
    rw [hkeys, and_assoc]
    exact or_iff_right List.not_mem_nil
  have hlength := length_compiled_eq_ncard hsound.nodup hkept
  rw [hrun]
  refine ⟨?_, rfl, hsound.nodup, hkept, hlength, ?_, ?_⟩
  · refine List.map_congr_left fun q _ => ?_
    obtain ⟨m', hq, -⟩ := ask_transparent q {} sound_empty
    rw [hq]
  · rw [debugText, hlength]
  · intro text hwild hfails
    refine ⟨fun hmem => hfails ((hkept text).1 hmem).2.2, fun value => ?_, ?_⟩
    · rw [hwild.ofText_eq]
      exact bindSegment?_of_not_compilable hsound hfails value
    · intro pattern hmem path
      obtain ⟨m', hbindings, -⟩ := bindings?_transparent pattern path m hsound
      rw [hbindings, bindings?_eq_none hwild hfails hmem]

end Matcher

end RequestDispatch.Path
