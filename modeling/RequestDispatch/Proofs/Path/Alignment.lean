import RequestDispatch.Path.Match

/-! # Alignments of a path with a pattern

A path matches a pattern exactly if their segments align, and the bindings are those of the first
alignment: the one whose runs for `**` come first when they are compared from left to right. One
map that every segment writes into ends with the same bindings, since a `**` works on copies. -/
namespace RequestDispatch.Path

/-! ### Alignments -/

/-- The values line up with the segments where the `**` segments take runs of these lengths, and
each of the others takes one value. What is bound on the way is collected in order. -/
inductive Aligns : List Segment → List String → List Nat → Bindings → Prop where
  | nil : Aligns [] [] [] []
  | any {ss values runs made} (taken : List String) : Aligns ss values runs made →
      Aligns (.any :: ss) (taken ++ values) (taken.length :: runs) made
  | one {s ss value values runs more made} : s.bind? value = some more →
      Aligns ss values runs made → Aligns (s :: ss) (value :: values) runs (more ++ made)

/-- Where the lengths of runs differ first, compared from left to right, these are the shorter. -/
def ShorterFirst : List Nat → List Nat → Prop
  | [], _ => True
  | _ :: _, [] => False
  | n :: runs, n' :: others => n < n' ∨ n = n' ∧ ShorterFirst runs others

theorem ShorterFirst.antisymm {runs others : List Nat} (h : ShorterFirst runs others)
    (h' : ShorterFirst others runs) : runs = others := by
  induction runs generalizing others with
  | nil =>
    cases others with
    | nil => rfl
    | cons => exact h'.elim
  | cons n runs ih =>
    cases others with
    | nil => exact h.elim
    | cons n' others =>
      rcases h with hlt | ⟨rfl, hrest⟩
      · rcases h' with hlt' | ⟨rfl, -⟩ <;> omega
      · rcases h' with hlt' | ⟨-, hrest'⟩
        · omega
        · rw [ih hrest hrest']

/-- No other alignment has runs before these. -/
structure FirstAlignment (ss : List Segment) (values : List String) (runs : List Nat)
    (made : Bindings) : Prop where
  aligns : Aligns ss values runs made
  least : ∀ {others more}, Aligns ss values others more → ShorterFirst runs others

/-- What a search on top of `vars` finds: the bindings of the first alignment, or nothing if there
is no alignment. -/
inductive Finds (vars : Bindings) (ss : List Segment) (values : List String) :
    Option Bindings → Prop where
  | found {runs made} : FirstAlignment ss values runs made →
      Finds vars ss values (some (Assoc.putAll vars made))
  | nothing : (∀ runs made, ¬Aligns ss values runs made) → Finds vars ss values none

section alignments

variable {s : Segment} {ss : List Segment} {value : String} {values : List String}
  {runs : List Nat} {made : Bindings}

theorem ne_any_of_bind? {more : Bindings} (h : s.bind? value = some more) : s ≠ .any := by
  rintro rfl
  cases h

namespace Aligns

theorem nil_iff : Aligns [] values runs made ↔ values = [] ∧ runs = [] ∧ made = [] := by
  constructor
  · rintro ⟨⟩
    exact ⟨rfl, rfl, rfl⟩
  · rintro ⟨rfl, rfl, rfl⟩
    exact .nil

theorem any_iff : Aligns (.any :: ss) values runs made ↔
    ∃ taken rest later, values = taken ++ rest ∧ runs = taken.length :: later ∧
      Aligns ss rest later made := by
  constructor
  · intro h
    cases h with
    | any taken h => exact ⟨taken, _, _, rfl, rfl, h⟩
    | one hbind => cases hbind
  · rintro ⟨taken, rest, later, rfl, rfl, h⟩
    exact .any taken h

theorem one_iff (hs : s ≠ .any) : Aligns (s :: ss) values runs made ↔
    ∃ value rest more later, values = value :: rest ∧ made = more ++ later ∧
      s.bind? value = some more ∧ Aligns ss rest runs later := by
  constructor
  · intro h
    cases h with
    | any => exact absurd rfl hs
    | one hbind h => exact ⟨_, _, _, _, rfl, rfl, hbind, h⟩
  · rintro ⟨value, rest, more, later, rfl, rfl, hbind, h⟩
    exact .one hbind h

theorem any_cons_iff : Aligns (.any :: ss) (value :: values) runs made ↔
    (∃ later, runs = 0 :: later ∧ Aligns ss (value :: values) later made) ∨
      ∃ n later, runs = (n + 1) :: later ∧ Aligns (.any :: ss) values (n :: later) made := by
  rw [any_iff]
  constructor
  · rintro ⟨_ | ⟨first, taken⟩, rest, later, hvalues, rfl, h⟩
    · exact .inl ⟨later, rfl, hvalues ▸ h⟩
    · obtain ⟨rfl, rfl⟩ := List.cons.inj hvalues
      exact .inr ⟨taken.length, later, rfl, .any taken h⟩
  · rintro (⟨later, rfl, h⟩ | ⟨n, later, rfl, h⟩)
    · exact ⟨[], value :: values, later, rfl, rfl, h⟩
    · obtain ⟨taken, rest, _, rfl, hruns, hrest⟩ := any_iff.1 h
      obtain ⟨rfl, rfl⟩ := List.cons.inj hruns
      exact ⟨value :: taken, rest, _, rfl, rfl, hrest⟩

theorem unique {other : Bindings} (h : Aligns ss values runs made)
    (hother : Aligns ss values runs other) : made = other := by
  induction h generalizing other with
  | nil => exact (nil_iff.1 hother).2.2.symm
  | any taken _ ih =>
    obtain ⟨taken', rest, later, hvalues, hruns, hrest⟩ := any_iff.1 hother
    obtain ⟨hlength, rfl⟩ := List.cons.inj hruns
    obtain ⟨-, rfl⟩ := List.append_inj hvalues hlength
    exact ih hrest
  | one hbind _ ih =>
    have hs := ne_any_of_bind? hbind
    obtain ⟨_, _, more, later, hvalues, rfl, hbind', hrest⟩ := (one_iff hs).1 hother
    obtain ⟨rfl, rfl⟩ := List.cons.inj hvalues
    obtain rfl := Option.some.inj (hbind.symm.trans hbind')
    rw [ih hrest]

end Aligns

namespace FirstAlignment

theorem unique {others : List Nat} {other : Bindings} (h : FirstAlignment ss values runs made)
    (hother : FirstAlignment ss values others other) : made = other := by
  obtain rfl := (h.least hother.aligns).antisymm (hother.least h.aligns)
  exact h.aligns.unique hother.aligns

theorem one {more : Bindings} (hs : s ≠ .any) (hbind : s.bind? value = some more)
    (h : FirstAlignment ss values runs made) :
    FirstAlignment (s :: ss) (value :: values) runs (more ++ made) where
  aligns := .one hbind h.aligns
  least := by
    intro others _ hother
    obtain ⟨_, _, _, _, hvalues, -, -, hrest⟩ := (Aligns.one_iff hs).1 hother
    obtain ⟨rfl, rfl⟩ := List.cons.inj hvalues
    exact h.least hrest

theorem any_empty (h : FirstAlignment ss values runs made) :
    FirstAlignment (.any :: ss) values (0 :: runs) made where
  aligns := .any [] h.aligns
  least := by
    intro others _ hother
    obtain ⟨taken, rest, later, rfl, rfl, hrest⟩ := Aligns.any_iff.1 hother
    cases taken with
    | nil => exact .inr ⟨rfl, h.least hrest⟩
    | cons => exact .inl (Nat.succ_pos _)

theorem any_longer {n : Nat} (hempty : ∀ later more, ¬Aligns ss (value :: values) later more)
    (h : FirstAlignment (.any :: ss) values (n :: runs) made) :
    FirstAlignment (.any :: ss) (value :: values) ((n + 1) :: runs) made where
  aligns := Aligns.any_cons_iff.2 (.inr ⟨n, runs, rfl, h.aligns⟩)
  least := by
    intro others more hother
    rcases Aligns.any_cons_iff.1 hother with ⟨later, rfl, hrest⟩ | ⟨n', later, rfl, hrest⟩
    · exact absurd hrest (hempty later more)
    · rcases h.least hrest with hlt | ⟨rfl, hfirst⟩
      · exact .inl (Nat.succ_lt_succ hlt)
      · exact .inr ⟨rfl, hfirst⟩

end FirstAlignment

end alignments

/-! ### What is found -/

namespace Finds

variable {s : Segment} {ss : List Segment} {value : String} {values : List String}
  {vars : Bindings} {found : Option Bindings}

theorem any_nil (h : Finds vars ss [] found) : Finds vars (.any :: ss) [] found := by
  cases h with
  | found hfirst => exact .found hfirst.any_empty
  | nothing hnone =>
    refine .nothing fun runs made haligns => ?_
    obtain ⟨taken, rest, later, hvalues, -, hrest⟩ := Aligns.any_iff.1 haligns
    obtain ⟨-, rfl⟩ := List.append_eq_nil_iff.1 hvalues.symm
    exact hnone later made hrest

theorem any_cons {longer : Option Bindings} (h : Finds vars ss (value :: values) found)
    (hlonger : Finds vars (.any :: ss) values longer) :
    Finds vars (.any :: ss) (value :: values) (found.or longer) := by
  cases h with
  | found hfirst => exact .found hfirst.any_empty
  | nothing hempty =>
    rw [Option.none_or]
    cases hlonger with
    | found hfirst =>
      obtain ⟨taken, rest, later, -, rfl, -⟩ := Aligns.any_iff.1 hfirst.aligns
      exact .found (hfirst.any_longer hempty)
    | nothing hnone =>
      refine .nothing fun runs made haligns => ?_
      rcases Aligns.any_cons_iff.1 haligns with ⟨later, -, hrest⟩ | ⟨n, later, -, hrest⟩
      · exact hempty later made hrest
      · exact hnone (n :: later) made hrest

theorem one {more : Bindings} (hs : s ≠ .any) (hbind : s.bind? value = some more)
    (h : Finds (Assoc.putAll vars more) ss values found) :
    Finds vars (s :: ss) (value :: values) found := by
  cases h with
  | found hfirst =>
    rw [← Assoc.putAll_append]
    exact .found (hfirst.one hs hbind)
  | nothing hnone =>
    refine .nothing fun runs made haligns => ?_
    obtain ⟨_, _, _, later, hvalues, -, -, hrest⟩ := (Aligns.one_iff hs).1 haligns
    obtain ⟨rfl, rfl⟩ := List.cons.inj hvalues
    exact hnone runs later hrest

theorem one_of_none (hs : s ≠ .any) (hbind : s.bind? value = none) :
    Finds vars (s :: ss) (value :: values) none := by
  refine .nothing fun runs made haligns => ?_
  obtain ⟨_, _, _, _, hvalues, -, hsome, -⟩ := (Aligns.one_iff hs).1 haligns
  obtain ⟨rfl, rfl⟩ := List.cons.inj hvalues
  rw [hbind] at hsome
  cases hsome

theorem isSome_iff (h : Finds vars ss values found) :
    found.isSome = true ↔ ∃ runs made, Aligns ss values runs made := by
  cases h with
  | found hfirst => exact iff_of_true rfl ⟨_, _, hfirst.aligns⟩
  | nothing hnone =>
    exact iff_of_false Bool.false_ne_true fun ⟨runs, made, haligns⟩ => hnone runs made haligns

theorem eq_some_iff (h : Finds vars ss values found) {out : Bindings} :
    found = some out ↔
      ∃ runs made, out = Assoc.putAll vars made ∧ FirstAlignment ss values runs made := by
  cases h with
  | found hfirst =>
    constructor
    · intro hout
      exact ⟨_, _, (Option.some.inj hout).symm, hfirst⟩
    · rintro ⟨runs, made, rfl, hother⟩
      rw [hfirst.unique hother]
  | nothing hnone =>
    constructor
    · intro hout
      cases hout
    · rintro ⟨runs, made, -, hfirst⟩
      exact absurd hfirst.aligns (hnone runs made)

end Finds

theorem firstRun?_finds {vars : Bindings} {ss : List Segment}
    (h : ∀ values, Finds vars ss values (align? vars ss values)) (values : List String) :
    Finds vars (.any :: ss) values (firstRun? vars ss values) := by
  induction values with
  | nil =>
    rw [firstRun?]
    exact (h []).any_nil
  | cons value values ih =>
    rw [firstRun?]
    exact (h (value :: values)).any_cons ih

/-- The induction is over the segments; behind a `**` one over the values goes on inside it. -/
theorem align?_finds (vars : Bindings) (ss : List Segment) (values : List String) :
    Finds vars ss values (align? vars ss values) := by
  induction ss generalizing vars values with
  | nil =>
    cases values with
    | nil =>
      rw [align?]
      exact .found ⟨.nil, fun _ => trivial⟩
    | cons value values =>
      rw [align?]
      exact .nothing fun runs made h => List.cons_ne_nil value values (Aligns.nil_iff.1 h).1
  | cons s ss ih =>
    by_cases hs : s = .any
    · subst hs
      rw [align?]
      exact firstRun?_finds (ih vars) values
    · cases values with
      | nil =>
        rw [align?.eq_4 _ _ _ hs]
        refine .nothing fun runs made h => ?_
        obtain ⟨_, _, _, _, hvalues, -⟩ := (Aligns.one_iff hs).1 h
        cases hvalues
      | cons value values =>
        rw [align?.eq_5 _ _ _ _ _ hs]
        cases hbind : s.bind? value with
        | none => exact .one_of_none hs hbind
        | some more => exact (ih (Assoc.putAll vars more) values).one hs hbind

/-- A path matches what it is below: literals and then `**`. -/
theorem isMatch_below {pattern path : String} (front rest : List String)
    (hpattern : (segments pattern).map Segment.ofText = front.map .literal ++ [.any])
    (hpath : segments path = front ++ rest) : isMatch pattern path = true := by
  have haligns : Aligns (front.map .literal ++ [.any]) (front ++ rest) [rest.length] [] := by
    clear hpattern hpath
    induction front with
    | nil =>
      have hany := Aligns.any rest .nil
      rwa [List.append_nil] at hany
    | cons value front ih =>
      have hbind : (Segment.literal value).bind? value = some [] := if_pos rfl
      exact .one hbind ih
  rw [isMatch, bindings?, hpattern, hpath]
  exact (align?_finds [] _ _).isSome_iff.2 ⟨_, _, haligns⟩

/-! ### One map for all segments -/

def onCopy (work : StateM Bindings Bool) : StateM Bindings Bool := fun vars =>
  match work vars with
  | (true, copy) => (true, copy)
  | (false, _) => (false, vars)

def walkRun (goOn : List String → StateM Bindings Bool) : List String → StateM Bindings Bool
  | [] => onCopy (goOn [])
  | value :: values => do
    if ← onCopy (goOn (value :: values)) then return true else walkRun goOn values

/-- Lines the segments up with one map. A segment writes what it binds at once, and nothing is
taken back where the segments behind it do not line up. -/
def walk : List Segment → List String → StateM Bindings Bool
  | [], values => return values.isEmpty
  | .any :: ss, values => walkRun (walk ss) values
  | _ :: _, [] => return false
  | s :: ss, value :: values => do
    match s.bind? value with
    | some more =>
      modify (Assoc.putAll · more)
      walk ss values
    | none => return false

/-- A walk that fails leaves behind what it wrote. -/
example : walk [.capture "user", .literal "cart"] ["ada", "orders"] [] =
    (false, [("user", "ada")]) := rfl

def kept : Bool × Bindings → Option Bindings
  | (true, vars) => some vars
  | (false, _) => none

theorem kept_eq_some_iff {result : Bool × Bindings} {vars : Bindings} :
    kept result = some vars ↔ result = (true, vars) := by
  rcases result with ⟨_ | _, copy⟩ <;> simp [kept]

theorem kept_onCopy (work : StateM Bindings Bool) (vars : Bindings) :
    kept (onCopy work vars) = kept (work vars) := by
  rw [onCopy]
  rcases work vars with ⟨_ | _, copy⟩ <;> rfl

theorem onCopy_of_kept {work : StateM Bindings Bool} {vars : Bindings}
    (h : kept (work vars) = none) : onCopy work vars = (false, vars) := by
  rw [onCopy]
  rcases hwork : work vars with ⟨_ | _, copy⟩
  · rfl
  · rw [hwork] at h
    cases h

theorem kept_walkRun {ss : List Segment} {vars : Bindings}
    (h : ∀ values, kept (walk ss values vars) = align? vars ss values) (values : List String) :
    kept (walkRun (walk ss) values vars) = firstRun? vars ss values := by
  induction values with
  | nil => rw [walkRun, firstRun?, kept_onCopy, h]
  | cons value values ih =>
    have hstep : walkRun (walk ss) (value :: values) vars =
        if (onCopy (walk ss (value :: values)) vars).1 = true then
          (true, (onCopy (walk ss (value :: values)) vars).2)
        else walkRun (walk ss) values (onCopy (walk ss (value :: values)) vars).2 := by
      rw [walkRun]
      change (if (onCopy (walk ss (value :: values)) vars).1 = true then pure true
        else walkRun (walk ss) values : StateM Bindings Bool) _ = _
      split <;> rfl
    rw [hstep, firstRun?]
    cases hfound : align? vars ss (value :: values) with
    | none =>
      rw [onCopy_of_kept ((h _).trans hfound), Option.none_or]
      exact ih
    | some copy =>
      have hcopy := kept_eq_some_iff.1 ((kept_onCopy _ vars).trans ((h _).trans hfound))
      rw [hcopy, if_pos rfl]
      rfl

/-- Where a walk fails on the way to a `**`, the copy it worked on is dropped, so no alternative
sees what another has written. -/
theorem kept_walk (ss : List Segment) (values : List String) (vars : Bindings) :
    kept (walk ss values vars) = align? vars ss values := by
  induction ss generalizing values vars with
  | nil =>
    cases values with
    | nil => rw [walk, align?]; rfl
    | cons value values => rw [walk, align?]; rfl
  | cons s ss ih =>
    by_cases hs : s = .any
    · subst hs
      rw [align?]
      exact kept_walkRun (fun values => ih values vars) values
    · cases values with
      | nil => rw [walk.eq_3 _ _ hs, align?.eq_4 _ _ _ hs]; rfl
      | cons value values =>
        rw [walk.eq_4 _ _ _ _ hs, align?.eq_5 _ _ _ _ _ hs]
        cases s.bind? value with
        | none => rfl
        | some more => exact ih values (Assoc.putAll vars more)

/-! ### Patterns and paths -/

/-- The map has every name once, with the value that was bound to it last. -/
structure Latest (made vars : Bindings) : Prop where
  nodup : (Assoc.keys vars).Nodup
  find?_eq : ∀ name, Assoc.find? vars name = (made.reverse.find? fun e => e.1 = name).map (·.2)

theorem latest_ofList (made : Bindings) : Latest made (Assoc.ofList made) where
  nodup := Assoc.nodup_keys_putAll (m := []) List.nodup_nil made
  find?_eq name := by rw [Assoc.ofList, Assoc.find?_putAll, Assoc.find?_nil, Option.or_none]

/-- A path matches a pattern exactly if their segments align. What is bound then is what the first
alignment binds and nothing else, where the last value of a name counts; and one map into which
all segments write ends with the same. -/
theorem bindings?_of_first_alignment (pattern path : String) :
    ((bindings? pattern path).isSome = true ↔
      ∃ runs made, Aligns ((segments pattern).map Segment.ofText) (segments path) runs made) ∧
    (∀ vars, bindings? pattern path = some vars ↔
      ∃ runs made, vars = Assoc.ofList made ∧
        FirstAlignment ((segments pattern).map Segment.ofText) (segments path) runs made) ∧
    (∀ made, Latest made (Assoc.ofList made)) ∧
    ∀ vars, bindings? pattern path = some vars ↔
      walk ((segments pattern).map Segment.ofText) (segments path) [] = (true, vars) := by
  have hfinds := align?_finds [] ((segments pattern).map Segment.ofText) (segments path)
  have hwalk := kept_walk ((segments pattern).map Segment.ofText) (segments path) []
  rw [bindings?]
  refine ⟨hfinds.isSome_iff, fun vars => hfinds.eq_some_iff, latest_ofList, fun vars => ?_⟩
  rw [← hwalk, kept_eq_some_iff]

end RequestDispatch.Path
