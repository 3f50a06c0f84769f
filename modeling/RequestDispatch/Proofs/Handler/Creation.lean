import RequestDispatch.Proofs.Handler.History

/-! # When lazy beans are created

A lazy definition lasts until its name is declared anew or removed in its container. As long as it
lasts its factory is called for each request, until it succeeds; from then on it is never called
again. -/
namespace RequestDispatch.Containers

variable {depth : Nat} {c : Containers} {level owner : Nat} {name : String} {d : Definition}

/-! ### What one call does to one definition -/

/-- A request counts as one to the factory only of the definition that it reaches. -/
theorem callsOf_bean_of_ne (level : Nat) (name : String) {serial : Nat}
    (h : ∀ owner d, Nearest c level name owner d → c.serialAt? owner name ≠ some serial) :
    (c.bean level name).2.callsOf serial = c.callsOf serial := by
  rcases bean_cases c level name with ⟨-, hmissing⟩ | ⟨owner, d, hnearest, hsupplied⟩
  · rw [hmissing]
  · have hne : d.slot.serial? ≠ some serial := by
      rw [← serialAt?_of_definition? hnearest.defined]
      exact h owner d hnearest
    generalize c.bean level name = answer at hsupplied
    cases hsupplied with
    | held hheld => rfl
    | failed hcall => exact callsOf_countCall_of_ne fun he => hne (he ▸ rfl)
    | created hcall => exact callsOf_countCall_of_ne fun he => hne (he ▸ rfl)

/-- A request leaves alone all definitions but the one that it reaches. -/
theorem definition?_bean_of_ne (level : Nat) (n : String)
    (h : ∀ d', ¬(n = name ∧ Nearest c level n owner d')) :
    (c.bean level n).2.definition? owner name = c.definition? owner name := by
  rcases bean_cases c level n with ⟨-, hmissing⟩ | ⟨owner', d', hnearest, hsupplied⟩
  · rw [hmissing]
  · generalize c.bean level n = answer at hsupplied
    cases hsupplied with
    | held hheld => rfl
    | failed hcall => rfl
    | created hcall =>
      rw [definition?_keep (lt_of_definition? (hnearest.countCall _).defined), if_neg]
      · rfl
      · rintro ⟨rfl, rfl⟩
        exact h _ ⟨rfl, hnearest⟩

/-- The answer to the call, if it is a request for the name that gets to the container at `owner`. -/
def Call.answer? (c : Containers) (owner : Fin (depth + 1)) (name : String) :
    Call depth → Option (Except DispatchError Bean)
  | .bean level n =>
    if n = name ∧ c.Reaches level owner n then some (c.bean level n).1 else none
  | _ => none

variable {owner : Fin (depth + 1)} {call : Call depth} {serial : Nat}

theorem answer?_eq_some {answer : Except DispatchError Bean}
    (h : call.answer? c owner name = some answer) :
    ∃ level : Fin (depth + 1), call = .bean level name ∧ c.Reaches level owner name ∧
      answer = (c.bean level name).1 := by
  cases call with
  | bean level n =>
    rw [Call.answer?] at h
    split at h
    · next hasked =>
      obtain ⟨rfl, hreaches⟩ := hasked
      cases h
      exact ⟨level, rfl, hreaches, rfl⟩
    · cases h
  | declare | remove | names | typeOf => cases h

theorem not_nearest_of_answer?_eq_none {level : Fin (depth + 1)} {n : String}
    (h : (Call.bean level n).answer? c owner name = none) (d : Definition) :
    ¬(n = name ∧ Nearest c level n owner d) := by
  rintro ⟨rfl, hnearest⟩
  rw [Call.answer?, if_pos ⟨rfl, (nearest_iff.1 hnearest).1⟩] at h
  cases h

theorem definition?_perform (hc : Sound depth c) (hkept : call.redefines owner name = false)
    (hunasked : call.answer? c owner name = none) :
    (c.perform call).definition? owner name = c.definition? owner name := by
  cases call with
  | declare level d =>
    rw [perform, definition?_declare (hc.lt level), if_neg (ne_of_declare_keeps hkept)]
  | remove level n =>
    rw [perform, definition?_remove (hc.lt level), if_neg (ne_of_remove_keeps hkept)]
  | names => rfl
  | typeOf => rfl
  | bean level n => exact definition?_bean_of_ne level n (not_nearest_of_answer?_eq_none hunasked)

theorem callsOf_perform (hc : Sound depth c) (hserial : c.serialAt? owner name = some serial)
    (hunasked : call.answer? c owner name = none) :
    (c.perform call).callsOf serial = c.callsOf serial := by
  cases call with
  | declare level d => exact callsOf_declare c level d serial
  | remove => rfl
  | names => rfl
  | typeOf => rfl
  | bean level n =>
    refine callsOf_bean_of_ne level n fun k d hnearest hother => ?_
    obtain ⟨rfl, rfl⟩ := hc.own k n owner name serial hother hserial
    exact not_nearest_of_answer?_eq_none hunasked d ⟨rfl, hnearest⟩

/-! ### A definition that is gone -/

/-- No name stands for the lazy definition of this serial, and none ever will. -/
structure Gone (c : Containers) (serial : Nat) : Prop where
  nowhere : ∀ k n, c.serialAt? k n ≠ some serial
  past : serial < c.nextSerial

theorem Gone.perform (hc : Sound depth c) (h : Gone c serial) (call : Call depth) :
    Gone (c.perform call) serial ∧ (c.perform call).callsOf serial = c.callsOf serial := by
  cases call with
  | declare level d =>
    refine ⟨⟨fun k n hat => ?_, ?_⟩, callsOf_declare c level d serial⟩
    · rw [Containers.perform, serialAt?_declare (hc.lt level)] at hat
      split at hat
      · exact Nat.ne_of_lt h.past (eq_nextSerial_of_declared hat)
      · exact h.nowhere k n hat
    · exact (nextSerial_declare c level d).symm ▸ Nat.lt_succ_of_lt h.past
  | remove level name =>
    refine ⟨⟨fun k n hat => ?_, h.past⟩, rfl⟩
    rw [Containers.perform, serialAt?_remove (hc.lt level)] at hat
    split at hat
    · cases hat
    · exact h.nowhere k n hat
  | names => exact ⟨h, rfl⟩
  | typeOf => exact ⟨h, rfl⟩
  | bean level name =>
    refine ⟨⟨fun k n hat => ?_, ?_⟩, ?_⟩
    · rw [Containers.perform, serialAt?_bean] at hat
      exact h.nowhere k n hat
    · exact Nat.lt_of_lt_of_le h.past (nextSerial_le_bean c level name)
    · exact callsOf_bean_of_ne level name fun k _ _ => h.nowhere k name

theorem Gone.callsOf_run (hc : Sound depth c) (h : Gone c serial) (calls : List (Call depth)) :
    (c.run calls).callsOf serial = c.callsOf serial := by
  induction calls generalizing c with
  | nil => rfl
  | cons call rest ih =>
    obtain ⟨hgone, hcalls⟩ := h.perform hc call
    exact (ih (hc.perform call) hgone).trans hcalls

theorem gone_of_redefines (hc : Sound depth c) (hserial : c.serialAt? owner name = some serial)
    (h : call.redefines owner name = true) : Gone (c.perform call) serial := by
  have hpast : serial < c.nextSerial := hc.old serial (hc.recorded _ _ _ hserial)
  -- The definition was nowhere else, and what stands in its place has another serial.
  have helse : ∀ k n, ¬(k = owner.val ∧ n = name) → c.serialAt? k n ≠ some serial :=
    fun k n hne hat => hne (hc.own k n owner name serial hat hserial)
  cases call with
  | declare level d =>
    obtain ⟨rfl, rfl⟩ : level = owner ∧ d.name = name := by simpa [Call.redefines] using h
    refine ⟨fun k n hat => ?_, ?_⟩
    · rw [perform, serialAt?_declare (hc.lt level)] at hat
      split at hat
      · exact Nat.ne_of_lt hpast (eq_nextSerial_of_declared hat)
      · next hne => exact helse k n hne hat
    · exact (nextSerial_declare c level d).symm ▸ Nat.lt_succ_of_lt hpast
  | remove level n =>
    obtain ⟨rfl, rfl⟩ : level = owner ∧ n = name := by simpa [Call.redefines] using h
    refine ⟨fun k m hat => ?_, hpast⟩
    rw [perform, serialAt?_remove (hc.lt level)] at hat
    split at hat
    · cases hat
    · next hne => exact helse k m hne hat
  | names | typeOf | bean => cases h

/-! ### The tenure of a lazy definition -/

/-- The answers to the requests for `name` that get to the container at `owner`, until the name is
declared anew or removed there. -/
def answers (owner : Fin (depth + 1)) (name : String) (c : Containers) :
    List (Call depth) → List (Except DispatchError Bean)
  | [] => []
  | call :: rest =>
    if call.redefines owner name then []
    else (call.answer? c owner name).toList ++ answers owner name (c.perform call) rest

/-- `Tenure name factory n answers calls`: a lazy definition of `name` whose factory has failed
`n` times gives these answers, and then its factory has been called `calls` times. -/
inductive Tenure (name : String) (factory : Nat → Except DispatchError String) :
    Nat → List (Except DispatchError Bean) → Nat → Prop
  | unasked (n : Nat) : Tenure name factory n [] n
  /-- A failed call is answered, and the next request is another attempt. -/
  | failed {n calls : Nat} {answers : List (Except DispatchError Bean)} {e : DispatchError}
      (called : factory (n + 1) = .error e) (later : Tenure name factory (n + 1) answers calls) :
      Tenure name factory n (.error (.beanCreation name e.message) :: answers) calls
  /-- After the first success every later answer is that instance, without another call. -/
  | created {n : Nat} {label : String} (serial later : Nat) (called : factory (n + 1) = .ok label) :
      Tenure name factory n (List.replicate (later + 1) (.ok (.created serial label))) (n + 1)

theorem answers_of_redefines (hc : Sound depth c) (hserial : c.serialAt? owner name = some serial)
    (h : call.redefines owner name = true) (rest : List (Call depth)) :
    answers owner name c (call :: rest) = [] ∧
      (c.run (call :: rest)).callsOf serial = c.callsOf serial := by
  refine ⟨by rw [answers, if_pos h], ?_⟩
  have hunasked : call.answer? c owner name = none := by
    cases call with
    | declare | remove => rfl
    | names | typeOf | bean => cases h
  have hgone : Gone (c.perform call) serial := gone_of_redefines hc hserial h
  calc ((c.perform call).run rest).callsOf serial
      = (c.perform call).callsOf serial := hgone.callsOf_run (hc.perform call) rest
    _ = c.callsOf serial := callsOf_perform hc hserial hunasked

theorem answers_of_answer? {answer : Except DispatchError Bean}
    (h : call.answer? c owner name = some answer) (rest : List (Call depth)) :
    answers owner name c (call :: rest) = answer :: answers owner name (c.perform call) rest := by
  obtain ⟨level, rfl, -, -⟩ := answer?_eq_some h
  rw [answers, if_neg nofun, h]
  rfl

theorem answers_of_unasked (hkept : call.redefines owner name = false)
    (h : call.answer? c owner name = none) (rest : List (Call depth)) :
    answers owner name c (call :: rest) = answers owner name (c.perform call) rest := by
  rw [answers, if_neg (by rw [hkept]; nofun), h]
  rfl

/-- A definition that holds its bean gives it to all who ask. -/
theorem answers_of_held {b : Bean} {factory : Nat → Except DispatchError String}
    (hc : Sound depth c) (calls : List (Call depth)) {type? : Option BeanType}
    (hdefined : c.definition? owner name = some ⟨type?, .lazy serial factory (some b)⟩) :
    ∃ later, answers owner name c calls = List.replicate later (.ok b) ∧
      (c.run calls).callsOf serial = c.callsOf serial := by
  induction calls generalizing c with
  | nil => exact ⟨0, rfl, rfl⟩
  | cons call rest ih =>
    have hserial : c.serialAt? owner name = some serial := serialAt?_of_definition? hdefined
    by_cases hredefined : call.redefines owner name = true
    · exact ⟨0, answers_of_redefines hc hserial hredefined rest⟩
    have hkept : call.redefines owner name = false := eq_false_of_ne_true hredefined
    cases hanswer : call.answer? c owner name with
    | none =>
      rw [answers_of_unasked hkept hanswer]
      obtain ⟨later, hlater, hcalls⟩ := ih (hc.perform call)
        ((definition?_perform hc hkept hanswer).trans hdefined)
      exact ⟨later, hlater, hcalls.trans (callsOf_perform hc hserial hanswer)⟩
    | some answer =>
      rw [answers_of_answer? hanswer]
      obtain ⟨level, rfl, hreaches, rfl⟩ := answer?_eq_some hanswer
      have hnearest := nearest_iff.2 ⟨hreaches, hdefined⟩
      have hbean : c.bean level name = (.ok b, c) := hnearest.bean_of_held rfl
      obtain ⟨later, hlater, hcalls⟩ := ih hc hdefined
      have hsame : c.perform (.bean level name : Call depth) = c := congrArg Prod.snd hbean
      refine ⟨later + 1, ?_, ?_⟩
      · rw [hsame, hlater, hbean, List.replicate_succ]
      · rw [run, List.foldl_cons, hsame]
        exact hcalls

theorem tenure_of_unmade {factory : Nat → Except DispatchError String} (hc : Sound depth c)
    (calls : List (Call depth)) {type? : Option BeanType}
    (hdefined : c.definition? owner name = some ⟨type?, .lazy serial factory none⟩) :
    Tenure name factory (c.callsOf serial) (answers owner name c calls)
      ((c.run calls).callsOf serial) := by
  induction calls generalizing c with
  | nil => exact .unasked _
  | cons call rest ih =>
    have hserial : c.serialAt? owner name = some serial := serialAt?_of_definition? hdefined
    by_cases hredefined : call.redefines owner name = true
    · obtain ⟨hnone, hcalls⟩ := answers_of_redefines hc hserial hredefined rest
      rw [hnone, hcalls]
      exact .unasked _
    have hkept : call.redefines owner name = false := eq_false_of_ne_true hredefined
    cases hanswer : call.answer? c owner name with
    | none =>
      rw [answers_of_unasked hkept hanswer, ← callsOf_perform hc hserial hanswer]
      exact ih (hc.perform call) ((definition?_perform hc hkept hanswer).trans hdefined)
    | some answer =>
      rw [answers_of_answer? hanswer]
      obtain ⟨level, rfl, hreaches, rfl⟩ := answer?_eq_some hanswer
      have hnearest := nearest_iff.2 ⟨hreaches, hdefined⟩
      have hcount : (c.countCall serial).callsOf serial = c.callsOf serial + 1 :=
        callsOf_countCall_self (hc.recorded _ _ _ hserial)
      have hsound : Sound depth (c.bean level name).2 := hc.bean level name
      have hsupplied := hnearest.supplied
      rw [run, List.foldl_cons]
      change Tenure name factory _ ((c.bean level name).1 :: answers owner name
        (c.bean level name).2 rest) (((c.bean level name).2.run rest).callsOf serial)
      generalize c.bean level name = asked at hsupplied hsound
      cases hsupplied with
      | held hheld => cases hheld
      | failed hcall =>
        rw [hcount] at hcall
        have hrest := ih hsound hdefined
        rw [hcount] at hrest
        exact .failed hcall hrest
      | created hcall =>
        rw [hcount] at hcall
        obtain ⟨later, hlater, hcalls⟩ := answers_of_held hsound rest
          ((hnearest.countCall _).keep _).defined
        dsimp only at hlater hcalls ⊢
        rw [hlater, hcalls.trans hcount]
        exact .created c.nextSerial later hcall

/-- Whatever is called in whatever order on a chain of containers, each container has what was last
declared there, names are listed and answered by the nearest container, and each lazy definition
serves its tenure. -/
theorem answered_in_every_history (depth : Nat) :
    (∀ (calls : List (Call depth)) (level : Fin (depth + 1)),
      Shadowing ((chain depth).run calls) level ∧
      ∀ name d, ((chain depth).run calls).declaredAt? level name = some d ↔
        ∃ before supply, DeclaredLast calls level name before supply ∧
          d = ((chain depth).run before).declared ⟨name, supply⟩) ∧
    ∀ (before after : List (Call depth)) (owner : Fin (depth + 1)) (name : String)
      (type? : Option BeanType) (factory : Nat → Except DispatchError String),
      let c := (chain depth).run before
      let c' := c.declare owner ⟨name, .lazy type? factory⟩
      Tenure name factory 0 (answers owner name c' after) ((c'.run after).callsOf c.nextSerial) := by
  refine ⟨fun calls level => ?_, fun before after owner name type? factory => ?_⟩
  · exact ⟨shadowing ((sound_chain depth).run calls).keys_nodup level,
      declaredAt?_run_iff calls level⟩
  · intro c c'
    have hc : Sound depth c := (sound_chain depth).run before
    have hdefined : c'.definition? owner name = some ⟨type?, .lazy c.nextSerial factory none⟩ := by
      rw [definition?_declare (hc.lt owner), if_pos ⟨rfl, rfl⟩]
      rfl
    -- The new definition is on record without calls.
    have hnew : c.nextSerial ∉ c.serials := fun h => Nat.lt_irrefl _ (hc.old _ h)
    have hcalls : c'.callsOf c.nextSerial = 0 :=
      (callsOf_declare c owner _ _).trans (callsOf_of_notMem hnew)
    rw [← hcalls]
    exact tenure_of_unmade (hc.declare owner _) after hdefined

/-- The parent's repository cannot be created at first, and the child asks for it again. -/
example :
    let declared := (chain 1).declare 1 ⟨"repo", .lazy none fun call =>
      if call = 1 then .error (.configuration "no disk") else .ok "repo"⟩
    answers 1 "repo" declared ([.bean 0 "repo", .bean 1 "repo", .bean 0 "repo"] : List (Call 1)) =
      [.error (.beanCreation "repo" "Configuration error: no disk"), .ok (.created 1 "repo"),
        .ok (.created 1 "repo")] := by
  rfl

end RequestDispatch.Containers
