import RequestDispatch.Proofs.Attempts
import RequestDispatch.Proofs.Registry.Indexes

/-! # Refused registrations

A registration is refused if another handler method has the descriptor, or else if the CORS
metadata derived for it contradict themselves. Both are found out before the first write, so a
registry that refuses a registration is left as it was. One that accepts it binds the descriptor
and leaves all other bindings alone. -/
namespace RequestDispatch.Registry

open Attempt (run_bind_ok run_bind_error forM_modify)
open Function (update_self update_of_ne)

variable {D : Type} [DecidableEq D]

def conflict (s : Strategy D) (d : D) (h held : HandlerMethod) : DispatchError :=
  .ambiguousMapping h.beanDescription h.text (s.render d) held.beanDescription held.text

/-! ### A registration in single steps -/

/-- A binding that the descriptor has must be of the same handler method, and the metadata that it
is to get must be valid. -/
def admission (s : Strategy D) (d : D) (h : HandlerMethod) (held? : Option Binding) :
    Except DispatchError Unit := do
  held?.forM fun held => unless held.handler.sameAs h do throw (conflict s d h held.handler)
  (s.corsFor h.source h.method d).forM CorsConfig.validate

def admitted (s : Strategy D) (naming? : Option (Naming D)) (d : D) (h : HandlerMethod) : Binding :=
  { handler := h
    directPaths := (s.directPaths d).eraseDups
    name? := naming?.bind fun naming => naming h d
    cors? := s.corsFor h.source h.method d }

abbrev Change (D : Type) := ExceptT DispatchError (StateM (Registry D))

/-- Releases what is replaced, writes the indexes entry after entry, and the binding last. -/
def writing (d : D) (held? : Option Binding) (b : Binding) : Change D Unit := do
  held?.forM fun held => modify (·.release d held)
  b.directPaths.forM fun path => modify fun r => { r with paths := addPath d r.paths path }
  b.name?.forM fun name => modify fun r => { r with names := addName r.names name b.handler }
  b.cors?.forM fun config => modify fun r =>
    { r with cors := Assoc.put r.cors b.handler.key config }
  modify fun r => { r with bindings := Assoc.put r.bindings d b }

def registering (s : Strategy D) (naming? : Option (Naming D)) (d : D) (source : HandlerSource)
    (method : Signature) : Change D Unit := do
  let h : HandlerMethod := ⟨source, method, none⟩
  let held? := (← get).binding? d
  liftM (admission s d h held?)
  writing d held? (admitted s naming? d h)

omit [DecidableEq D] in
theorem forM_addPath (d : D) (ps : List String) (r : Registry D) :
    (ps.forM fun path => modify fun r => { r with paths := addPath d r.paths path } :
      Change D Unit).run.run r = (.ok (), { r with paths := ps.foldl (addPath d) r.paths }) := by
  induction ps generalizing r with
  | nil => rfl
  | cons p ps ih => exact ih { r with paths := addPath d r.paths p }

variable {r : Registry D} {s : Strategy D} {naming? : Option (Naming D)} {d : D}
  {source : HandlerSource} {method : Signature} {h : HandlerMethod} {held? : Option Binding}

theorem writing_run (r : Registry D) (d : D) (held? : Option Binding) (b : Binding) :
    (writing d held? b).run.run r =
      (.ok (), (held?.elim r fun held => r.release d held).enter d b) := by
  unfold writing
  rw [run_bind_ok (forM_modify held? _ r), run_bind_ok (forM_addPath d b.directPaths _),
    run_bind_ok (forM_modify b.name? _ _), run_bind_ok (forM_modify b.cors? _ _)]
  unfold enter
  cases b.name? <;> cases b.cors? <;> rfl

/-- The checks look at the registry as it was found. -/
theorem registering_run (r : Registry D) (s : Strategy D) (naming? : Option (Naming D)) (d : D)
    (source : HandlerSource) (method : Signature) :
    (registering s naming? d source method).run.run r =
      ((liftM (admission s d ⟨source, method, none⟩ (r.binding? d)) : Change D Unit) >>= fun _ =>
        writing d (r.binding? d) (admitted s naming? d ⟨source, method, none⟩)).run.run r :=
  rfl

theorem registering_of_refused {e : DispatchError}
    (hrefused : admission s d ⟨source, method, none⟩ (r.binding? d) = .error e) :
    (registering s naming? d source method).run.run r = (.error e, r) := by
  rw [registering_run, hrefused]
  exact run_bind_error rfl

theorem registering_of_admitted
    (hadmitted : admission s d ⟨source, method, none⟩ (r.binding? d) = .ok ()) :
    (registering s naming? d source method).run.run r =
      (.ok (), ((r.binding? d).elim r fun held => r.release d held).enter d
        (admitted s naming? d ⟨source, method, none⟩)) := by
  rw [registering_run, hadmitted, ← writing_run]
  exact run_bind_ok rfl

/-- `register` makes the same checks, and what it returns is the registry after all steps. -/
theorem register_eq_admission (r : Registry D) (s : Strategy D) (naming? : Option (Naming D))
    (d : D) (source : HandlerSource) (method : Signature) :
    r.register s naming? d source method =
      (admission s d ⟨source, method, none⟩ (r.binding? d)).map fun _ =>
        ((r.binding? d).elim r fun held => r.release d held).enter d
          (admitted s naming? d ⟨source, method, none⟩) := by
  unfold register bindingFor admission admitted
  dsimp only
  cases r.binding? d with
  | none =>
    cases s.corsFor source method d with
    | none => rfl
    | some config =>
      dsimp only [Option.forM, Option.elim]
      cases config.validate <;> rfl
  | some held =>
    dsimp only [Option.forM, Option.elim]
    cases held.handler.sameAs ⟨source, method, none⟩ with
    | false => rfl
    | true =>
      cases s.corsFor source method d with
      | none => rfl
      | some config =>
        dsimp only [Option.forM, Option.elim]
        cases config.validate <;> rfl

/-! ### What is refused -/

def Taken (r : Registry D) (d : D) (h : HandlerMethod) : Prop :=
  ∃ held, r.binding? d = some held ∧ held.handler ≠ h

def Contradicted (s : Strategy D) (d : D) (h : HandlerMethod) : Prop :=
  ∃ config, s.corsFor h.source h.method d = some config ∧ config.Contradictory

omit [DecidableEq D] in
theorem admission_of_other {held : Binding} (hother : held.handler.sameAs h = false) :
    admission s d h (some held) = .error (conflict s d h held.handler) := by
  simp only [admission, Option.forM, hother]
  rfl

omit [DecidableEq D] in
theorem admission_of_same (hsame : ∀ held, held? = some held → held.handler.sameAs h = true) :
    admission s d h held? = (s.corsFor h.source h.method d).forM CorsConfig.validate := by
  cases held? with
  | none => rfl
  | some held =>
    simp only [admission, Option.forM, hsame held rfl]
    rfl

omit [DecidableEq D] in
theorem forM_validate_of_contradicted (hcors : Contradicted s d h) :
    (s.corsFor h.source h.method d).forM CorsConfig.validate =
      .error (.invalidCors CorsConfig.credentialsReason) := by
  obtain ⟨config, hconfig, hcontradictory⟩ := hcors
  rw [hconfig]
  exact hcontradictory.validate_eq

omit [DecidableEq D] in
theorem forM_validate_of_not_contradicted (hcors : ¬Contradicted s d h) :
    (s.corsFor h.source h.method d).forM CorsConfig.validate = .ok () := by
  cases hconfig : s.corsFor h.source h.method d with
  | none => rfl
  | some config =>
    apply CorsConfig.validate_of_not_contradictory
    intro hcontradictory
    exact hcors ⟨config, hconfig, hcontradictory⟩

/-- What comes of a registration: a refusal and the registry as it was, or the new binding and all
other bindings as they were. -/
structure AllOrNothing (r : Registry D) (s : Strategy D) (naming? : Option (Naming D)) (d : D)
    (h : HandlerMethod) (outcome : Except DispatchError Unit × Registry D) : Prop where
  refused_iff : (∃ e, outcome.1 = .error e) ↔ Taken r d h ∨ Contradicted s d h
  taken : ∀ held, r.binding? d = some held → held.handler ≠ h →
    outcome.1 = .error (conflict s d h held.handler)
  contradicted : ¬Taken r d h → Contradicted s d h →
    outcome.1 = .error (.invalidCors CorsConfig.credentialsReason)
  untouched : ∀ e, outcome.1 = .error e → outcome.2 = r
  bound : outcome.1 = .ok () → outcome.2.binding? d = some (admitted s naming? d h)
  others : outcome.1 = .ok () → ∀ d', d' ≠ d → outcome.2.binding? d' = r.binding? d'

theorem not_taken_sameAs (hr : Invariant r) (htaken : ¬Taken r d ⟨source, method, none⟩)
    (held : Binding) (hd : r.binding? d = some held) :
    held.handler.sameAs ⟨source, method, none⟩ = true := by
  by_contra hother
  apply htaken
  refine ⟨held, hd, ?_⟩
  intro hsame
  exact hother ((hr.sameAs_iff hd rfl).2 hsame)

theorem all_or_nothing_taken (hr : Invariant r) {held : Binding} (hd : r.binding? d = some held)
    (hne : held.handler ≠ ⟨source, method, none⟩) :
    AllOrNothing r s naming? d ⟨source, method, none⟩
      ((registering s naming? d source method).run.run r) := by
  have hother : held.handler.sameAs ⟨source, method, none⟩ = false := by
    rw [Bool.eq_false_iff]
    intro hsame
    exact hne ((hr.sameAs_iff hd rfl).1 hsame)
  have hrefused : admission s d ⟨source, method, none⟩ (r.binding? d) =
      .error (conflict s d ⟨source, method, none⟩ held.handler) := by
    rw [hd]
    exact admission_of_other hother
  have htaken : Taken r d ⟨source, method, none⟩ := ⟨held, hd, hne⟩
  rw [registering_of_refused hrefused]
  refine ⟨iff_of_true ⟨_, rfl⟩ (.inl htaken), ?_, fun h => absurd htaken h, fun _ _ => rfl,
    nofun, nofun⟩
  intro held' hd' _
  rw [hd] at hd'
  cases hd'
  rfl

theorem all_or_nothing_contradicted (hr : Invariant r)
    (htaken : ¬Taken r d ⟨source, method, none⟩)
    (hcors : Contradicted s d ⟨source, method, none⟩) :
    AllOrNothing r s naming? d ⟨source, method, none⟩
      ((registering s naming? d source method).run.run r) := by
  have hrefused : admission s d ⟨source, method, none⟩ (r.binding? d) =
      .error (.invalidCors CorsConfig.credentialsReason) := by
    rw [admission_of_same (not_taken_sameAs hr htaken)]
    exact forM_validate_of_contradicted hcors
  rw [registering_of_refused hrefused]
  exact ⟨iff_of_true ⟨_, rfl⟩ (.inr hcors), fun held hd hne => absurd ⟨held, hd, hne⟩ htaken,
    fun _ _ => rfl, fun _ _ => rfl, nofun, nofun⟩

theorem all_or_nothing_admitted (hr : Invariant r)
    (htaken : ¬Taken r d ⟨source, method, none⟩)
    (hcors : ¬Contradicted s d ⟨source, method, none⟩) :
    AllOrNothing r s naming? d ⟨source, method, none⟩
      ((registering s naming? d source method).run.run r) := by
  have hadmitted : admission s d ⟨source, method, none⟩ (r.binding? d) = .ok () := by
    rw [admission_of_same (not_taken_sameAs hr htaken)]
    exact forM_validate_of_not_contradicted hcors
  have hrelease : ∀ held? : Option Binding,
      (held?.elim r fun held => r.release d held).binding? = r.binding? := by
    rintro (_ | held) <;> rfl
  rw [registering_of_admitted hadmitted]
  refine ⟨iff_of_false nofun (not_or.2 ⟨htaken, hcors⟩), fun held hd hne =>
    absurd ⟨held, hd, hne⟩ htaken, fun _ h => absurd h hcors, nofun, fun _ => ?_, ?_⟩
  · rw [binding?_enter, update_self]
  · intro _ d' hne
    rw [binding?_enter, update_of_ne hne, hrelease]

theorem registering_all_or_nothing (hr : Invariant r) (s : Strategy D)
    (naming? : Option (Naming D)) (d : D) (source : HandlerSource) (method : Signature) :
    AllOrNothing r s naming? d ⟨source, method, none⟩
      ((registering s naming? d source method).run.run r) := by
  by_cases htaken : Taken r d ⟨source, method, none⟩
  · obtain ⟨held, hd, hne⟩ := htaken
    exact all_or_nothing_taken hr hd hne
  · by_cases hcors : Contradicted s d ⟨source, method, none⟩
    · exact all_or_nothing_contradicted hr htaken hcors
    · exact all_or_nothing_admitted hr htaken hcors

theorem register_eq_registering (r : Registry D) (s : Strategy D) (naming? : Option (Naming D))
    (d : D) (source : HandlerSource) (method : Signature) :
    let outcome := (registering s naming? d source method).run.run r
    r.register s naming? d source method = outcome.1.map fun _ => outcome.2 := by
  intro outcome
  rw [register_eq_admission]
  cases hadmission : admission s d ⟨source, method, none⟩ (r.binding? d) with
  | error e =>
    simp only [outcome, registering_of_refused hadmission, Except.map]
  | ok =>
    simp only [outcome, registering_of_admitted hadmission, Except.map]

/-- After any history, a registration is refused exactly if the descriptor is taken or the
metadata are contradictory. A refusal has written nothing, and a registration that goes through
binds its own descriptor and no other. -/
theorem register_all_or_nothing (history : List (Action D)) (s : Strategy D)
    (naming? : Option (Naming D)) (d : D) (source : HandlerSource) (method : Signature) :
    let r := runTrace .empty history
    let outcome := (registering s naming? d source method).run.run r
    r.register s naming? d source method = (outcome.1.map fun _ => outcome.2) ∧
      AllOrNothing r s naming? d ⟨source, method, none⟩ outcome := by
  intro r outcome
  have hr : Invariant r := runTrace_invariant empty_invariant history
  exact ⟨register_eq_registering r s naming? d source method,
    registering_all_or_nothing hr s naming? d source method⟩

end RequestDispatch.Registry
