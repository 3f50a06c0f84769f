import RequestDispatch.Proofs.Mapping.Discovery
import RequestDispatch.Proofs.Registry.Refusal

/-!
# Detection for one type

All methods of the type are described before the first is registered, so one that cannot be
described leaves the registry as it was. The registrations are made one after another. Each is all
or nothing, but they are not so together: the first that is refused ends the detection, and what was
registered before it stays registered.
-/
namespace RequestDispatch

open Function (update update_self update_of_ne)

variable {D : Type} [DecidableEq D]

namespace Registry

def registerEach (r : Registry D) (s : Strategy D) (naming? : Option (Naming D))
    (source : HandlerSource) (es : List (D × Signature)) : Except DispatchError (Registry D) :=
  es.foldlM (fun r e => r.register s naming? e.1 source e.2) r

theorem registerEach_concat {r r' : Registry D} {s : Strategy D} {naming? : Option (Naming D)}
    {source : HandlerSource} {es : List (D × Signature)}
    (h : r.registerEach s naming? source es = .ok r') (e : D × Signature) :
    r.registerEach s naming? source (es ++ [e]) = r'.register s naming? e.1 source e.2 := by
  rw [registerEach] at h
  rw [registerEach, List.foldlM_append, h]
  change ([e].foldlM (fun r e => r.register s naming? e.1 source e.2) r' :
    Except DispatchError (Registry D)) = _
  rw [List.foldlM_cons]
  exact bind_pure _

theorem binding?_replace (r : Registry D) (d : D) (held? : Option Binding) (b : Binding) :
    ((held?.elim r fun held => r.release d held).enter d b).binding? =
      update r.binding? d (some b) := by
  rw [binding?_enter]
  cases held? <;> rfl

end Registry

namespace HandlerMapping

open Registry (admission admission_of_other admission_of_same admitted binding?_replace conflict
  Contradicted forM_validate_of_contradicted forM_validate_of_not_contradicted
  registerEach_concat register_eq_admission)

/-- Every one of `es` went through and has its binding. All other descriptors have the binding that
they had. -/
structure Registered (m : HandlerMapping D) (source : HandlerSource) (es : List (D × Signature))
    (r : Registry D) : Prop where
  eq : m.registry.registerEach m.strategy m.naming? source es = .ok r
  bound : ∀ {d method}, (d, method) ∈ es →
    r.binding? d = some (admitted m.strategy m.naming? d ⟨source, method, none⟩)
  others : ∀ {d}, (∀ method, (d, method) ∉ es) → r.binding? d = m.registry.binding? d

/-- Why a method is refused after those in `done`: its descriptor was bound elsewhere before, or it
is that of another method in `done`, or the metadata derived for it contradict themselves. -/
inductive Refused (m : HandlerMapping D) (source : HandlerSource) (done : List (D × Signature))
    (d : D) (method : Signature) : DispatchError → Prop where
  | bound {held : Binding} (untouched : ∀ other, (d, other) ∉ done)
      (heldBefore : m.registry.binding? d = some held)
      (other : held.handler.sameAs ⟨source, method, none⟩ = false) :
      Refused m source done d method
        (conflict m.strategy d ⟨source, method, none⟩ held.handler)
  | shared {earlier : Signature} (registered : (d, earlier) ∈ done) (other : earlier ≠ method) :
      Refused m source done d method
        (conflict m.strategy d ⟨source, method, none⟩ ⟨source, earlier, none⟩)
  | contradicted (contradicted : Contradicted m.strategy d ⟨source, method, none⟩) :
      Refused m source done d method (.invalidCors CorsConfig.credentialsReason)

/-- How registering one after another ends, and the registry that it leaves: with all of them, or
before the first that is refused. -/
inductive RegisteredUpTo (m : HandlerMapping D) (source : HandlerSource)
    (es : List (D × Signature)) : Except DispatchError Unit → Registry D → Prop where
  | all {r : Registry D} (registered : m.Registered source es r) :
      RegisteredUpTo m source es (.ok ()) r
  | refusal {done rest : List (D × Signature)} {d : D} {method : Signature} {e : DispatchError}
      {r : Registry D} (split : es = done ++ (d, method) :: rest)
      (registered : m.Registered source done r) (refused : m.Refused source done d method e) :
      RegisteredUpTo m source es (.error e) r

/-- How the detection for a type ends, and the registry that it leaves. -/
inductive Detected (m : HandlerMapping D) (source : HandlerSource) (type : BeanType) :
    Except DispatchError Unit → Registry D → Prop where
  | undescribed {before after : List Signature} {method : Signature} {reason : DispatchError}
      (split : type.methods = before ++ method :: after)
      (describable : m.DescribableType type before)
      (failed : m.strategy.describe method type = .error reason) :
      Detected m source type (.error (.invalidMapping type.name method.text reason)) m.registry
  | described {result : Except DispatchError Unit} {r : Registry D}
      (describable : m.DescribableType type type.methods)
      (registered : m.RegisteredUpTo source (m.described type type.methods) result r) :
      Detected m source type result r

variable {m : HandlerMapping D} {source : HandlerSource} {done : List (D × Signature)}
  {d : D} {method : Signature} {r : Registry D}

/-! ### One registration -/

theorem sameAs_fresh_iff {other : Signature} :
    HandlerMethod.sameAs ⟨source, other, none⟩ ⟨source, method, none⟩ = true ↔ other = method := by
  rw [HandlerMethod.sameAs, decide_eq_true_iff]
  constructor
  · intro h
    exact congrArg HandlerKey.method h
  · rintro rfl
    rfl

omit [DecidableEq D] in
theorem sameAs_of_admission {s : Strategy D} {h : HandlerMethod} {held : Binding}
    (hadmitted : admission s d h (some held) = .ok ()) : held.handler.sameAs h = true := by
  by_contra hother
  rw [admission_of_other (Bool.eq_false_iff.2 hother)] at hadmitted
  cases hadmitted

namespace Registered

theorem nil : m.Registered source [] m.registry where
  eq := rfl
  bound := fun h => nomatch h
  others := fun _ => rfl

theorem concat (h : m.Registered source done r)
    (hadmitted : admission m.strategy d ⟨source, method, none⟩ (r.binding? d) = .ok ()) :
    m.Registered source (done ++ [(d, method)])
      (((r.binding? d).elim r fun held => r.release d held).enter d
        (admitted m.strategy m.naming? d ⟨source, method, none⟩)) where
  eq := by
    rw [registerEach_concat h.eq, register_eq_admission, hadmitted]
    rfl
  bound := by
    intro d' method' hmem
    rw [binding?_replace]
    rcases List.mem_append.1 hmem with hdone | hlast
    · by_cases hd : d' = d
      · subst hd
        rw [h.bound hdone] at hadmitted
        have hsame : method' = method := sameAs_fresh_iff.1 (sameAs_of_admission hadmitted)
        rw [update_self, hsame]
      · rw [update_of_ne hd]
        exact h.bound hdone
    · cases List.mem_singleton.1 hlast
      rw [update_self]
  others := by
    intro d' hnot
    have hd : d' ≠ d := by
      rintro rfl
      exact hnot method (List.mem_append_right done List.mem_cons_self)
    rw [binding?_replace, update_of_ne hd]
    apply h.others
    intro method' hdone
    exact hnot method' (List.mem_append_left _ hdone)

/-- Who holds a descriptor has had it before, or got it from an earlier method. -/
theorem refused_of_held {held : Binding} (h : m.Registered source done r)
    (hheld : r.binding? d = some held)
    (hother : held.handler.sameAs ⟨source, method, none⟩ = false) :
    m.Refused source done d method
      (conflict m.strategy d ⟨source, method, none⟩ held.handler) := by
  by_cases hdone : ∃ earlier, (d, earlier) ∈ done
  · obtain ⟨earlier, hdone⟩ := hdone
    have hbound := h.bound hdone
    rw [hheld] at hbound
    cases hbound
    refine .shared hdone ?_
    intro hsame
    exact Bool.false_ne_true (hother.symm.trans (sameAs_fresh_iff.2 hsame))
  · have huntouched (earlier : Signature) : (d, earlier) ∉ done := by
      intro hmem
      exact hdone ⟨earlier, hmem⟩
    rw [h.others huntouched] at hheld
    exact .bound huntouched hheld hother

theorem refused {e : DispatchError} (h : m.Registered source done r)
    (he : admission m.strategy d ⟨source, method, none⟩ (r.binding? d) = .error e) :
    m.Refused source done d method e := by
  by_cases hheld : ∃ held, r.binding? d = some held ∧
      held.handler.sameAs ⟨source, method, none⟩ = false
  · obtain ⟨held, hheld, hother⟩ := hheld
    rw [hheld, admission_of_other hother] at he
    cases he
    exact h.refused_of_held hheld hother
  · have hsame (held : Binding) (hd : r.binding? d = some held) :
        held.handler.sameAs ⟨source, method, none⟩ = true := by
      by_contra hother
      exact hheld ⟨held, hd, Bool.eq_false_iff.2 hother⟩
    rw [admission_of_same hsame] at he
    by_cases hcors : Contradicted m.strategy d ⟨source, method, none⟩
    · rw [forM_validate_of_contradicted hcors] at he
      cases he
      exact .contradicted hcors
    · rw [forM_validate_of_not_contradicted hcors] at he
      cases he

end Registered

/-! ### The detection -/

omit [DecidableEq D] in
theorem describeAll_eq_error {type : BeanType} {methods : List Signature} {e : DispatchError}
    (h : m.describeAll type methods = .error e) :
    ∃ before method after reason, methods = before ++ method :: after ∧
      m.DescribableType type before ∧ m.strategy.describe method type = .error reason ∧
      e = .invalidMapping type.name method.text reason := by
  induction methods with
  | nil => cases h
  | cons method rest ih =>
    rw [describeAll] at h
    cases hd : m.strategy.describe method type with
    | error reason =>
      rw [hd] at h
      cases h
      exact ⟨[], method, rest, reason, rfl, List.forall_mem_nil _, hd, rfl⟩
    | ok d? =>
      have hrest : m.describeAll type rest = .error e := by
        rw [hd] at h
        cases d? with
        | none => exact h
        | some d =>
          cases hrest : m.describeAll type rest with
          | error e' =>
            rw [hrest] at h
            exact h
          | ok es =>
            rw [hrest] at h
            cases h
      obtain ⟨before, method', after, reason, rfl, hbefore, hfailed, rfl⟩ := ih hrest
      refine ⟨method :: before, method', after, reason, rfl, ?_, hfailed, rfl⟩
      rw [describable_cons, hd]
      exact ⟨rfl, hbefore⟩

/-- The induction is over the methods that are left; those in `done` have been registered. -/
theorem registerAll_registeredUpTo {p : Progress D} (h : m.Registered source done p.registry)
    (rest : List (D × Signature)) :
    m.RegisteredUpTo source (done ++ rest) (m.registerAll source rest p).1
      (m.registerAll source rest p).2.registry := by
  induction rest generalizing done p with
  | nil =>
    rw [List.append_nil]
    exact .all h
  | cons first rest ih =>
    obtain ⟨d, method⟩ := first
    have hregister := register_eq_admission p.registry m.strategy m.naming? d source method
    rw [registerAll]
    dsimp only [Progress.emit]
    cases hadmission : admission m.strategy d ⟨source, method, none⟩ (p.registry.binding? d) with
    | error e =>
      rw [hadmission] at hregister
      simp only [hregister, Except.map]
      exact .refusal rfl h (h.refused hadmission)
    | ok =>
      rw [hadmission] at hregister
      simp only [hregister, Except.map]
      rw [List.append_cons]
      exact ih (p := ⟨_, _⟩) (h.concat hadmission)

theorem detectInto_detected {p : Progress D} (hp : p.registry = m.registry) (type : BeanType) :
    m.Detected source type (m.detectInto source type p).1
      (m.detectInto source type p).2.registry := by
  unfold detectInto
  cases hdescribe : m.describeAll type type.methods with
  | error e =>
    obtain ⟨before, method, after, reason, hsplit, hbefore, hfailed, rfl⟩ :=
      describeAll_eq_error hdescribe
    dsimp only
    rw [hp]
    exact .undescribed hsplit hbefore hfailed
  | ok es =>
    obtain ⟨hdescribable, rfl⟩ := describeAll_eq_ok_iff.1 hdescribe
    have hnil : m.Registered source [] p.registry := hp ▸ Registered.nil
    exact .described hdescribable (registerAll_registeredUpTo (p := p.emit _) hnil _)

/-- What is left behind by an error is known exactly: nothing has changed if a method could not be
described or the very first was refused. -/
theorem Detected.unchanged_or_bound {type : BeanType} {e : DispatchError}
    (h : m.Detected source type (.error e) r) :
    r = m.registry ∨ ∃ d method, (d, method) ∈ m.described type type.methods ∧
      r.binding? d = some (admitted m.strategy m.naming? d ⟨source, method, none⟩) := by
  cases h with
  | undescribed => exact .inl rfl
  | described hdescribable hregistered =>
    cases hregistered with
    | @refusal done rest d method _ _ hsplit hdone hrefused =>
      cases done with
      | nil => exact .inl (Except.ok.inj hdone.eq).symm
      | cons first done =>
        obtain ⟨d', method'⟩ := first
        refine .inr ⟨d', method', ?_, hdone.bound List.mem_cons_self⟩
        rw [hsplit]
        exact List.mem_append_left _ List.mem_cons_self

/-- A detection changes nothing of the mapping but the registry. Where it fails, the registry is
that of the methods before the one that failed. -/
theorem detect_keeps_methods_before_refusal (m : HandlerMapping D) (source : HandlerSource)
    (type : BeanType) :
    let outcome := m.detect source type
    ∃ r, outcome.2.1 = { m with registry := r } ∧ m.Detected source type outcome.1 r ∧
      ∀ e, outcome.1 = .error e → r = m.registry ∨
        ∃ d method, (d, method) ∈ m.described type type.methods ∧
          r.binding? d = some (admitted m.strategy m.naming? d ⟨source, method, none⟩) := by
  intro outcome
  have hdetected : m.Detected source type outcome.1 outcome.2.1.registry :=
    detectInto_detected (p := ⟨m.registry, []⟩) rfl type
  refine ⟨outcome.2.1.registry, rfl, hdetected, ?_⟩
  intro e he
  rw [he] at hdetected
  exact hdetected.unchanged_or_bound

/-! ### Two methods with one route -/

def orderRoute (handler : String) : RouteEntry :=
  { owner := "Orders", handler := handler, methods := [.get], paths := ["/orders"] }

def orderRoutes : RouteTable :=
  (RouteTable.route [] (orderRoute "list")).route (orderRoute "find")

def orders : BeanType :=
  ⟨"Orders", [⟨"Orders", "list", []⟩, ⟨"Orders", "find", []⟩]⟩

def orderMapping : HandlerMapping RouteMapping :=
  (start { strategy := orderRoutes.strategy } .single).2.1

/-- The second method is refused, and the first stays registered. -/
theorem first_order_route_left_behind :
    let getOrders := RouteMapping.of ["/orders"] [.get] none
    let list : HandlerMethod := ⟨.bean "orders", ⟨"Orders", "list", []⟩, none⟩
    let find : HandlerMethod := ⟨.bean "orders", ⟨"Orders", "find", []⟩, none⟩
    let outcome := orderMapping.detect (.bean "orders") orders
    orderMapping.state = .ready ∧
    outcome.1 = .error (conflict orderRoutes.strategy getOrders find list) ∧
    orderMapping.registry.handlers = [] ∧ orderMapping.registry.atPath "/orders" = [] ∧
    outcome.2.1.registry.handlers = [(getOrders, list)] ∧
    outcome.2.1.registry.atPath "/orders" = [getOrders] ∧
    outcome.2.1.registry ≠ orderMapping.registry := by
  intro getOrders list find outcome
  have hbefore : orderMapping.registry.handlers = [] := by decide +kernel
  have hafter : outcome.2.1.registry.handlers = [(getOrders, list)] := by decide +kernel
  refine ⟨by decide +kernel, by decide +kernel, hbefore, by decide +kernel, hafter,
    by decide +kernel, ?_⟩
  intro hsame
  rw [hsame, hbefore] at hafter
  cases hafter

end HandlerMapping

end RequestDispatch
