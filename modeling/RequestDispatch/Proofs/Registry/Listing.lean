import RequestDispatch.Proofs.Registry.Indexes

/-! # Registrations in order

A sequence of registrations lists each descriptor where it came first. The next registration goes
through exactly if no other handler method has the descriptor and its CORS metadata are valid. -/
namespace RequestDispatch

namespace Assoc

variable {κ α β : Type} [DecidableEq κ]

theorem find?_map (f : α → β) (m : List (κ × α)) (k : κ) :
    find? (m.map fun e => (e.1, f e.2)) k = (find? m k).map f := by
  induction m with
  | nil => rfl
  | cons e rest ih => by_cases he : e.1 = k <;> simp [find?, he, ih]

theorem map_put (f : α → β) (m : List (κ × α)) (k : κ) (v : α) :
    (put m k v).map (fun e => (e.1, f e.2)) = put (m.map fun e => (e.1, f e.2)) k (f v) := by
  induction m with
  | nil => rfl
  | cons e rest ih => by_cases he : e.1 = k <;> simp [put, he, ih]

theorem put_of_find?_eq_some {m : List (κ × α)} {k : κ} {v : α} (h : find? m k = some v) :
    put m k v = m := by
  induction m with
  | nil => cases h
  | cons e rest ih =>
    by_cases he : e.1 = k
    · simp only [find?, he, if_true, Option.some.injEq] at h
      subst he h
      simp [put]
    · simp only [find?, he, if_false] at h
      simp [put, he, ih h]

end Assoc

namespace Registry

variable {D : Type} [DecidableEq D] {r r' : Registry D} {es : List (D × HandlerMethod)} {d : D}
  {h : HandlerMethod}

/-! ### Claims to descriptors -/

/-- No descriptor is claimed by two handler methods. -/
def Unambiguous (es : List (D × HandlerMethod)) : Prop :=
  ∀ d h h', (d, h) ∈ es → (d, h') ∈ es → h = h'

omit [DecidableEq D] in
theorem unambiguous_nil : Unambiguous ([] : List (D × HandlerMethod)) :=
  fun _ _ _ hin => nomatch hin

omit [DecidableEq D] in
theorem Unambiguous.of_append {more : List (D × HandlerMethod)} (hes : Unambiguous (es ++ more)) :
    Unambiguous es :=
  fun d h h' hin hin' => hes d h h' (List.mem_append_left _ hin) (List.mem_append_left _ hin')

omit [DecidableEq D] in
theorem unambiguous_append_singleton :
    Unambiguous (es ++ [(d, h)]) ↔ Unambiguous es ∧ ∀ h', (d, h') ∈ es → h' = h := by
  constructor
  · intro hes
    refine ⟨hes.of_append, fun h' hin => ?_⟩
    exact hes d h' h (List.mem_append_left _ hin) (List.mem_append_right _ List.mem_cons_self)
  · rintro ⟨hes, hnew⟩ d₁ h₁ h₂ hin₁ hin₂
    rcases List.mem_append.1 hin₁ with hin₁ | hin₁
    · rcases List.mem_append.1 hin₂ with hin₂ | hin₂
      · exact hes d₁ h₁ h₂ hin₁ hin₂
      · cases List.mem_singleton.1 hin₂
        exact hnew h₁ hin₁
    · cases List.mem_singleton.1 hin₁
      rcases List.mem_append.1 hin₂ with hin₂ | hin₂
      · exact (hnew h₂ hin₂).symm
      · cases List.mem_singleton.1 hin₂
        rfl

/-- The CORS metadata that the strategy derives for a handler method, if any, are valid. -/
def CorsValid (s : Strategy D) (e : D × HandlerMethod) : Prop :=
  ∀ config, s.corsFor e.2.source e.2.method e.1 = some config → config.validate = .ok ()

/-! ### What a registry lists -/

/-- The registry lists the claims in order, each once, and none contradicts another. -/
structure Lists (r : Registry D) (es : List (D × HandlerMethod)) : Prop where
  invariant : Invariant r
  handlers : r.handlers = es.eraseDups
  unambiguous : Unambiguous es

theorem lists_empty : Lists (empty : Registry D) [] :=
  ⟨empty_invariant, rfl, unambiguous_nil⟩

theorem Lists.mem_iff (hr : Lists r es) :
    (d, h) ∈ es ↔ ∃ b, r.binding? d = some b ∧ b.handler = h := by
  have hlisted : (d, h) ∈ es ↔ (d, h) ∈ r.handlers := by rw [hr.handlers, List.mem_eraseDups]
  rw [hlisted, Registry.handlers, List.mem_map]
  constructor
  · rintro ⟨⟨d', b⟩, hin, heq⟩
    cases heq
    exact ⟨b, (Assoc.mem_iff_find? hr.invariant.bindings_nodup).1 hin, rfl⟩
  · rintro ⟨b, hb, rfl⟩
    exact ⟨(d, b), (Assoc.mem_iff_find? hr.invariant.bindings_nodup).2 hb, rfl⟩

omit [DecidableEq D] in
theorem bindingFor_isOk_iff {s : Strategy D} {naming? : Option (Naming D)} {source : HandlerSource}
    {method : Signature} :
    (bindingFor s naming? d source method).isOk = true ↔
      CorsValid s (d, ⟨source, method, none⟩) := by
  unfold bindingFor CorsValid
  dsimp only
  cases s.corsFor source method d with
  | none => simp [Except.isOk, Except.toBool]
  | some config => cases hvalid : config.validate <;> simp [hvalid, Except.isOk, Except.toBool]

/-- A binding in the registry was made by a registration, so its key tells it. -/
theorem Lists.sameAs_iff (hr : Lists r es) {held : Binding} (hd : r.binding? d = some held)
    {source : HandlerSource} {method : Signature} :
    held.handler.sameAs ⟨source, method, none⟩ = true ↔ held.handler = ⟨source, method, none⟩ :=
  hr.invariant.sameAs_iff hd rfl

theorem Lists.register_isOk_iff (hr : Lists r es) {s : Strategy D} {naming? : Option (Naming D)}
    {source : HandlerSource} {method : Signature} :
    (r.register s naming? d source method).isOk = true ↔
      Unambiguous (es ++ [(d, ⟨source, method, none⟩)]) ∧
        CorsValid s (d, ⟨source, method, none⟩) := by
  have hbinding : (bindingFor s naming? d source method).isOk = true ↔ _ := bindingFor_isOk_iff
  rw [unambiguous_append_singleton, and_iff_right hr.unambiguous, ← hbinding]
  unfold register
  dsimp only
  cases hd : r.binding? d with
  | none =>
    have hnone : ∀ h', (d, h') ∈ es → h' = ⟨source, method, none⟩ := by
      intro h' hin
      obtain ⟨b, hb, -⟩ := hr.mem_iff.1 hin
      rw [hd] at hb
      cases hb
    rw [and_iff_right hnone]
    cases bindingFor s naming? d source method <;> rfl
  | some held =>
    have hsame : (∀ h', (d, h') ∈ es → h' = ⟨source, method, none⟩) ↔
        held.handler.sameAs ⟨source, method, none⟩ = true := by
      rw [hr.sameAs_iff hd]
      constructor
      · intro hall
        exact hall _ (hr.mem_iff.2 ⟨held, hd, rfl⟩)
      · rintro heq h' hin
        obtain ⟨b, hb, rfl⟩ := hr.mem_iff.1 hin
        cases hd.symm.trans hb
        exact heq
    rw [hsame]
    dsimp only
    split
    · next hkey =>
      rw [and_iff_right hkey]
      cases bindingFor s naming? d source method <;> rfl
    · next hkey => simp [Except.isOk, Except.toBool, hkey]

theorem eraseDups_append_singleton {α : Type} [BEq α] [LawfulBEq α] (l : List α) (a : α)
    [Decidable (a ∈ l)] :
    (l ++ [a]).eraseDups = if a ∈ l then l.eraseDups else l.eraseDups ++ [a] := by
  rw [List.eraseDups_append]
  split
  · next hin => simp [List.removeAll, hin]
  · next hnot => simp [List.removeAll, hnot, List.eraseDups_cons]

theorem handlers_enter (r : Registry D) (d : D) (b : Binding) :
    (r.enter d b).handlers = Assoc.put r.handlers d b.handler :=
  Assoc.map_put Binding.handler r.bindings d b

theorem Lists.register (hr : Lists r es) {s : Strategy D} {naming? : Option (Naming D)}
    {source : HandlerSource} {method : Signature}
    (e : r.register s naming? d source method = .ok r') :
    Lists r' (es ++ [(d, ⟨source, method, none⟩)]) := by
  have hunambiguous := (hr.register_isOk_iff.1 (by rw [e]; rfl)).1
  refine ⟨register_invariant hr.invariant e, ?_, hunambiguous⟩
  have hfind : ∀ d, Assoc.find? r.handlers d = (r.binding? d).map (·.handler) :=
    Assoc.find?_map Binding.handler r.bindings
  obtain ⟨b, hb, hcases⟩ := register_cases e
  have hhandler := (bindingFor_eq_ok hb).1
  rw [eraseDups_append_singleton, ← hr.handlers, ← hhandler]
  rcases hcases with ⟨hd, rfl⟩ | ⟨held, hd, hkey, rfl⟩
  · have hnew : (d, b.handler) ∉ es := by
      intro hin
      obtain ⟨b', hb', -⟩ := hr.mem_iff.1 hin
      rw [hd] at hb'
      cases hb'
    rw [if_neg hnew, handlers_enter]
    exact Assoc.put_of_find?_eq_none (by rw [hfind, hd]; rfl) _
  · have hfresh := (hr.invariant.agreement.fresh d held hd).unresolved
    have hsame : held.handler = b.handler :=
      handler_eq_of_key_eq hfresh (bindingFor_fresh hb).unresolved hkey
    have hold : (d, b.handler) ∈ es := hr.mem_iff.2 ⟨held, hd, hsame⟩
    -- Releasing the held binding leaves the bindings alone.
    have hkept : (r.release d held).handlers = r.handlers := rfl
    rw [if_pos hold, handlers_enter, hkept]
    exact Assoc.put_of_find?_eq_some (by rw [hfind, hd, ← hsame]; rfl)

end Registry

end RequestDispatch
