import RequestDispatch.Mapping.UrlMapping
import RequestDispatch.Proofs.Registry.Indexes

/-! # Mappings in service

A mapping is in service from its start on. Discovery and registration use the strategy that the
mapping was built with, so what is indexed is what this strategy says of the descriptors. -/
namespace RequestDispatch

variable {D : Type} [DecidableEq D]

/-! ### Registries of one strategy -/

structure Registry.Sound (s : Strategy D) (r : Registry D) : Prop where
  invariant : r.Invariant
  paths : ∀ d b, r.binding? d = some b → b.directPaths = (s.directPaths d).eraseDups

namespace Registry.Sound

variable {s : Strategy D} {r r' : Registry D}

theorem empty (s : Strategy D) : Sound s .empty :=
  ⟨empty_invariant, fun _ _ h => nomatch h⟩

theorem enter_paths {d : D} {b : Binding} (h : Sound s r)
    (hb : b.directPaths = (s.directPaths d).eraseDups) :
    ∀ d' b', (r.enter d b).binding? d' = some b' →
      b'.directPaths = (s.directPaths d').eraseDups := by
  intro d' b' hd'
  rw [binding?_enter] at hd'
  rcases update_some_eq_some.1 hd' with ⟨rfl, rfl⟩ | ⟨-, hd'⟩
  · exact hb
  · exact h.paths d' b' hd'

theorem register {naming? : Option (Naming D)} {d : D} {source : HandlerSource}
    {method : Signature} (h : Sound s r) (e : r.register s naming? d source method = .ok r') :
    Sound s r' := by
  refine ⟨register_invariant h.invariant e, ?_⟩
  obtain ⟨b, hb, ⟨-, rfl⟩ | ⟨held, -, -, rfl⟩⟩ := register_cases e
  · exact h.enter_paths (bindingFor_eq_ok hb).2.1
  · -- Releasing the replaced binding leaves the bindings alone.
    exact h.enter_paths (bindingFor_eq_ok hb).2.1

theorem unregister (h : Sound s r) (d : D) : Sound s (r.unregister d) := by
  refine ⟨unregister_invariant h.invariant d, fun d' b hb => ?_⟩
  cases hd : r.binding? d with
  | none =>
    rw [Registry.unregister, hd] at hb
    exact h.paths d' b hb
  | some held =>
    rw [unregister_of_binding hd, binding?, Assoc.find?_remove] at hb
    split at hb
    · cases hb
    · exact h.paths d' b hb

theorem mem_atPath (h : Sound s r) {path : String} {d : D} :
    d ∈ r.atPath path ↔ (∃ b, r.binding? d = some b) ∧ path ∈ s.directPaths d := by
  rw [atPath, h.invariant.agreement.paths.mem]
  constructor
  · rintro ⟨b, hb, hp⟩
    rw [h.paths d b hb, List.mem_eraseDups] at hp
    exact ⟨⟨b, hb⟩, hp⟩
  · rintro ⟨⟨b, hb⟩, hp⟩
    refine ⟨b, hb, ?_⟩
    rwa [h.paths d b hb, List.mem_eraseDups]

theorem nodup_atPath (h : Sound s r) (path : String) : (r.atPath path).Nodup :=
  h.invariant.agreement.paths.nodup path

end Registry.Sound

/-! ### Discovery -/

namespace HandlerMapping

open Registry (Sound)

variable {m : HandlerMapping D} {p : Progress D}

theorem registerAll_sound (source : HandlerSource) (described : List (D × Signature))
    (h : Sound m.strategy p.registry) :
    Sound m.strategy (m.registerAll source described p).2.registry := by
  induction described generalizing p with
  | nil => exact h
  | cons head rest ih =>
    obtain ⟨d, method⟩ := head
    simp only [registerAll]
    split
    · exact h
    · next r hr => exact ih (h.register hr)

theorem detectInto_sound (source : HandlerSource) (type : BeanType)
    (h : Sound m.strategy p.registry) :
    Sound m.strategy (m.detectInto source type p).2.registry := by
  unfold detectInto
  split
  · exact h
  · exact registerAll_sound source _ h

theorem discoverBean_sound (c : Containers) (name : String) (h : Sound m.strategy p.registry) :
    Sound m.strategy (m.discoverBean c name p).2.registry := by
  unfold discoverBean
  split
  · exact h
  · split
    · exact h
    · split
      · exact detectInto_sound _ _ h
      · exact h

theorem discoverFrom_sound (c : Containers) (names : List String)
    (h : Sound m.strategy p.registry) :
    Sound m.strategy (m.discoverFrom c names p).2.registry := by
  induction names generalizing p with
  | nil => exact h
  | cons name rest ih =>
    have hbean := discoverBean_sound (m := m) c name h
    simp only [discoverFrom]
    split
    · next hb => rwa [hb] at hbean
    · next hb =>
      rw [hb] at hbean
      exact ih hbean

theorem start_sound (c : Containers) (h : Sound m.strategy m.registry) :
    (m.start c).2.1.strategy = m.strategy ∧ Sound m.strategy (m.start c).2.1.registry := by
  have hdiscover : Sound m.strategy (m.discover c).2.registry :=
    discoverFrom_sound (p := ⟨m.registry, []⟩) c _ h
  unfold start
  split
  · exact ⟨rfl, h⟩
  · split
    · exact ⟨rfl, .empty _⟩
    · next hd =>
      rw [hd] at hdiscover
      exact ⟨rfl, hdiscover⟩

/-! ### Mappings in service -/

omit [DecidableEq D] in
theorem whenReady_eq_ok {α : Type} {operation : String} {result : Except DispatchError α} {a : α}
    (h : m.whenReady operation result = .ok a) : result = .ok a := by
  unfold whenReady at h
  split at h
  · exact h
  · cases h

theorem register_eq_ok {m' : HandlerMapping D} {d : D} {source : HandlerSource}
    {method : Signature} (h : m.register d source method = .ok m') :
    ∃ r, m.registry.register m.strategy m.naming? d source method = .ok r ∧
      m' = { m with registry := r } := by
  have h := whenReady_eq_ok h
  cases hr : m.registry.register m.strategy m.naming? d source method with
  | error e => rw [hr] at h; cases h
  | ok r =>
    rw [hr] at h
    cases h
    exact ⟨r, rfl, rfl⟩

/-- What a mapping built with `s` can become: it is started, whether that succeeds or fails, and
then descriptors are registered and taken out. -/
inductive Served (s : Strategy D) : HandlerMapping D → Prop
  | start {m : HandlerMapping D} (c : Containers) (strategy : m.strategy = s)
      (state : m.state = .uninitialized) (registry : m.registry = .empty) :
      Served s (m.start c).2.1
  | register {m m' : HandlerMapping D} {d : D} {source : HandlerSource} {method : Signature}
      (before : Served s m) (h : m.register d source method = .ok m') : Served s m'
  | unregister {m m' : HandlerMapping D} {d : D} (before : Served s m)
      (h : m.unregister d = .ok m') : Served s m'

theorem Served.sound {s : Strategy D} (h : Served s m) :
    m.strategy = s ∧ Sound s m.registry := by
  induction h with
  | @start m c strategy state registry =>
    subst strategy
    exact start_sound c (registry ▸ .empty _)
  | register before h ih =>
    obtain ⟨rfl, ih⟩ := ih
    obtain ⟨r, hr, rfl⟩ := register_eq_ok h
    exact ⟨rfl, ih.register hr⟩
  | unregister before h ih =>
    obtain ⟨rfl, ih⟩ := ih
    cases whenReady_eq_ok h
    exact ⟨rfl, ih.unregister _⟩

end HandlerMapping

/-! ### Beans mapped by URL -/

namespace UrlMapping

open HandlerMapping (Served)

theorem registerUrls_served (name owner : String) (urls : List String) {p : Step}
    (h : Served urlStrategy p.mapping) :
    Served urlStrategy (registerUrls name owner urls p).2.mapping := by
  induction urls generalizing p with
  | nil => exact h
  | cons url rest ih =>
    simp only [registerUrls]
    split
    · exact h
    · next m hm => exact ih (h.register hm)

theorem detectFrom_served (resolve : UrlResolver) (c : Containers) (names : List String) {p : Step}
    (h : Served urlStrategy p.mapping) :
    Served urlStrategy (detectFrom resolve c names p).2.mapping := by
  induction names generalizing p with
  | nil => exact h
  | cons name rest ih =>
    simp only [detectFrom]
    split
    · exact ih h
    · next urls _ =>
      have hurls := registerUrls_served name (ownerOf c name) (resolve name)
        (p := { p with events := p.events ++ ownerEvents c name }) h
      split
      · next he => rwa [he] at hurls
      · next he =>
        rw [he] at hurls
        exact ih hurls

/-- Starting a URL mapping starts the mapping and then only registers descriptors. -/
theorem start_served (resolve : UrlResolver) (c : Containers) {m : HandlerMapping String}
    (strategy : m.strategy = urlStrategy) (state : m.state = .uninitialized)
    (registry : m.registry = .empty) : Served urlStrategy (start resolve m c).2.1 := by
  have hstart := Served.start c strategy state registry
  unfold start
  split
  · next he => rwa [he] at hstart
  · next started events he =>
    rw [he] at hstart
    have hdetect := detectFrom_served resolve c (c.names 0 started.options.ancestors)
      (p := ⟨started, events⟩) hstart
    split
    · next he => rwa [he] at hdetect
    · next he => rwa [he] at hdetect

end UrlMapping

end RequestDispatch
