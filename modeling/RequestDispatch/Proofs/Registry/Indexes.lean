import RequestDispatch.Proofs.Registry.History

/-! # Agreement of the registry's indexes

Handler methods share names and CORS metadata, so an entry may outlive the registration that
made it. An index is compared with a view of the registrations: releasing a binding takes its
descriptor out of the view, entering one puts it in, and a replacement does both. -/
namespace RequestDispatch.Registry

open Function (update)

variable {D : Type} [DecidableEq D]

/-! ### What the registrations say -/

structure Fresh (b : Binding) : Prop where
  unresolved : b.handler.via = none
  paths_nodup : b.directPaths.Nodup

structure PathsAgree (v : View D) (paths : List (String × List D)) : Prop where
  proper : Assoc.Proper paths
  nodup : ∀ path, (Assoc.bucket paths path).Nodup
  mem : ∀ path d, d ∈ Assoc.bucket paths path ↔ ∃ b, v d = some b ∧ path ∈ b.directPaths

structure NamesAgree (v : View D) (names : List (String × List HandlerMethod)) : Prop where
  proper : Assoc.Proper names
  nodup : ∀ name, ((Assoc.bucket names name).map HandlerMethod.key).Nodup
  mem : ∀ name h, h ∈ Assoc.bucket names name ↔
    ∃ d b, v d = some b ∧ b.name? = some name ∧ b.handler = h

structure CorsAgree (v : View D) (cors : List (HandlerKey × CorsConfig)) : Prop where
  keys_nodup : (Assoc.keys cors).Nodup
  stored : ∀ k c, Assoc.find? cors k = some c →
    ∃ d b, v d = some b ∧ b.handler.key = k ∧ b.cors? = some c
  covered : ∀ d b c, v d = some b → b.cors? = some c →
    ∃ c', Assoc.find? cors b.handler.key = some c'

structure Agreement (v : View D) (r : Registry D) : Prop where
  fresh : ∀ d b, v d = some b → Fresh b
  paths : PathsAgree v r.paths
  names : NamesAgree v r.names
  cors : CorsAgree v r.cors

structure Invariant (r : Registry D) : Prop where
  bindings_nodup : (Assoc.keys r.bindings).Nodup
  agreement : Agreement r.binding? r

theorem handler_eq_of_key_eq {h h' : HandlerMethod} (hv : h.via = none) (hv' : h'.via = none)
    (hk : h.key = h'.key) : h = h' := by
  obtain ⟨source, method, via⟩ := h
  obtain ⟨source', method', via'⟩ := h'
  cases hv
  cases hv'
  cases hk
  rfl

/-- A handler method that is not resolved is told from a bound one by its key. -/
theorem Invariant.sameAs_iff {r : Registry D} (hr : Invariant r) {d : D} {held : Binding}
    (hd : r.binding? d = some held) {h : HandlerMethod} (hh : h.via = none) :
    held.handler.sameAs h = true ↔ held.handler = h := by
  have hfresh := (hr.agreement.fresh d held hd).unresolved
  rw [HandlerMethod.sameAs, decide_eq_true_iff]
  exact ⟨handler_eq_of_key_eq hfresh hh, congrArg HandlerMethod.key⟩

/-! ### The path index -/

theorem bucket_dropPaths (d : D) (ps : List String) (paths : List (String × List D))
    (path : String) :
    Assoc.bucket (ps.foldl (dropPath d) paths) path =
      if path ∈ ps then (Assoc.bucket paths path).filter (· ≠ d) else Assoc.bucket paths path := by
  induction ps generalizing paths with
  | nil => rfl
  | cons p ps ih =>
    rw [List.foldl_cons, ih, dropPath, Assoc.bucket_sieve]
    by_cases hp : path = p
    · subst hp
      by_cases hm : path ∈ ps <;> simp [hm]
    · simp [hp]

omit [DecidableEq D] in
theorem bucket_addPaths (d : D) {ps : List String} (hps : ps.Nodup)
    (paths : List (String × List D)) (path : String) :
    Assoc.bucket (ps.foldl (addPath d) paths) path =
      if path ∈ ps then Assoc.bucket paths path ++ [d] else Assoc.bucket paths path := by
  induction ps generalizing paths with
  | nil => rfl
  | cons p ps ih =>
    obtain ⟨hp, hps⟩ := List.nodup_cons.1 hps
    rw [List.foldl_cons, ih hps, addPath, Assoc.bucket_push]
    by_cases hpath : path = p
    · subst hpath
      simp [hp]
    · simp [hpath]

omit [DecidableEq D] in
theorem proper_foldl {f : List (String × List D) → String → List (String × List D)}
    (hf : ∀ paths path, Assoc.Proper paths → Assoc.Proper (f paths path)) (ps : List String)
    {paths : List (String × List D)} (h : Assoc.Proper paths) :
    Assoc.Proper (ps.foldl f paths) := by
  induction ps generalizing paths with
  | nil => exact h
  | cons p ps ih => exact ih (hf _ p h)

theorem release_paths {v : View D} {paths : List (String × List D)} (h : PathsAgree v paths) {d : D}
    {b : Binding} (hd : v d = some b) :
    PathsAgree (update v d none) (b.directPaths.foldl (dropPath d) paths) := by
  refine ⟨proper_foldl (fun _ path hp => hp.sieve path _) _ h.proper, fun path => ?_,
    fun path d' => ?_⟩
  · rw [bucket_dropPaths]
    split
    · exact (h.nodup path).filter _
    · exact h.nodup path
  · rw [bucket_dropPaths]
    by_cases hd' : d' = d
    · subst hd'
      split
      · simp
      · next hp => simp [h.mem, hd, hp]
    · split <;> simp [h.mem, hd', Function.update_of_ne]

omit [DecidableEq D] in
theorem PathsAgree.not_mem {v : View D} {paths : List (String × List D)} (h : PathsAgree v paths)
    {d : D} (hd : v d = none) (path : String) : d ∉ Assoc.bucket paths path := by
  intro hm
  obtain ⟨b, hb, -⟩ := (h.mem path d).1 hm
  exact ne_of_unbound hd hb rfl

theorem enter_paths {v : View D} {paths : List (String × List D)} (h : PathsAgree v paths) {d : D}
    {b : Binding} (hd : v d = none) (hb : b.directPaths.Nodup) :
    PathsAgree (update v d (some b)) (b.directPaths.foldl (addPath d) paths) := by
  have hout := h.not_mem hd
  refine ⟨proper_foldl (fun _ path hp => hp.push path _) _ h.proper, fun path => ?_,
    fun path d' => ?_⟩
  · rw [bucket_addPaths d hb]
    split
    · rw [List.nodup_append]
      refine ⟨h.nodup path, List.nodup_singleton d, ?_⟩
      rintro a ha _ hd' rfl
      exact hout path (List.mem_singleton.1 hd' ▸ ha)
    · exact h.nodup path
  · rw [bucket_addPaths d hb]
    by_cases hd' : d' = d
    · subst hd'
      split
      · next hp => simp [hp]
      · next hp => simp [hout, hp]
    · split <;> simp [h.mem, hd', Function.update_of_ne]

/-! ### The name index -/

theorem mem_dropName {names : List (String × List HandlerMethod)} {name name' : String}
    {h m : HandlerMethod} :
    m ∈ Assoc.bucket (dropName names name h) name' ↔
      m ∈ Assoc.bucket names name' ∧ ¬ (name' = name ∧ m.key = h.key) := by
  rw [dropName, Assoc.bucket_sieve]
  by_cases hn : name' = name
  · subst hn
    simp [HandlerMethod.sameAs, eq_comm (a := h.key)]
  · simp [hn]

theorem nodup_dropName {names : List (String × List HandlerMethod)} {name name' : String}
    {h : HandlerMethod} (hn : ((Assoc.bucket names name').map HandlerMethod.key).Nodup) :
    ((Assoc.bucket (dropName names name h) name').map HandlerMethod.key).Nodup := by
  rw [dropName, Assoc.bucket_sieve]
  split
  · next he =>
    subst he
    exact hn.sublist (List.filter_sublist.map _)
  · exact hn

theorem proper_addName {names : List (String × List HandlerMethod)} (hn : Assoc.Proper names)
    (name : String) (h : HandlerMethod) : Assoc.Proper (addName names name h) := by
  unfold addName
  split
  · exact hn
  · exact hn.push name h

theorem mem_addName {names : List (String × List HandlerMethod)} {name name' : String}
    {h m : HandlerMethod} (hsame : ∀ m ∈ Assoc.bucket names name, h.key = m.key → h = m) :
    m ∈ Assoc.bucket (addName names name h) name' ↔
      m ∈ Assoc.bucket names name' ∨ name' = name ∧ m = h := by
  unfold addName
  split
  · next hany =>
    obtain ⟨m', hm', hs⟩ := List.any_eq_true.1 hany
    have he : h = m' := hsame m' hm' (of_decide_eq_true hs)
    constructor
    · exact .inl
    · rintro (hm | ⟨rfl, rfl⟩)
      · exact hm
      · exact he ▸ hm'
  · rw [Assoc.bucket_push]
    by_cases hn : name' = name
    · subst hn
      simp
    · simp [hn]

theorem nodup_addName {names : List (String × List HandlerMethod)} {name name' : String}
    {h : HandlerMethod} (hn : ((Assoc.bucket names name').map HandlerMethod.key).Nodup) :
    ((Assoc.bucket (addName names name h) name').map HandlerMethod.key).Nodup := by
  unfold addName
  split
  · exact hn
  · next hany =>
    rw [Assoc.bucket_push]
    split
    · next he =>
      subst he
      rw [List.map_append, List.nodup_append]
      refine ⟨hn, List.nodup_singleton _, ?_⟩
      rintro k hk k' hk' rfl
      obtain ⟨m, hm, rfl⟩ := List.mem_map.1 hk
      exact hany (List.any_eq_true.2 ⟨m, hm, decide_eq_true (List.mem_singleton.1 hk').symm⟩)
    · exact hn

theorem mem_names_update_none {v : View D} {names : List (String × List HandlerMethod)}
    (h : NamesAgree v names) {d : D} {b : Binding} (hd : v d = some b) {name : String}
    {m : HandlerMethod}
    (hother : b.name? = some name → b.handler = m →
      ∃ d' b', d' ≠ d ∧ v d' = some b' ∧ b'.name? = some name ∧ b'.handler = m) :
    m ∈ Assoc.bucket names name ↔
      ∃ d' b', update v d none d' = some b' ∧ b'.name? = some name ∧ b'.handler = m := by
  simp only [h.mem, update_none_eq_some, and_assoc]
  constructor
  · rintro ⟨d', b', hb', hname, hm⟩
    by_cases hne : d' = d
    · subst hne
      cases hd.symm.trans hb'
      exact hother hname hm
    · exact ⟨d', b', hne, hb', hname, hm⟩
  · rintro ⟨d', b', -, hb'⟩
    exact ⟨d', b', hb'⟩

/-- A name stays with a handler method while another registration of it carries the name. -/
theorem release_names {r : Registry D} (hr : Invariant r) {d : D} {b : Binding}
    (hd : r.binding? d = some b) : NamesAgree (update r.binding? d none) (r.release d b).names := by
  have h := hr.agreement.names
  simp only [release]
  cases hn : b.name? with
  | none => exact ⟨h.proper, h.nodup, fun name m => mem_names_update_none h hd (by simp [hn])⟩
  | some name =>
    dsimp only
    split
    · next hany =>
      obtain ⟨o, ho, hname⟩ := List.any_eq_true.1 hany
      obtain ⟨d', hne, ho, hkey⟩ := (mem_siblings hr.bindings_nodup).1 ho
      refine ⟨h.proper, h.nodup, fun name' m =>
        mem_names_update_none h hd fun hn' hm => ?_⟩
      rw [hn] at hn'
      cases hn'
      exact ⟨d', o, hne, ho, of_decide_eq_true hname,
        hm ▸ handler_eq_of_key_eq (hr.agreement.fresh d' o ho).unresolved
          (hr.agreement.fresh d b hd).unresolved hkey⟩
    · next hany =>
      refine ⟨h.proper.sieve name _, fun name' => nodup_dropName (h.nodup name'), fun name' m => ?_⟩
      rw [mem_dropName]
      by_cases hm : name' = name ∧ m.key = b.handler.key
      · obtain ⟨rfl, hkey⟩ := hm
        simp only [hkey, and_self, not_true_eq_false, and_false, false_iff]
        rintro ⟨d', b', hb', hname, rfl⟩
        obtain ⟨hne, hb'⟩ := update_none_eq_some.1 hb'
        exact hany (List.any_eq_true.2 ⟨b', (mem_siblings hr.bindings_nodup).2 ⟨d', hne, hb', hkey⟩,
          decide_eq_true hname⟩)
      · rw [and_iff_left hm]
        refine mem_names_update_none h hd fun hn' hm' => (hm ⟨?_, hm' ▸ rfl⟩).elim
        rw [hn] at hn'
        exact (Option.some.inj hn').symm

theorem enter_names {v : View D} {r : Registry D} (h : Agreement v r) {d : D} {b : Binding}
    (hd : v d = none) (hb : b.handler.via = none) :
    NamesAgree (update v d (some b)) (r.enter d b).names := by
  have hn := h.names
  have grown : ∀ name m, (∃ d' b', update v d (some b) d' = some b' ∧ b'.name? = some name ∧
        b'.handler = m) ↔ m ∈ Assoc.bucket r.names name ∨ b.name? = some name ∧ b.handler = m := by
    intro name m
    simp only [hn.mem, update_some_eq_some]
    constructor
    · rintro ⟨d', b', ⟨rfl, rfl⟩ | ⟨-, hb'⟩, hm⟩
      · exact .inr hm
      · exact .inl ⟨d', b', hb', hm⟩
    · rintro (⟨d', b', hb', hm⟩ | hm)
      · exact ⟨d', b', .inr ⟨ne_of_unbound hd hb', hb'⟩, hm⟩
      · exact ⟨d, b, .inl ⟨rfl, rfl⟩, hm⟩
  have hsame : ∀ name, ∀ m ∈ Assoc.bucket r.names name, b.handler.key = m.key → b.handler = m := by
    intro name m hm hkey
    obtain ⟨d', b', hb', -, rfl⟩ := (hn.mem name m).1 hm
    exact handler_eq_of_key_eq hb (h.fresh d' b' hb').unresolved hkey
  simp only [enter]
  cases hname : b.name? with
  | none =>
    refine ⟨hn.proper, hn.nodup, fun name m => ?_⟩
    rw [grown, hname]
    simp
  | some name =>
    refine ⟨proper_addName hn.proper name _, fun name' => nodup_addName (hn.nodup name'),
      fun name' m => ?_⟩
    rw [grown, hname, mem_addName (hsame name), Option.some.injEq]
    exact or_congr_right (and_congr eq_comm eq_comm)

/-! ### The CORS index -/

theorem findSome?_siblings {r : Registry D} (hr : (Assoc.keys r.bindings).Nodup) {d : D}
    {b : Binding} {c : CorsConfig} (h : (r.siblings d b).reverse.findSome? (·.cors?) = some c) :
    ∃ d' o, d' ≠ d ∧ r.binding? d' = some o ∧ o.handler.key = b.handler.key ∧ o.cors? = some c := by
  obtain ⟨o, ho, hc⟩ := List.exists_of_findSome?_eq_some h
  obtain ⟨d', hne, hb, hk⟩ := (mem_siblings hr).1 (List.mem_reverse.1 ho)
  exact ⟨d', o, hne, hb, hk, hc⟩

theorem release_cors {r : Registry D} (hr : Invariant r) {d : D} {b : Binding}
    (hd : r.binding? d = some b) : CorsAgree (update r.binding? d none) (r.release d b).cors := by
  have h := hr.agreement.cors
  have other : ∀ {k c}, Assoc.find? r.cors k = some c → (k = b.handler.key → b.cors? = none) →
      ∃ d' b', update r.binding? d none d' = some b' ∧ b'.handler.key = k ∧ b'.cors? = some c := by
    intro k c hc hk
    obtain ⟨d', b', hb', rfl, hc'⟩ := h.stored k c hc
    refine ⟨d', b', update_none_eq_some.2 ⟨?_, hb'⟩, rfl, hc'⟩
    rintro rfl
    cases hd.symm.trans hb'
    rw [hk rfl] at hc'
    cases hc'
  simp only [release]
  cases hc : b.cors? with
  | none =>
    exact ⟨h.keys_nodup, fun k c hk => other hk fun _ => hc, fun d' b' c hb' =>
      h.covered d' b' c (update_none_eq_some.1 hb').2⟩
  | some c =>
    cases hs : (r.siblings d b).reverse.findSome? (·.cors?) with
    | some c' =>
      obtain ⟨d₁, o, hne, ho, hkey, hoc⟩ := findSome?_siblings hr.bindings_nodup hs
      refine ⟨Assoc.nodup_keys_put h.keys_nodup _ _, fun k c hk => ?_, fun d' b' c hb' hc' => ?_⟩
      · rw [Assoc.find?_put] at hk
        split at hk
        · next hkey' =>
          cases hk
          exact ⟨d₁, o, update_none_eq_some.2 ⟨hne, ho⟩, hkey.trans hkey'.symm, hoc⟩
        · next hkey' => exact other hk fun he => (hkey' he).elim
      · rw [Assoc.find?_put]
        split
        · exact ⟨c', rfl⟩
        · exact h.covered d' b' c (update_none_eq_some.1 hb').2 hc'
    | none =>
      refine ⟨Assoc.nodup_keys_remove h.keys_nodup _, fun k c hk => ?_, fun d' b' c hb' hc' => ?_⟩
      · rw [Assoc.find?_remove] at hk
        split at hk
        · cases hk
        · next hkey => exact other hk fun he => (hkey he).elim
      · obtain ⟨hne, hb'⟩ := update_none_eq_some.1 hb'
        rw [Assoc.find?_remove]
        split
        · next hkey =>
          have ho : b' ∈ r.siblings d b := (mem_siblings hr.bindings_nodup).2 ⟨d', hne, hb', hkey⟩
          have hnone := List.findSome?_eq_none_iff.1 hs b' (List.mem_reverse.2 ho)
          rw [hc'] at hnone
          cases hnone
        · exact h.covered d' b' c hb' hc'

theorem enter_cors {v : View D} {r : Registry D} (h : CorsAgree v r.cors) {d : D} {b : Binding}
    (hd : v d = none) : CorsAgree (update v d (some b)) (r.enter d b).cors := by
  have other : ∀ {d' b'}, v d' = some b' → update v d (some b) d' = some b' := by
    intro d' b' hb'
    exact update_some_eq_some.2 (.inr ⟨ne_of_unbound hd hb', hb'⟩)
  simp only [enter]
  cases hc : b.cors? with
  | none =>
    refine ⟨h.keys_nodup, fun k c hk => ?_, fun d' b' c hb' hc' => ?_⟩
    · obtain ⟨d', b', hb', hk, hc'⟩ := h.stored k c hk
      exact ⟨d', b', other hb', hk, hc'⟩
    · rcases update_some_eq_some.1 hb' with ⟨-, rfl⟩ | ⟨-, hb'⟩
      · rw [hc] at hc'
        cases hc'
      · exact h.covered d' b' c hb' hc'
  | some c =>
    refine ⟨Assoc.nodup_keys_put h.keys_nodup _ _, fun k c' hk => ?_, fun d' b' c' hb' hc' => ?_⟩
    · rw [Assoc.find?_put] at hk
      split at hk
      · next hkey =>
        cases hk
        exact ⟨d, b, update_some_eq_some.2 (.inl ⟨rfl, rfl⟩), hkey.symm, hc⟩
      · obtain ⟨d', b', hb', hk, hc'⟩ := h.stored k c' hk
        exact ⟨d', b', other hb', hk, hc'⟩
    · rw [Assoc.find?_put]
      split
      · exact ⟨c, rfl⟩
      · next hkey =>
        rcases update_some_eq_some.1 hb' with ⟨-, rfl⟩ | ⟨-, hb'⟩
        · exact (hkey rfl).elim
        · exact h.covered d' b' c' hb' hc'

/-! ### Operations -/

theorem release_agreement {r : Registry D} (hr : Invariant r) {d : D} {b : Binding}
    (hd : r.binding? d = some b) : Agreement (update r.binding? d none) (r.release d b) where
  fresh := fun d' b' hb' => hr.agreement.fresh d' b' (update_none_eq_some.1 hb').2
  paths := release_paths hr.agreement.paths hd
  names := release_names hr hd
  cors := release_cors hr hd

theorem enter_agreement {v : View D} {r : Registry D} (h : Agreement v r) {d : D} {b : Binding}
    (hd : v d = none) (hb : Fresh b) : Agreement (update v d (some b)) (r.enter d b) where
  fresh := fun d' b' hb' => by
    rcases update_some_eq_some.1 hb' with ⟨-, rfl⟩ | ⟨-, hb'⟩
    · exact hb
    · exact h.fresh d' b' hb'
  paths := enter_paths h.paths hd hb.paths_nodup
  names := enter_names h hd hb.unresolved
  cors := enter_cors h.cors hd

theorem empty_invariant : Invariant (empty : Registry D) where
  bindings_nodup := List.nodup_nil
  agreement :=
    { fresh := by simp [binding?, empty]
      paths := ⟨.nil, by simp [empty], by simp [empty, binding?]⟩
      names := ⟨.nil, by simp [empty], by simp [empty, binding?]⟩
      cors := ⟨List.nodup_nil, by simp [empty], by simp [empty, binding?]⟩ }

omit [DecidableEq D] in
theorem bindingFor_fresh {s : Strategy D} {naming? : Option (Naming D)} {d : D}
    {source : HandlerSource} {method : Signature} {b : Binding}
    (h : bindingFor s naming? d source method = .ok b) : Fresh b := by
  obtain ⟨hh, hp, -⟩ := bindingFor_eq_ok h
  exact ⟨by rw [hh], hp ▸ nodup_eraseDups _⟩

theorem register_invariant {r r' : Registry D} (hr : Invariant r) {s : Strategy D}
    {naming? : Option (Naming D)} {d : D} {source : HandlerSource} {method : Signature}
    (h : r.register s naming? d source method = .ok r') : Invariant r' := by
  obtain ⟨b, hb, ⟨hd, rfl⟩ | ⟨held, hd, -, rfl⟩⟩ := register_cases h
  · refine ⟨Assoc.nodup_keys_put hr.bindings_nodup d b, ?_⟩
    rw [binding?_enter]
    exact enter_agreement hr.agreement hd (bindingFor_fresh hb)
  · refine ⟨Assoc.nodup_keys_put hr.bindings_nodup d b, ?_⟩
    have h := enter_agreement (d := d) (release_agreement hr hd) (Function.update_self ..)
      (bindingFor_fresh hb)
    rw [Function.update_idem] at h
    rwa [binding?_enter]

theorem unregister_invariant {r : Registry D} (hr : Invariant r) (d : D) :
    Invariant (r.unregister d) := by
  cases hd : r.binding? d with
  | none => rwa [unregister, hd]
  | some b =>
    rw [unregister_of_binding hd]
    refine ⟨Assoc.nodup_keys_remove hr.bindings_nodup d, ?_⟩
    have hv : (⟨Assoc.remove r.bindings d, (r.release d b).paths, (r.release d b).names,
        (r.release d b).cors⟩ : Registry D).binding? = update r.binding? d none := by
      funext d'
      simp only [binding?, Assoc.find?_remove, Function.update_apply]
    have h := release_agreement hr hd
    rw [hv]
    exact ⟨h.fresh, h.paths, h.names, h.cors⟩

theorem next_invariant {r : Registry D} (hr : Invariant r) (a : Action D) :
    Invariant (r.next a) := by
  cases a with
  | register s naming? d source method =>
    simp only [next]
    split
    · next h => exact register_invariant hr h
    · exact hr
  | unregister d => exact unregister_invariant hr d
  | clear => exact empty_invariant

theorem runTrace_invariant {r : Registry D} (hr : Invariant r) (history : List (Action D)) :
    Invariant (r.runTrace history) := by
  induction history generalizing r with
  | nil => exact hr
  | cons a rest ih => exact ih (next_invariant hr a)

/-! ### Agreement of the four structures -/

structure IndexesAgree (r : Registry D) : Prop where
  one_entry : (Assoc.keys r.bindings).Nodup ∧ (Assoc.keys r.paths).Nodup ∧
    (Assoc.keys r.names).Nodup ∧ (Assoc.keys r.cors).Nodup
  path_entry : ∀ path, Assoc.contains r.paths path = true ↔
    ∃ d b, r.binding? d = some b ∧ path ∈ b.directPaths
  path_bucket : ∀ path ds, Assoc.find? r.paths path = some ds →
    ds.Nodup ∧ ∀ d, d ∈ ds ↔ ∃ b, r.binding? d = some b ∧ path ∈ b.directPaths
  name_entry : ∀ name, Assoc.contains r.names name = true ↔
    ∃ d b, r.binding? d = some b ∧ b.name? = some name
  name_list : ∀ name hs, r.named? name = some hs →
    hs ≠ [] ∧ (hs.map HandlerMethod.key).Nodup ∧
      ∀ h, h ∈ hs ↔ ∃ d b, r.binding? d = some b ∧ b.name? = some name ∧ b.handler = h
  cors_entry : ∀ k, Assoc.contains r.cors k = true ↔
    ∃ d b c, r.binding? d = some b ∧ b.handler.key = k ∧ b.cors? = some c
  cors_config : ∀ k c, Assoc.find? r.cors k = some c →
    ∃ d b, r.binding? d = some b ∧ b.handler.key = k ∧ b.cors? = some c

/-- Whatever is registered, replaced, withdrawn or cleared, no entry is orphaned or missing. -/
theorem runTrace_indexes_agree (history : List (Action D)) :
    IndexesAgree (runTrace (.empty : Registry D) history) := by
  obtain ⟨hb, -, hp, hn, hc⟩ := runTrace_invariant empty_invariant history
  refine ⟨⟨hb, hp.proper.keys_nodup, hn.proper.keys_nodup, hc.keys_nodup⟩, fun path => ?_,
    fun path ds hds => ?_, fun name => ?_, fun name hs hhs => ?_, fun k => ?_, hc.stored⟩
  · simp only [hp.proper.contains_iff, hp.mem]
  · obtain ⟨-, rfl⟩ := hp.proper.find?_eq_some_iff.1 hds
    exact ⟨hp.nodup path, hp.mem path⟩
  · simp only [hn.proper.contains_iff, hn.mem]
    constructor
    · rintro ⟨h, d, b, hb, hname, -⟩
      exact ⟨d, b, hb, hname⟩
    · rintro ⟨d, b, hb, hname⟩
      exact ⟨b.handler, d, b, hb, hname, rfl⟩
  · obtain ⟨hne, rfl⟩ := hn.proper.find?_eq_some_iff.1 hhs
    exact ⟨hne, hn.nodup name, hn.mem name⟩
  · rw [Assoc.contains, Option.isSome_iff_exists]
    constructor
    · rintro ⟨c, hk⟩
      obtain ⟨d, b, hb, hk, hc⟩ := hc.stored k c hk
      exact ⟨d, b, c, hb, hk, hc⟩
    · rintro ⟨d, b, c, hb, rfl, hcb⟩
      exact hc.covered d b c hb hcb

end RequestDispatch.Registry
