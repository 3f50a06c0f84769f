import RequestDispatch.Proofs.Registry.Indexes
import RequestDispatch.Route.Table

/-! # Registering and withdrawing again

A registration that is withdrawn at once leaves registrations, paths and names as they were. The
CORS metadata of its handler method is computed anew from the position of the remaining
registrations, and a registration that replaced another one is in force without being the last. -/
namespace RequestDispatch.Registry

variable {D : Type} [DecidableEq D]

structure Same (r r' : Registry D) : Prop where
  bindings : r.bindings = r'.bindings
  paths : ∀ path, Assoc.find? r.paths path = Assoc.find? r'.paths path
  names : ∀ name, r.named? name = r'.named? name
  cors : ∀ k, Assoc.find? r.cors k = Assoc.find? r'.cors k

/-- The CORS metadata of the last registration of a handler method that has any. -/
def latestCors? (r : Registry D) (k : HandlerKey) : Option CorsConfig :=
  ((r.bindings.filter fun e => e.2.handler.key = k).map (·.2)).reverse.findSome? (·.cors?)

theorem bindings_enter {r : Registry D} {d : D} (hd : r.binding? d = none) (b : Binding) :
    (r.enter d b).bindings = r.bindings ++ [(d, b)] :=
  Assoc.put_of_find?_eq_none hd b

theorem binding?_enter_self (r : Registry D) (d : D) (b : Binding) :
    (r.enter d b).binding? d = some b :=
  Assoc.find?_put_self r.bindings d b

theorem siblings_enter {r : Registry D} {d : D} (hd : r.binding? d = none) (b : Binding) :
    (r.enter d b).siblings d b =
      (r.bindings.filter fun e => e.2.handler.key = b.handler.key).map (·.2) := by
  rw [siblings, bindings_enter hd, List.filter_append]
  have hnew : ([(d, b)].filter fun e => e.1 ≠ d && e.2.handler.sameAs b.handler) = [] := by simp
  rw [hnew, List.append_nil]
  congr 1
  refine List.filter_congr fun e he => ?_
  have hne : e.1 ≠ d := fun h => Assoc.find?_eq_none_iff.1 hd (h ▸ List.mem_map_of_mem he)
  simp [hne, HandlerMethod.sameAs]

section Enter

variable {r : Registry D} {d : D} {b : Binding}

theorem bindings_unregister_enter (hd : r.binding? d = none) :
    ((r.enter d b).unregister d).bindings = r.bindings := by
  rw [unregister_of_binding (binding?_enter_self r d b)]
  exact Assoc.remove_put_of_find?_eq_none hd b

theorem paths_unregister_enter (hr : Invariant r) (hd : r.binding? d = none) (hb : Fresh b)
    (path : String) :
    Assoc.find? ((r.enter d b).unregister d).paths path = Assoc.find? r.paths path := by
  have hp := hr.agreement.paths
  have hin := (enter_paths hp hd hb.paths_nodup).proper
  rw [unregister_of_binding (binding?_enter_self r d b)]
  have hout := proper_foldl (f := dropPath d) (fun _ path hp => hp.sieve path _) b.directPaths hin
  refine hout.find?_congr hp.proper ?_
  rw [bucket_dropPaths, bucket_addPaths d hb.paths_nodup]
  split
  · have hothers : ∀ d' ∈ Assoc.bucket r.paths path, d' ≠ d := by
      rintro d' hd' rfl
      exact hp.not_mem hd path hd'
    rw [List.filter_append, List.filter_eq_self.2 (by simpa using hothers)]
    simp
  · rfl

theorem any_named_eq (hr : Invariant r) (name : String) (h : HandlerMethod) :
    ((r.bindings.filter fun e => e.2.handler.key = h.key).map (·.2)).any
      (fun o => o.name? = some name) = (Assoc.bucket r.names name).any h.sameAs := by
  rw [Bool.eq_iff_iff]
  simp only [List.any_eq_true, List.mem_map, List.mem_filter, decide_eq_true_eq,
    HandlerMethod.sameAs, hr.agreement.names.mem]
  constructor
  · rintro ⟨_, ⟨⟨d', o⟩, ⟨ho, hk⟩, rfl⟩, hname⟩
    exact ⟨o.handler, ⟨d', o, (Assoc.mem_iff_find? hr.bindings_nodup).1 ho, hname, rfl⟩, hk.symm⟩
  · rintro ⟨_, ⟨d', o, ho, hname, rfl⟩, hk⟩
    exact ⟨o, ⟨(d', o), ⟨(Assoc.mem_iff_find? hr.bindings_nodup).2 ho, hk.symm⟩, rfl⟩, hname⟩

theorem names_unregister_enter (hr : Invariant r) (hd : r.binding? d = none) (name : String) :
    ((r.enter d b).unregister d).named? name = r.named? name := by
  have hn := hr.agreement.names
  rw [unregister_of_binding (binding?_enter_self r d b)]
  simp only [named?, release, siblings_enter hd]
  simp only [enter]
  cases hname : b.name? with
  | none => rfl
  | some own =>
    dsimp only
    rw [any_named_eq hr, addName]
    cases hany : (Assoc.bucket r.names own).any b.handler.sameAs with
    | true => rfl
    | false =>
      simp only [Bool.false_eq_true, if_false]
      refine ((hn.proper.push own _).sieve own _).find?_congr hn.proper ?_
      rw [Assoc.bucket_sieve, Assoc.bucket_push, Assoc.bucket_push]
      split
      · next he =>
        subst he
        have hout : ∀ h ∈ Assoc.bucket r.names name, (!b.handler.sameAs h) = true := by
          intro h hh
          simpa using List.any_eq_false.1 hany h hh
        rw [if_pos rfl, List.filter_append, List.filter_eq_self.2 hout]
        simp [HandlerMethod.sameAs]
      · rfl

/-- With metadata of its own, a registration that is withdrawn leaves its handler method with the
metadata of the last registration that has any. -/
theorem cors_unregister_enter (hd : r.binding? d = none) (k : HandlerKey) :
    Assoc.find? ((r.enter d b).unregister d).cors k =
      if k = b.handler.key ∧ b.cors?.isSome then r.latestCors? k else Assoc.find? r.cors k := by
  rw [unregister_of_binding (binding?_enter_self r d b)]
  simp only [release, siblings_enter hd]
  simp only [enter]
  cases b.cors? with
  | none => simp
  | some c =>
    by_cases hk : k = b.handler.key
    · subst hk
      cases hl : r.latestCors? b.handler.key with
      | none =>
        rw [latestCors?] at hl
        simp [hl, Assoc.find?_remove_self]
      | some c' =>
        rw [latestCors?] at hl
        simp [hl, Assoc.find?_put_self]
    · dsimp only
      split
      · simp [hk, Assoc.find?_put]
      · simp [hk, Assoc.find?_put]
      · simp [hk, Assoc.find?_put, Assoc.find?_remove]

/-- The registry is the same again exactly if the metadata in force do not change. -/
theorem same_unregister_enter_iff (hr : Invariant r) (hd : r.binding? d = none) (hb : Fresh b) :
    Same ((r.enter d b).unregister d) r ↔
      b.cors? = none ∨ Assoc.find? r.cors b.handler.key = r.latestCors? b.handler.key := by
  constructor
  · intro h
    cases hc : b.cors? with
    | none => exact .inl rfl
    | some c =>
      have hk := h.cors b.handler.key
      rw [cors_unregister_enter hd, if_pos ⟨rfl, by rw [hc]; rfl⟩] at hk
      exact .inr hk.symm
  · intro h
    refine ⟨bindings_unregister_enter hd, paths_unregister_enter hr hd hb,
      names_unregister_enter hr hd, fun k => ?_⟩
    rw [cors_unregister_enter hd]
    split
    · next hk =>
      obtain ⟨rfl, hsome⟩ := hk
      rcases h with hnone | hforce
      · rw [hnone] at hsome
        cases hsome
      · exact hforce.symm
    · rfl

end Enter

/-! ### Without replacements -/

def Replaces (r : Registry D) : Action D → Prop
  | .register _ _ d _ _ => r.binding? d ≠ none
  | _ => False

def Unreplaced (r : Registry D) : List (Action D) → Prop
  | [] => True
  | a :: rest => ¬ Replaces r a ∧ Unreplaced (r.next a) rest

/-- The metadata in force are those of the last registration that has any. -/
def LatestInForce (r : Registry D) : Prop :=
  ∀ k, Assoc.find? r.cors k = r.latestCors? k

theorem latestCors?_enter {r : Registry D} {d : D} (hd : r.binding? d = none) (b : Binding)
    (k : HandlerKey) :
    (r.enter d b).latestCors? k =
      if b.handler.key = k then b.cors?.or (r.latestCors? k) else r.latestCors? k := by
  simp only [latestCors?, bindings_enter hd, List.filter_append, List.map_append,
    List.reverse_append, List.findSome?_append]
  split
  · next hk => simp [hk]
  · next hk => simp [hk]

theorem enter_latest_in_force {r : Registry D} (h : LatestInForce r) {d : D}
    (hd : r.binding? d = none) (b : Binding) : LatestInForce (r.enter d b) := by
  intro k
  rw [latestCors?_enter hd]
  simp only [enter]
  cases b.cors? with
  | none => simp [h k]
  | some c =>
    rw [Assoc.find?_put]
    by_cases hk : k = b.handler.key
    · simp [hk]
    · simp [hk, Ne.symm hk, h k]

theorem findSome?_filter {α β : Type} {p : α → Bool} {f : α → Option β} {l : List α}
    (h : ∀ a ∈ l, p a = false → f a = none) : (l.filter p).findSome? f = l.findSome? f := by
  induction l with
  | nil => rfl
  | cons a l ih =>
    have ih := ih fun b hb => h b (List.mem_cons_of_mem a hb)
    cases hp : p a with
    | true => simp [hp, List.findSome?_cons, ih]
    | false => simp [hp, ih, h a List.mem_cons_self hp]

omit [DecidableEq D] in
theorem latestCors?_eq_findSome? (r : Registry D) (k : HandlerKey) :
    r.latestCors? k =
      r.bindings.reverse.findSome? fun e => if e.2.handler.key = k then e.2.cors? else none := by
  rw [latestCors?, ← List.map_reverse, List.findSome?_map, ← List.filter_reverse]
  induction r.bindings.reverse with
  | nil => rfl
  | cons e l ih => by_cases hk : e.2.handler.key = k <;> simp [hk, List.findSome?_cons, ih]

theorem latestCors?_remove {r : Registry D} (hr : (Assoc.keys r.bindings).Nodup) {d : D}
    {b : Binding} (hd : r.binding? d = some b) {k : HandlerKey}
    (hk : b.handler.key = k → b.cors? = none) :
    (r.unregister d).latestCors? k = r.latestCors? k := by
  rw [unregister_of_binding hd, latestCors?_eq_findSome?, latestCors?_eq_findSome?]
  simp only [Assoc.remove]
  rw [← List.filter_reverse]
  refine findSome?_filter fun e he hed => ?_
  obtain ⟨d', b'⟩ := e
  obtain rfl : d' = d := by simpa using hed
  have hb := (Assoc.mem_iff_find? hr).1 (List.mem_reverse.1 he)
  cases hd.symm.trans hb
  simpa using hk

theorem findSome?_siblings_eq {r : Registry D} {d : D} {b : Binding} (hd : r.binding? d = some b) :
    (r.siblings d b).reverse.findSome? (·.cors?) =
      (r.unregister d).latestCors? b.handler.key := by
  rw [unregister_of_binding hd, latestCors?, siblings, Assoc.remove, List.filter_filter]
  congr 3
  refine List.filter_congr fun e _ => ?_
  rw [Bool.and_comm]
  simp [HandlerMethod.sameAs]

theorem unregister_latest_in_force {r : Registry D} (hr : Invariant r) (h : LatestInForce r)
    (d : D) : LatestInForce (r.unregister d) := by
  cases hd : r.binding? d with
  | none => rwa [unregister, hd]
  | some b =>
    intro k
    have hcors : (r.unregister d).cors = (r.release d b).cors := by rw [unregister_of_binding hd]
    rw [hcors]
    simp only [release, findSome?_siblings_eq hd]
    by_cases hk : k = b.handler.key
    · subst hk
      cases hc : b.cors? with
      | none => rw [latestCors?_remove hr.bindings_nodup hd fun _ => hc, ← h]
      | some c =>
        cases hl : (r.unregister d).latestCors? b.handler.key with
        | none => exact Assoc.find?_remove_self ..
        | some c' => exact Assoc.find?_put_self ..
    · rw [latestCors?_remove hr.bindings_nodup hd fun he => absurd he.symm hk, ← h]
      split
      · rfl
      · rw [Assoc.find?_put, if_neg hk]
      · rw [Assoc.find?_remove, if_neg hk]

theorem runTrace_latest_in_force {r : Registry D} (hr : Invariant r) (h : LatestInForce r)
    {history : List (Action D)} (hu : Unreplaced r history) :
    LatestInForce (r.runTrace history) := by
  induction history generalizing r with
  | nil => exact h
  | cons a rest ih =>
    refine ih (next_invariant hr a) ?_ hu.2
    cases a with
    | register s naming? d source method =>
      have hd : r.binding? d = none := Classical.not_not.1 hu.1
      simp only [next]
      split
      · next hreg =>
        obtain ⟨b, -, ⟨-, rfl⟩ | ⟨held, hheld, -⟩⟩ := register_cases hreg
        · exact enter_latest_in_force h hd b
        · rw [hd] at hheld
          cases hheld
      · exact h
    | unregister d => exact unregister_latest_in_force hr h d
    | clear => exact fun _ => rfl

omit [DecidableEq D] in
theorem empty_latest_in_force : LatestInForce (empty : Registry D) :=
  fun _ => rfl

/-- As long as no registration replaced another one, withdrawing a new one restores it all. -/
theorem unreplaced_round_trip {history : List (Action D)} (hu : Unreplaced .empty history)
    {s : Strategy D} {naming? : Option (Naming D)} {d : D} {source : HandlerSource}
    {method : Signature} {r' : Registry D} (hd : (runTrace .empty history).binding? d = none)
    (h : (runTrace .empty history).register s naming? d source method = .ok r') :
    Same (r'.unregister d) (runTrace .empty history) := by
  obtain ⟨b, hb, ⟨-, rfl⟩ | ⟨held, hheld, -⟩⟩ := register_cases h
  · exact (same_unregister_enter_iff (runTrace_invariant empty_invariant history) hd
      (bindingFor_fresh hb)).2 (.inr (runTrace_latest_in_force empty_invariant
        empty_latest_in_force hu _))
  · rw [hd] at hheld
    cases hheld

/-! ### With replacements -/

/-- Withdrawing a new registration restores all but, possibly, the CORS metadata of its handler
method, and those exactly if the registration has none of its own or those in force are the
latest by position. -/
theorem unregister_register_same_iff {history : List (Action D)} {s : Strategy D}
    {naming? : Option (Naming D)} {d : D} {source : HandlerSource} {method : Signature}
    {r' : Registry D} (hd : (runTrace .empty history).binding? d = none)
    (h : (runTrace .empty history).register s naming? d source method = .ok r') :
    (r'.unregister d).bindings = (runTrace .empty history).bindings ∧
    (∀ path, Assoc.find? (r'.unregister d).paths path =
      Assoc.find? (runTrace .empty history).paths path) ∧
    (∀ name, (r'.unregister d).named? name = (runTrace .empty history).named? name) ∧
    (∀ k, k ≠ ⟨source, method⟩ → Assoc.find? (r'.unregister d).cors k =
      Assoc.find? (runTrace .empty history).cors k) ∧
    (Same (r'.unregister d) (runTrace .empty history) ↔
      s.corsFor source method d = none ∨
      Assoc.find? (runTrace .empty history).cors ⟨source, method⟩ =
        (runTrace .empty history).latestCors? ⟨source, method⟩) := by
  have hr : Invariant (runTrace .empty history) := runTrace_invariant empty_invariant history
  obtain ⟨b, hb, ⟨-, rfl⟩ | ⟨held, hheld, -⟩⟩ := register_cases h
  · obtain ⟨hh, -, hc⟩ := bindingFor_eq_ok hb
    have hk : b.handler.key = ⟨source, method⟩ := by rw [hh]; rfl
    have hfresh := bindingFor_fresh hb
    refine ⟨bindings_unregister_enter hd, paths_unregister_enter hr hd hfresh,
      names_unregister_enter hr hd, fun k hne => ?_, ?_⟩
    · rw [cors_unregister_enter hd, if_neg fun hown => hne (hown.1.trans hk)]
    · rw [same_unregister_enter_iff hr hd hfresh, hk, hc]
  · rw [hd] at hheld
    cases hheld

/-! ### Routes that share a handler method -/

def statusRoutes (origin : String) : RouteTable :=
  RouteTable.route []
    { owner := "Api"
      handler := "status"
      methods := [.get]
      paths := ["/status"]
      cors? := some (CorsConfig.strict.allowOrigin origin) }

def statusMethod : Signature := ⟨"Api", "status", []⟩

def statusAt (path : String) : RouteMapping := RouteMapping.of [path] [.get] none

def registerStatus (path origin : String) : Action RouteMapping :=
  .register (statusRoutes origin).strategy none (statusAt path) (.bean "api") statusMethod

theorem register_eq_next {r : Registry D} {s : Strategy D} {naming? : Option (Naming D)} {d : D}
    {source : HandlerSource} {method : Signature}
    (h : (r.register s naming? d source method).isOk = true) :
    r.register s naming? d source method = .ok (r.next (.register s naming? d source method)) := by
  simp only [next]
  cases hr : r.register s naming? d source method with
  | ok r' => rfl
  | error e =>
    rw [hr] at h
    cases h

theorem two_routes_restored :
    let before := runTrace .empty [registerStatus "/a" "https://a.test",
      registerStatus "/b" "https://b.test"]
    before.binding? (statusAt "/d") = none ∧
    Same ((before.next (registerStatus "/d" "https://d.test")).unregister (statusAt "/d"))
      before := by
  intro before
  have hd : before.binding? (statusAt "/d") = none := by decide +kernel
  have h : (before.register (statusRoutes "https://d.test").strategy none (statusAt "/d")
      (.bean "api") statusMethod).isOk = true := by decide +kernel
  exact ⟨hd, (unregister_register_same_iff hd (register_eq_next h)).2.2.2.2.2
    (.inr (by decide +kernel))⟩

/-- The route that was registered again is in force, but the other one stands behind it. -/
theorem replaced_route_not_restored :
    let before := runTrace .empty [registerStatus "/a" "https://a.test",
      registerStatus "/b" "https://b.test", registerStatus "/a" "https://c.test"]
    before.binding? (statusAt "/d") = none ∧
    (before.register (statusRoutes "https://d.test").strategy none (statusAt "/d") (.bean "api")
      statusMethod).isOk = true ∧
    ¬ Same ((before.next (registerStatus "/d" "https://d.test")).unregister (statusAt "/d"))
      before := by
  refine ⟨by decide +kernel, by decide +kernel, fun hs => ?_⟩
  have hcors := hs.cors ⟨.bean "api", statusMethod⟩
  revert hcors
  decide +kernel

end RequestDispatch.Registry
