import RequestDispatch.Proofs.Registry.RoundTrip

/-! # The order of the descriptors of a path

The registry lists a descriptor in the place of its first registration, and keeps it there when
the registration is replaced. The path index takes the descriptor out and puts it last. So the
descriptors of a path stand in the order of their latest registrations, which is the order of the
listing as long as nothing is registered again behind its back. -/
namespace RequestDispatch.Registry

open Function (update)

variable {D : Type} [DecidableEq D]

/-! ### Two orders of descriptors -/

def listed (r : Registry D) : List D :=
  r.handlers.map (·.1)

def onPath (r : Registry D) (path : String) (d : D) : Bool :=
  (r.binding? d).any fun b => path ∈ b.directPaths

def listedAt (r : Registry D) (path : String) : List D :=
  r.listed.filter (r.onPath path)

def nextLatest (r : Registry D) (latest : List D) : Action D → List D
  | .register s naming? d source method =>
    match r.register s naming? d source method with
    | .ok _ => latest.filter (· ≠ d) ++ [d]
    | .error _ => latest
  | .unregister d => latest.filter (· ≠ d)
  | .clear => []

/-- The bound descriptors in the order of their latest registrations. -/
def latestTrace (r : Registry D) (latest : List D) : List (Action D) → List D
  | [] => latest
  | a :: rest => latestTrace (r.next a) (nextLatest r latest a) rest

section Listing

variable {r : Registry D} {latest : List D} {path : String} {d d' : D} {b held : Binding}

omit [DecidableEq D] in
theorem listed_eq_keys (r : Registry D) : r.listed = Assoc.keys r.bindings := by
  simp [listed, handlers, Assoc.keys, Function.comp_def]

theorem mem_listed : d ∈ r.listed ↔ ∃ b, r.binding? d = some b := by
  rw [listed_eq_keys, ← Assoc.contains_iff_mem_keys, Assoc.contains, Option.isSome_iff_exists]
  rfl

theorem onPath_iff : r.onPath path d = true ↔ ∃ b, r.binding? d = some b ∧ path ∈ b.directPaths := by
  simp [onPath, Option.any_eq_true]

theorem mem_atPath (hr : Invariant r) : d ∈ r.atPath path ↔ r.onPath path d = true := by
  rw [onPath_iff]
  exact hr.agreement.paths.mem path d

theorem onPath_of_update {r' : Registry D} (h : r'.binding? = update r.binding? d (some b)) :
    r'.onPath path d' = if d' = d then decide (path ∈ b.directPaths) else r.onPath path d' := by
  unfold onPath
  rw [h, Function.update_apply]
  split <;> rfl

theorem onPath_unregister (hne : d' ≠ d) :
    (r.unregister d).onPath path d' = r.onPath path d' := by
  cases hd : r.binding? d with
  | none => rw [unregister, hd]
  | some b =>
    have hfind : (r.unregister d).binding? d' = r.binding? d' := by
      rw [unregister_of_binding hd]
      exact Assoc.find?_remove_of_ne _ hne
    rw [onPath, onPath, hfind]

/-! ### One step of the path index -/

theorem filter_ne_of_notMem {l : List D} (h : d ∉ l) : l.filter (· ≠ d) = l := by
  rw [List.filter_eq_self]
  intro d' hd'
  rw [decide_eq_true_iff]
  rintro rfl
  exact h hd'

theorem notMem_atPath (hr : Invariant r) (hd : r.binding? d = none) : d ∉ r.atPath path :=
  hr.agreement.paths.not_mem hd path

theorem atPath_release (hr : Invariant r) (hd : r.binding? d = some held) :
    (r.release d held).atPath path = (r.atPath path).filter (· ≠ d) := by
  unfold atPath release
  rw [bucket_dropPaths]
  by_cases hpath : path ∈ held.directPaths
  · rw [if_pos hpath]
  · have hout : d ∉ r.atPath path := by
      intro hmem
      obtain ⟨b, hb, hpath'⟩ := (hr.agreement.paths.mem path d).1 hmem
      cases hd.symm.trans hb
      exact hpath hpath'
    rw [if_neg hpath]
    exact (filter_ne_of_notMem hout).symm

theorem atPath_enter (hb : b.directPaths.Nodup) :
    (r.enter d b).atPath path = r.atPath path ++ if path ∈ b.directPaths then [d] else [] := by
  unfold atPath enter
  rw [bucket_addPaths d hb]
  split
  · rfl
  · rw [List.append_nil]

theorem atPath_unregister (hr : Invariant r) :
    (r.unregister d).atPath path = (r.atPath path).filter (· ≠ d) := by
  cases hd : r.binding? d with
  | none => rw [unregister, hd, filter_ne_of_notMem (notMem_atPath hr hd)]
  | some held =>
    rw [unregister_of_binding hd]
    exact atPath_release hr hd

/-- A registration puts the descriptor last on its paths, wherever it stood before. -/
theorem atPath_register (hr : Invariant r) {r' : Registry D} {s : Strategy D}
    {naming? : Option (Naming D)} {source : HandlerSource} {method : Signature}
    (h : r.register s naming? d source method = .ok r') :
    ∃ b, r'.binding? = update r.binding? d (some b) ∧
      ∀ path, r'.atPath path =
        (r.atPath path).filter (· ≠ d) ++ if path ∈ b.directPaths then [d] else [] := by
  obtain ⟨b, hb, ⟨hd, rfl⟩ | ⟨held, hd, -, rfl⟩⟩ := register_cases h
  · refine ⟨b, binding?_enter r d b, ?_⟩
    intro path
    rw [atPath_enter (bindingFor_fresh hb).paths_nodup,
      filter_ne_of_notMem (notMem_atPath hr hd)]
  · refine ⟨b, binding?_enter _ d b, ?_⟩
    intro path
    rw [atPath_enter (bindingFor_fresh hb).paths_nodup, atPath_release hr hd]

/-! ### A whole run -/

/-- The bound descriptors, each once, in an order that each path keeps to. -/
structure InOrder (r : Registry D) (latest : List D) : Prop where
  nodup : latest.Nodup
  mem : ∀ d, d ∈ latest ↔ ∃ b, r.binding? d = some b
  at_path : ∀ path, r.atPath path = latest.filter (r.onPath path)

theorem empty_in_order : InOrder (empty : Registry D) [] :=
  ⟨List.nodup_nil, fun _ => ⟨nofun, nofun⟩, fun _ => rfl⟩

theorem register_in_order (hr : Invariant r) (h : InOrder r latest) {r' : Registry D}
    {s : Strategy D} {naming? : Option (Naming D)} {source : HandlerSource} {method : Signature}
    (hreg : r.register s naming? d source method = .ok r') :
    InOrder r' (latest.filter (· ≠ d) ++ [d]) := by
  obtain ⟨b, hbinding, hpaths⟩ := atPath_register hr hreg
  refine ⟨?_, ?_, ?_⟩
  · rw [← List.concat_eq_append]
    exact (h.nodup.filter _).concat (by simp)
  · intro d'
    rw [hbinding, Function.update_apply, List.mem_append, List.mem_filter, List.mem_singleton,
      h.mem, decide_eq_true_iff]
    by_cases hne : d' = d <;> simp [hne]
  · intro path
    have hothers : (latest.filter (· ≠ d)).filter (r'.onPath path) =
        (latest.filter (· ≠ d)).filter (r.onPath path) := by
      apply List.filter_congr
      intro d' hd'
      have hne : d' ≠ d := of_decide_eq_true (List.mem_filter.1 hd').2
      rw [onPath_of_update hbinding, if_neg hne]
    rw [hpaths, h.at_path, List.filter_comm, List.filter_append, hothers, List.filter_singleton,
      onPath_of_update hbinding, if_pos rfl]
    by_cases hpath : path ∈ b.directPaths <;> simp [hpath]

theorem unregister_in_order (hr : Invariant r) (h : InOrder r latest) :
    InOrder (r.unregister d) (latest.filter (· ≠ d)) := by
  refine ⟨h.nodup.filter _, ?_, ?_⟩
  · intro d'
    rw [List.mem_filter, h.mem, decide_eq_true_iff]
    cases hd : r.binding? d with
    | none =>
      rw [unregister, hd]
      constructor
      · exact And.left
      · rintro ⟨b', hb'⟩
        exact ⟨⟨b', hb'⟩, ne_of_unbound hd hb'⟩
    | some b =>
      rw [unregister_of_binding hd]
      simp only [binding?, Assoc.find?_remove]
      by_cases hne : d' = d <;> simp [hne]
  · intro path
    rw [atPath_unregister hr, h.at_path, List.filter_comm]
    apply List.filter_congr
    intro d' hd'
    have hne : d' ≠ d := of_decide_eq_true (List.mem_filter.1 hd').2
    rw [onPath_unregister hne]

theorem next_in_order (hr : Invariant r) (h : InOrder r latest) (a : Action D) :
    InOrder (r.next a) (nextLatest r latest a) := by
  cases a with
  | register s naming? d source method =>
    simp only [next, nextLatest]
    cases hreg : r.register s naming? d source method with
    | ok r' => exact register_in_order hr h hreg
    | error e => exact h
  | unregister d => exact unregister_in_order hr h
  | clear => exact empty_in_order

theorem runTrace_in_order (hr : Invariant r) (h : InOrder r latest) (history : List (Action D)) :
    InOrder (r.runTrace history) (latestTrace r latest history) := by
  induction history generalizing r latest with
  | nil => exact h
  | cons a rest ih => exact ih (next_invariant hr a) (next_in_order hr h a)

/-! ### Against the listing -/

theorem nodup_listed (hr : Invariant r) : r.listed.Nodup := by
  rw [listed_eq_keys]
  exact hr.bindings_nodup

theorem perm_atPath_listedAt (hr : Invariant r) : (r.atPath path).Perm (r.listedAt path) := by
  have hnodup : (r.atPath path).Nodup := hr.agreement.paths.nodup path
  have hnodup' : (r.listedAt path).Nodup := (nodup_listed hr).filter _
  rw [List.perm_ext_iff_of_nodup hnodup hnodup']
  intro d
  rw [mem_atPath hr, listedAt, List.mem_filter, mem_listed]
  constructor
  · intro hd
    obtain ⟨b, hb, -⟩ := onPath_iff.1 hd
    exact ⟨⟨b, hb⟩, hd⟩
  · exact And.right

def Before (l : List D) (d d' : D) : Prop :=
  [d, d'].Sublist l

omit [DecidableEq D] in
theorem Before.of_filter {l : List D} {p : D → Bool} (h : Before (l.filter p) d d') :
    Before l d d' :=
  h.trans List.filter_sublist

omit [DecidableEq D] in
theorem Before.not_symm {l : List D} (hl : l.Nodup) (h : Before l d d') : ¬Before l d' d := by
  unfold Before at h ⊢
  intro h'
  induction l with
  | nil => cases h
  | cons a l ih =>
    obtain ⟨ha, hl⟩ := List.nodup_cons.1 hl
    cases h with
    | cons _ h =>
      cases h' with
      | cons _ h' => exact ih hl h h'
      | cons_cons _ h' => exact ha (h.subset (by simp))
    | cons_cons _ h =>
      cases h' with
      | cons _ h' => exact ha (h'.subset (by simp))
      | cons_cons _ h' => exact ha (h.subset (by simp))

/-- The path keeps to the listing exactly if any two of its descriptors were last registered in
the order in which they are listed. -/
theorem atPath_eq_listedAt_iff (hr : Invariant r) (h : InOrder r latest) :
    r.atPath path = r.listedAt path ↔
      ∀ d ∈ r.atPath path, ∀ d' ∈ r.atPath path, Before r.listed d d' → Before latest d d' := by
  constructor
  · intro heq d hd d' hd' hbefore
    rw [mem_atPath hr] at hd hd'
    have hpair : Before (r.listedAt path) d d' := by
      have hfilter := List.Sublist.filter (r.onPath path) hbefore
      rwa [List.filter_cons_of_pos hd, List.filter_cons_of_pos hd'] at hfilter
    rw [← heq, h.at_path] at hpair
    exact hpair.of_filter
  · intro hlast
    have hperm : (r.atPath path).Perm (r.listedAt path) := perm_atPath_listedAt hr
    -- both lists keep to the order of the latest registrations
    have hpath : (r.atPath path).Pairwise (Before latest) := by
      rw [h.at_path, List.pairwise_iff_forall_sublist]
      intro d d' hpair
      exact Before.of_filter hpair
    have hlisted : (r.listedAt path).Pairwise (Before latest) := by
      rw [List.pairwise_iff_forall_sublist]
      intro d d' hpair
      have hmem : ∀ x ∈ [d, d'], x ∈ r.atPath path := by
        intro x hx
        exact hperm.mem_iff.2 (hpair.subset hx)
      exact hlast d (hmem d (by simp)) d' (hmem d' (by simp)) (Before.of_filter hpair)
    apply List.Perm.eq_of_pairwise _ hpath hlisted hperm
    intro d d' _ _ hbefore hafter
    exact absurd hafter (Before.not_symm h.nodup hbefore)

/-! ### Without replacements -/

theorem listed_enter (hd : r.binding? d = none) : (r.enter d b).listed = r.listed ++ [d] := by
  rw [listed_eq_keys, listed_eq_keys, bindings_enter hd]
  exact List.map_append

theorem listed_unregister : (r.unregister d).listed = r.listed.filter (· ≠ d) := by
  rw [listed_eq_keys, listed_eq_keys, ← Assoc.keys_remove]
  cases hd : r.binding? d with
  | none => rw [unregister, hd, Assoc.remove_of_find?_eq_none hd]
  | some b => rw [unregister_of_binding hd]

/-- As long as nothing is replaced, what was registered last is listed last. -/
theorem latestTrace_eq_listed {history : List (Action D)} (hu : Unreplaced r history) :
    latestTrace r r.listed history = (r.runTrace history).listed := by
  induction history generalizing r with
  | nil => rfl
  | cons a rest ih =>
    have hnext : nextLatest r r.listed a = (r.next a).listed := by
      cases a with
      | register s naming? d source method =>
        have hd : r.binding? d = none := Classical.not_not.1 hu.1
        simp only [next, nextLatest]
        cases hreg : r.register s naming? d source method with
        | error e => rfl
        | ok r' =>
          obtain ⟨b, -, ⟨-, rfl⟩ | ⟨held, hheld, -⟩⟩ := register_cases hreg
          · have hkeep : r.listed.filter (· ≠ d) = r.listed := by
              rw [← listed_unregister, unregister, hd]
            simp only [hkeep, listed_enter hd]
          · rw [hd] at hheld
            cases hheld
      | unregister d => exact listed_unregister.symm
      | clear => rfl
    rw [latestTrace, hnext]
    exact ih hu.2

end Listing

/-! ### The order of every path -/

structure PathOrder (history : List (Action D)) (path : String) : Prop where
  members : ((runTrace .empty history).atPath path).Perm ((runTrace .empty history).listedAt path)
  latest : (runTrace .empty history).atPath path =
    (latestTrace .empty [] history).filter ((runTrace .empty history).onPath path)
  as_listed_iff : (runTrace .empty history).atPath path = (runTrace .empty history).listedAt path ↔
    ∀ d ∈ (runTrace .empty history).atPath path, ∀ d' ∈ (runTrace .empty history).atPath path,
      Before (runTrace .empty history).listed d d' → Before (latestTrace .empty [] history) d d'
  unreplaced : Unreplaced .empty history →
    (runTrace .empty history).atPath path = (runTrace .empty history).listedAt path

/-- After any history, the descriptors of a path stand in the order of their latest
registrations. That is the order in which they are listed exactly if none of them was registered
again behind one that is listed after it. -/
theorem runTrace_path_order (history : List (Action D)) (path : String) :
    PathOrder history path := by
  have hr : Invariant (runTrace .empty history) := runTrace_invariant empty_invariant history
  have h : InOrder (runTrace .empty history) (latestTrace .empty [] history) :=
    runTrace_in_order empty_invariant empty_in_order history
  refine ⟨perm_atPath_listedAt hr, h.at_path path, atPath_eq_listedAt_iff hr h, ?_⟩
  intro hu
  have hlatest : latestTrace .empty [] history = (runTrace .empty history).listed :=
    latestTrace_eq_listed hu
  rw [h.at_path, hlatest, listedAt]

/-! ### Two routes on one path -/

def statusBy (method : Method) : RouteMapping := RouteMapping.of ["/status"] [method] none

def registerStatusBy (method : Method) (handler : String) : Action RouteMapping :=
  .register (RouteTable.strategy []) none (statusBy method) (.bean "api") ⟨"Api", handler, []⟩

/-- The route for GET is registered again. It stays first in the listing and goes last on its
path. -/
theorem route_registered_again_goes_last :
    let r := runTrace .empty [registerStatusBy .get "read", registerStatusBy .post "write",
      registerStatusBy .get "read"]
    r.atPath "/status" = [statusBy .post, statusBy .get] ∧
    r.listedAt "/status" = [statusBy .get, statusBy .post] ∧
    r.atPath "/status" ≠ r.listedAt "/status" := by
  decide +kernel

end RequestDispatch.Registry
