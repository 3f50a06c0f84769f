import RequestDispatch.Proofs.Mapping.Winner

/-! # From a handler to its chain

What is found for a request is put into a chain: first the CORS metadata for the handler, if there
are any, then the interceptors of the mapping. Both depend on the path of the request alone. -/
namespace RequestDispatch.HandlerMapping

variable {D : Type} [DecidableEq D] {m : HandlerMapping D}

/-! ### What is found, and its chain -/

theorem getHandler_spec (m : HandlerMapping D) (c : Containers) (r : Request D) :
    ∃ events, m.getHandler c r =
      ⟨match (m.findHandler c r).result with
        | .error e => .error e
        | .ok h? =>
          match h?.or m.defaultHandler? with
          | none => .ok none
          | some h => (m.chainFor h (m.findHandler c r).request).map some,
        (m.findHandler c r).request, (m.findHandler c r).containers, events⟩ := by
  unfold getHandler
  dsimp only
  cases (m.findHandler c r).result with
  | error e => exact ⟨_, rfl⟩
  | ok h? =>
    dsimp only
    cases h?.or m.defaultHandler? <;> exact ⟨_, rfl⟩

theorem getHandler_result (m : HandlerMapping D) (c : Containers) (r : Request D) :
    (m.getHandler c r).result =
      match (m.findHandler c r).result with
      | .error e => .error e
      | .ok h? =>
        match h?.or m.defaultHandler? with
        | none => .ok none
        | some h => (m.chainFor h (m.findHandler c r).request).map some := by
  obtain ⟨events, h⟩ := m.getHandler_spec c r
  rw [h]

theorem getHandler_request (m : HandlerMapping D) (c : Containers) (r : Request D) :
    (m.getHandler c r).request = (m.findHandler c r).request := by
  obtain ⟨events, h⟩ := m.getHandler_spec c r
  rw [h]

theorem getHandler_containers (m : HandlerMapping D) (c : Containers) (r : Request D) :
    (m.getHandler c r).containers = (m.findHandler c r).containers := by
  obtain ⟨events, h⟩ := m.getHandler_spec c r
  rw [h]

def noted (m : HandlerMapping D) (r : Request D) : Request D :=
  r.note .lookupPath (r.pathForLookup m.options.decode)

theorem findHandler_noted (m : HandlerMapping D) (c : Containers) (r : Request D) :
    (m.findHandler c r).result =
      resolved c (m.lookup (r.pathForLookup m.options.decode) (m.noted r)).1 :=
  m.findHandler_result c r

theorem findHandler_request (m : HandlerMapping D) (c : Containers) (r : Request D) :
    (m.findHandler c r).request =
      (m.lookup (r.pathForLookup m.options.decode) (m.noted r)).2 := by
  unfold findHandler
  dsimp only
  rw [← noted]
  generalize m.lookup _ _ = found
  match found with
  | (.error e, _) => rfl
  | (.ok none, _) => rfl
  | (.ok (some h), _) => rfl

theorem findHandler_containers (m : HandlerMapping D) (c : Containers) (r : Request D) :
    (m.findHandler c r).containers =
      match (m.lookup (r.pathForLookup m.options.decode) (m.noted r)).1 with
      | .ok (some h) => (h.resolve c).2
      | _ => c := by
  unfold findHandler
  dsimp only
  rw [← noted]
  rcases m.lookup _ _ with ⟨e | _ | h, r'⟩ <;> rfl

/-! ### The interceptors of a chain -/

def ownInterceptors (m : HandlerMapping D) (r : Request D) : List (Interceptor D) :=
  m.interceptors.filterMap (·.forPath? (r.notedPath m.options.decode))

omit [DecidableEq D] in
/-- Where metadata apply to a handler, one of their sources is there. -/
theorem hasCorsSource_of_corsFor? {h : HandlerMethod} {r : Request D} {config : CorsConfig}
    (hconfig : m.corsFor? h r = some config) : m.hasCorsSource h = true := by
  refine Decidable.byContradiction fun hgate => ?_
  simp only [hasCorsSource, Bool.or_eq_true, not_or, Bool.not_eq_true, Bool.not_eq_false',
    List.isEmpty_iff, Option.isSome_eq_false_iff, Option.isNone_iff_eq_none] at hgate
  obtain ⟨⟨hglobal, hsentinel⟩, hown⟩ := hgate
  simp [corsFor?, globalCorsFor?, handlerCors?, hglobal, hsentinel, hown] at hconfig

omit [DecidableEq D] in
/-- A chain begins with the metadata for the handler, if there are any. Where none can apply there
are none, so it does not matter whether the request is a preflight. -/
theorem chainFor_eq (m : HandlerMapping D) (h : HandlerMethod) (r : Request D) :
    m.chainFor h r =
      match m.corsFor? h r with
      | none => .ok ⟨h, m.ownInterceptors r⟩
      | some config =>
        config.validate.map fun _ => ⟨h, .cors config :: m.ownInterceptors r⟩ := by
  rw [chainFor, corsInterceptors]
  cases hconfig : m.corsFor? h r with
  | none => simp only [ite_self, Except.map, List.nil_append, ownInterceptors]
  | some config =>
    rw [hasCorsSource_of_corsFor? hconfig, Bool.true_or, if_pos rfl]
    cases hvalid : config.validate <;> simp [hvalid, Except.map, ownInterceptors]

omit [DecidableEq D] in
theorem corsFor?_congr {r r' : Request D}
    (hpath : r.notedPath m.options.decode = r'.notedPath m.options.decode) (h : HandlerMethod) :
    m.corsFor? h r = m.corsFor? h r' := by
  rw [corsFor?, corsFor?, hpath]

omit [DecidableEq D] in
theorem chainFor_congr {r r' : Request D}
    (hpath : r.notedPath m.options.decode = r'.notedPath m.options.decode) (h : HandlerMethod) :
    m.chainFor h r = m.chainFor h r' := by
  rw [chainFor_eq, chainFor_eq, corsFor?_congr hpath, ownInterceptors, ownInterceptors, hpath]

omit [DecidableEq D] in
theorem chainFor_eq_ok {h : HandlerMethod} {r : Request D} {chain : Chain D}
    (hchain : m.chainFor h r = .ok chain) :
    chain.handler = h ∧
      chain.interceptors = ((m.corsFor? h r).map .cors).toList ++ m.ownInterceptors r := by
  rw [chainFor_eq] at hchain
  cases hcors : m.corsFor? h r with
  | none =>
    rw [hcors] at hchain
    cases hchain
    exact ⟨rfl, rfl⟩
  | some config =>
    rw [hcors] at hchain
    cases hvalid : config.validate with
    | error e => simp [hvalid, Except.map] at hchain
    | ok _ =>
      simp only [hvalid, Except.map, Except.ok.injEq] at hchain
      cases hchain
      exact ⟨rfl, rfl⟩

end RequestDispatch.HandlerMapping
