import RequestDispatch.Proofs.Handler.Beans
import RequestDispatch.Proofs.Mapping.Preflight

/-! # What a preflight request foretells

Lookup treats a preflight request as the request that it asks for, except that a tie is not an
error for it. So a chain that it gets, unless it is that of the preflight handler, is the chain of
the other request as well, and the CORS metadata of the chain decide alike on both. -/
namespace RequestDispatch

variable {D : Type}

/-! ### A request and its probe -/

theorem Request.pathForLookup_congr {p a : Request D} (h : p.uri = a.uri) (decode : Bool) :
    p.pathForLookup decode = a.pathForLookup decode := by
  have huri : Text.upTo '?' p.target.toList = Text.upTo '?' a.target.toList :=
    String.ofList_injective h
  simp only [pathForLookup, canonicalPath, huri]

/-- The preflight request `p` asks whether `a` may be made. -/
structure Request.Probes (p a : Request D) : Prop where
  preflight : p.isPreflight = true
  method : p.header? "access-control-request-method" = some a.method
  plain : a.header? "access-control-request-method" = none
  path : ∀ decode, p.pathForLookup decode = a.pathForLookup decode
  origin : p.header? "origin" = a.header? "origin"

namespace Request.Probes

variable {p a : Request D}

theorem isPreflight_eq_false (h : p.Probes a) : a.isPreflight = false := by
  have hplain := h.plain
  rw [header?_requestedMethod] at hplain
  simp [isPreflight, Assoc.contains, hplain]

theorem origin_eq_some (h : p.Probes a) : ∃ origin, p.header? "origin" = some origin :=
  ((isPreflight_iff p).1 h.preflight).2.1

theorem routedMethod?_eq (h : p.Probes a) :
    RouteMapping.routedMethod? p = RouteMapping.routedMethod? a := by
  have hplain := h.isPreflight_eq_false
  unfold RouteMapping.routedMethod?
  rw [if_pos h.preflight, h.method, hplain, if_neg Bool.false_ne_true]
  rfl

end Request.Probes

/-- Without requested headers, the metadata answer a probe with status 200 exactly if they let
the request proceed. -/
theorem CorsConfig.enforce_probe_iff (c : CorsConfig) {p a : Request D} (h : p.Probes a)
    (hheaders : p.header? "access-control-request-headers" = none) (response response' : Response) :
    (c.enforce p response).2.status = 200 ↔ (c.enforce a response').1 = .proceed := by
  obtain ⟨origin, horigin⟩ := h.origin_eq_some
  rw [enforce_preflight_status_iff h.preflight horigin,
    enforce_proceeds_iff h.isPreflight_eq_false (h.origin ▸ horigin)]
  constructor
  · intro hprobe
    obtain ⟨method, hasked, hmethod⟩ := hprobe.method
    obtain rfl := Option.some.inj (h.method.symm.trans hasked)
    exact ⟨hprobe.origin, hmethod⟩
  · rintro ⟨hallowed, hmethod⟩
    refine ⟨hallowed, ⟨a.method, h.method, hmethod⟩, fun names hnames => ?_⟩
    rw [hheaders] at hnames
    cases hnames

/-! ### The notes of a lookup -/

/-- The notes that lookup leaves on a request change nothing else. -/
structure Request.Annotated (r : Request D) (path : String) (decode : Bool) (r' : Request D) :
    Prop where
  method : r'.method = r.method
  target : r'.target = r.target
  headers : r'.headers = r.headers
  notedPath : r'.notedPath decode = path

theorem Request.Annotated.note {r r' : Request D} {path : String} {decode : Bool}
    (h : r.Annotated path decode r') {key : RequestKey} (hkey : key ≠ .lookupPath)
    (v : key.Note D) : r.Annotated path decode (r'.note key v) := by
  refine ⟨h.method, h.target, h.headers, ?_⟩
  rw [← h.notedPath, Request.notedPath, Request.notedPath, Request.get?_note_of_ne _ _ hkey.symm]
  rfl

theorem Request.Probes.annotated {p a p' a' : Request D} {path path' : String}
    {decode decode' : Bool} (h : p.Probes a) (hp : p.Annotated path decode p')
    (ha : a.Annotated path' decode' a') : p'.Probes a' where
  preflight := by
    rw [isPreflight, hp.method, hp.headers]
    exact h.preflight
  method := by
    rw [header?, hp.headers, ha.method]
    exact h.method
  plain := by
    rw [header?, ha.headers]
    exact h.plain
  path decode := by
    rw [pathForLookup, pathForLookup, hp.target, ha.target]
    exact h.path decode
  origin := by
    rw [header?, header?, hp.headers, ha.headers]
    exact h.origin

/-- What lookup relies on here: a descriptor is narrowed by the path and the routed method alone,
matches are compared by the path alone, and only the defaults are done with the outcome. -/
structure Strategy.Foreseeable (s : Strategy D) : Prop where
  narrow_eq : ∀ {p a : Request D}, p.Probes a → p.notedPath true = a.notedPath true →
    ∀ d, s.narrow d p = s.narrow d a
  compare_eq : ∀ {p a : Request D}, p.notedPath true = a.notedPath true → s.compare p = s.compare a
  onMatch_eq : ∀ f path r, s.onMatch f path r = r.note .pathWithinMapping path
  onNoMatch_none : ∀ registry path r, s.onNoMatch registry path r = .ok none

theorem RouteTable.foreseeable (t : RouteTable) : t.strategy.Foreseeable where
  narrow_eq := by
    intro p a h hpath d
    simp only [strategy, RouteMapping.narrow?, RouteMapping.matchingMethods?, hpath,
      h.routedMethod?_eq]
  compare_eq := by
    intro p a hpath
    simp only [strategy, hpath]
  onMatch_eq _ _ _ := rfl
  onNoMatch_none _ _ _ := rfl

theorem urlStrategy_foreseeable : urlStrategy.Foreseeable where
  narrow_eq := by
    intro p a _ hpath d
    simp only [urlStrategy, hpath]
  compare_eq := by
    intro p a hpath
    simp only [urlStrategy, hpath]
  onMatch_eq _ _ _ := rfl
  onNoMatch_none _ _ _ := rfl

/-! ### Lookup -/

/-- How the selections for a probe and for the request go together. -/
inductive Selection.Foretells : Selection D → Selection D → Prop where
  | nothing : Foretells .nothing .nothing
  | best (f : Match D) : Foretells (.best f) (.best f)
  | tie (f : Match D) (first second : HandlerMethod) :
      Foretells (.best f) (.ambiguous first second)
  | sentinel (s : Selection D) : Foretells .preflight s

namespace HandlerMapping

variable [DecidableEq D] {m : HandlerMapping D} {p a : Request D} {path : String}

omit [DecidableEq D] in
theorem choose_foretells (hp : p.isPreflight = true) (ha : a.isPreflight = false)
    (ms : List (Match D)) : (m.choose p ms).Foretells (m.choose a ms) := by
  match ms with
  | [] => exact .nothing
  | [only] => exact .best only
  | first :: second :: rest =>
    simp only [choose, hp, ha, if_true, Bool.false_eq_true, if_false]
    split
    · exact .sentinel _
    · split
      · exact .tie first _ _
      · exact .best first

/-- The ranked matches depend on how bound descriptors are narrowed and compared. -/
theorem rank_candidates_congr
    (hnarrow : ∀ d b, m.registry.binding? d = some b → m.strategy.narrow d p = m.strategy.narrow d a)
    (hcompare : m.strategy.compare p = m.strategy.compare a) (path : String) :
    m.rank p (m.candidates path p) = m.rank a (m.candidates path a) := by
  have hamong : m.matchesAmong p = m.matchesAmong a := by
    funext ds
    unfold matchesAmong
    congr 1
    funext d
    cases hd : m.registry.binding? d with
    | none => cases m.strategy.narrow d p <;> cases m.strategy.narrow d a <;> rfl
    | some b => rw [hnarrow d b hd]
  simp only [rank, candidates, directMatches, allMatches, hamong, hcompare]

theorem select_foretells (hs : m.strategy.Foreseeable) (h : p.Probes a)
    (hpath : p.notedPath true = a.notedPath true) (path : String) :
    (m.select path p).Foretells (m.select path a) := by
  rw [select, select,
    rank_candidates_congr (fun d _ _ => hs.narrow_eq h hpath d) (hs.compare_eq hpath)]
  exact choose_foretells h.preflight h.isPreflight_eq_false _

theorem lookup_annotated (hs : m.strategy.Foreseeable) {r r' : Request D} {decode : Bool}
    (h : r.Annotated path decode r') : r.Annotated path decode (m.lookup path r').2 := by
  unfold lookup
  split
  · exact h
  · exact h
  · exact h
  · dsimp only
    rw [hs.onMatch_eq]
    exact ((h.note (by decide) _).note (by decide) _).note (by decide) _

omit [DecidableEq D] in
theorem noted_annotated (m : HandlerMapping D) (r : Request D) :
    r.Annotated (r.pathForLookup m.options.decode) m.options.decode (m.noted r) :=
  ⟨rfl, rfl, rfl, notedPath_note ..⟩

theorem getHandler_annotated (hs : m.strategy.Foreseeable) (c : Containers) (r : Request D) :
    r.Annotated (r.pathForLookup m.options.decode) m.options.decode
      (m.getHandler c r).request := by
  rw [getHandler_request, findHandler_request]
  exact lookup_annotated hs (m.noted_annotated r)

/-- The containers as they are for the request: as they were, or as the probe left them. -/
def Unchanged (m : HandlerMapping D) (c : Containers) (p : Request D) (c' : Containers) : Prop :=
  c' = c ∨ c' = (m.getHandler c p).containers

theorem resolve_unchanged {c c' : Containers} (hc : m.Unchanged c p c') {f : Match D}
    {h : HandlerMethod}
    (hselect : m.select (p.pathForLookup m.options.decode) (m.noted p) = .best f)
    (hresolved : (f.binding.handler.resolve c).1 = .ok h) :
    (f.binding.handler.resolve c').1 = .ok h := by
  rcases hc with rfl | rfl
  · exact hresolved
  · rw [getHandler_containers, findHandler_containers, lookup, hselect]
    exact HandlerMethod.resolve_again (Prod.ext hresolved rfl)

theorem resolved_some_ne_none (c : Containers) (h : HandlerMethod) :
    resolved c (.ok (some h)) ≠ .ok none := by
  cases hr : (h.resolve c).1 <;> simp [resolved, hr, Except.map]

theorem resolved_some_eq_ok_iff {c : Containers} {h found : HandlerMethod} :
    resolved c (.ok (some h)) = .ok (some found) ↔ (h.resolve c).1 = .ok found := by
  cases hr : (h.resolve c).1 <;> simp [resolved, hr, Except.map]

/-- What is found for a probe, compared with what is found for the request. -/
theorem findHandler_foretells (hs : m.strategy.Foreseeable) (h : p.Probes a) {c c' : Containers}
    (hc : m.Unchanged c p c') :
    ((m.findHandler c p).result = .ok none → (m.findHandler c' a).result = .ok none) ∧
    ∀ found, (m.findHandler c p).result = .ok (some found) →
      found = .preflight ∨
      (∃ first second,
        (m.findHandler c' a).result = .error (.ambiguousHandlers a.uri first second)) ∨
      (m.findHandler c' a).result = .ok (some found) := by
  have hnoted := h.annotated (m.noted_annotated p) (m.noted_annotated a)
  have hpath : (m.noted p).notedPath true = (m.noted a).notedPath true := by
    rw [noted, noted, notedPath_note, notedPath_note, h.path]
  -- Both lookups select at the same path, so one relation covers all outcomes.
  have hforetells := select_foretells hs hnoted hpath (p.pathForLookup m.options.decode)
  have hresult := m.findHandler_noted c p
  have hresult' := m.findHandler_noted c' a
  rw [lookup] at hresult hresult'
  rw [← h.path] at hresult'
  rw [hresult, hresult']
  generalize hp : m.select (p.pathForLookup m.options.decode) (m.noted p) = selected at hforetells
  generalize m.select _ (m.noted a) = selected' at hforetells
  cases hforetells with
  | nothing =>
    dsimp only
    rw [hs.onNoMatch_none, hs.onNoMatch_none]
    refine ⟨fun _ => rfl, fun found hfound => ?_⟩
    cases hfound
  | sentinel =>
    refine ⟨fun hnone => ?_, fun found hfound => .inl ?_⟩
    · cases hnone
    · cases hfound
      rfl
  | tie f first second =>
    exact ⟨fun hnone => absurd hnone (resolved_some_ne_none c _),
      fun found _ => .inr (.inl ⟨_, _, rfl⟩)⟩
  | best f =>
    refine ⟨fun hnone => absurd hnone (resolved_some_ne_none c _), fun found hfound => ?_⟩
    have hagain := resolve_unchanged hc hp (resolved_some_eq_ok_iff.1 hfound)
    exact .inr (.inr (resolved_some_eq_ok_iff.2 hagain))

/-! ### Chains -/

section Chains

variable {c c' : Containers}

/-- The chain of a probe is that of the request as well. If it enforces CORS metadata, then these
answer a probe without requested headers with status 200 exactly if they let the request
proceed. -/
structure SameChain (m : HandlerMapping D) (c c' : Containers) (p a : Request D)
    (chain : Chain D) : Prop where
  result : (m.getHandler c' a).result = .ok (some chain)
  cors : m.corsFor? chain.handler (m.getHandler c' a).request =
    m.corsFor? chain.handler (m.getHandler c p).request
  interceptors : chain.interceptors =
    ((m.corsFor? chain.handler (m.getHandler c p).request).map .cors).toList ++
      m.ownInterceptors (m.getHandler c p).request
  enforced : p.header? "access-control-request-headers" = none →
    ∀ config, m.corsFor? chain.handler (m.getHandler c p).request = some config →
    ∀ x y : Exchange D, x.request = (m.getHandler c p).request →
      y.request = (m.getHandler c' a).request →
      ((((Interceptor.cors config).before chain.handler).run x).2.response.status = 200 ↔
        (((Interceptor.cors config).before chain.handler).run y).1 = .ok true)

theorem map_some_eq_ok {ε α : Type} {result : Except ε α} {b : α}
    (h : result.map some = .ok (some b)) : result = .ok b := by
  cases result with
  | error e => cases h
  | ok a =>
    cases h
    rfl

theorem notedPath_getHandler (hs : m.strategy.Foreseeable) (h : p.Probes a) (c c' : Containers) :
    (m.getHandler c p).request.notedPath m.options.decode =
      (m.getHandler c' a).request.notedPath m.options.decode := by
  rw [(getHandler_annotated hs c p).notedPath, (getHandler_annotated hs c' a).notedPath,
    h.path]

theorem sameChain (hs : m.strategy.Foreseeable) (h : p.Probes a) {handler : HandlerMethod}
    {chain : Chain D} (hchain : m.chainFor handler (m.findHandler c p).request = .ok chain)
    (hresult : (m.getHandler c' a).result =
      (m.chainFor handler (m.findHandler c' a).request).map some) :
    SameChain m c c' p a chain := by
  have hpath := notedPath_getHandler hs h c c'
  rw [← getHandler_request] at hchain hresult
  obtain ⟨hhandler, hinterceptors⟩ := chainFor_eq_ok hchain
  subst hhandler
  refine ⟨?_, corsFor?_congr hpath.symm _, hinterceptors, fun hheaders config _ x y hx hy => ?_⟩
  · -- The chain depends on the path alone.
    rw [hresult, ← chainFor_congr hpath, hchain]
    rfl
  · have hp := getHandler_annotated hs c p
    have hprobes := h.annotated hp (getHandler_annotated hs c' a)
    have hnone : (m.getHandler c p).request.header? "access-control-request-headers" = none := by
      rw [Request.header?, hp.headers]
      exact hheaders
    obtain ⟨-, hresponse⟩ := Interceptor.run_before_cors config chain.handler x
    obtain ⟨hanswer, -⟩ := Interceptor.run_before_cors config chain.handler y
    rw [hresponse, hanswer, hx, hy, config.enforce_probe_iff hprobes hnone x.response y.response]
    simp

theorem getHandler_foretells_nothing (hs : m.strategy.Foreseeable) (h : p.Probes a)
    (hc : m.Unchanged c p c') (hnone : (m.getHandler c p).result = .ok none) :
    (m.getHandler c' a).result = .ok none := by
  rw [getHandler_result] at hnone ⊢
  cases hfound : (m.findHandler c p).result with
  | error e =>
    rw [hfound] at hnone
    cases hnone
  | ok h? =>
    rw [hfound] at hnone
    dsimp only at hnone
    cases hor : h?.or m.defaultHandler? with
    | some handler =>
      rw [hor] at hnone
      dsimp only at hnone
      cases hchain : m.chainFor handler (m.findHandler c p).request <;>
        simp [hchain, Except.map] at hnone
    | none =>
      obtain ⟨rfl, hdefault⟩ := Option.or_eq_none_iff.1 hor
      rw [(findHandler_foretells hs h hc).1 hfound]
      dsimp only
      rw [hdefault]
      rfl

theorem getHandler_foretells_chain (hs : m.strategy.Foreseeable) (h : p.Probes a)
    (hc : m.Unchanged c p c') {chain : Chain D}
    (hchain : (m.getHandler c p).result = .ok (some chain))
    (hsentinel : chain.handler.isPreflight = false) :
    (∃ first second,
      (m.getHandler c' a).result = .error (.ambiguousHandlers a.uri first second)) ∨
    SameChain m c c' p a chain := by
  have hresult' := m.getHandler_result c' a
  obtain ⟨hforetold, hfinds⟩ := findHandler_foretells hs h hc
  rw [getHandler_result] at hchain
  cases hfound : (m.findHandler c p).result with
  | error e =>
    rw [hfound] at hchain
    cases hchain
  | ok h? =>
    rw [hfound] at hchain
    dsimp only at hchain
    cases h? with
    | none =>
      rw [hforetold hfound] at hresult'
      dsimp only at hresult'
      cases hdefault : m.defaultHandler? with
      | none =>
        rw [hdefault] at hchain
        cases hchain
      | some handler =>
        rw [hdefault] at hchain hresult'
        exact .inr (sameChain hs h (map_some_eq_ok hchain) hresult')
    | some handler =>
      have hchain := map_some_eq_ok hchain
      rw [(chainFor_eq_ok hchain).1] at hsentinel
      rcases hfinds handler hfound with rfl | ⟨first, second, htie⟩ | hsame
      · cases hsentinel
      · rw [htie] at hresult'
        exact .inl ⟨first, second, hresult'⟩
      · rw [hsame] at hresult'
        exact .inr (sameChain hs h hchain hresult')

end Chains

structure Foretells (s : Strategy D) : Prop where
  nothing : ∀ {m : HandlerMapping D} {c c' : Containers} {p a : Request D}, m.strategy = s →
    p.Probes a → m.Unchanged c p c' → (m.getHandler c p).result = .ok none →
    (m.getHandler c' a).result = .ok none
  chain : ∀ {m : HandlerMapping D} {c c' : Containers} {p a : Request D}, m.strategy = s →
    p.Probes a → m.Unchanged c p c' → ∀ chain, (m.getHandler c p).result = .ok (some chain) →
    chain.handler.isPreflight = false →
    (∃ first second,
      (m.getHandler c' a).result = .error (.ambiguousHandlers a.uri first second)) ∨
    SameChain m c c' p a chain

theorem foretells {s : Strategy D} (hs : s.Foreseeable) : Foretells s where
  nothing := by
    rintro m c c' p a rfl h hc
    exact getHandler_foretells_nothing hs h hc
  chain := by
    rintro m c c' p a rfl h hc chain hchain
    exact getHandler_foretells_chain hs h hc hchain

/-- Route tables and URL patterns both keep to what a preflight request was told. -/
theorem preflight_foretells_request :
    (∀ t : RouteTable, Foretells t.strategy) ∧ Foretells urlStrategy :=
  ⟨fun t => foretells t.foreseeable, foretells urlStrategy_foreseeable⟩

/-! ### A shop with two routes on one path -/

def shopCors : CorsConfig := CorsConfig.strict.allowOrigin "https://shop.test"

def itemOrder : RouteMapping := { patterns := ["/items/:id"], methods := [.post] }

def shopRoutes : RouteTable :=
  (RouteTable.route []
    { owner := "Shop", handler := "order", methods := [.post], paths := ["/items/:id"] }).route
    { owner := "Shop"
      handler := "show"
      methods := [.get]
      paths := ["/items/:id"]
      cors? := some shopCors }

def shopBeans : Containers :=
  Containers.single.declare 0
    ⟨"shop", .lazy (some ⟨"Shop", [⟨"Shop", "order", []⟩, ⟨"Shop", "show", []⟩]⟩)
      fun _ => .ok "shop"⟩

def siteCors : CorsConfig := CorsConfig.strict.allowOrigin "https://admin.test"

def shopMapping : HandlerMapping RouteMapping :=
  (start { strategy := shopRoutes.strategy, globalCors := [("/**", siteCors)] } shopBeans).2.1

def shopBinding : Binding :=
  ⟨⟨.bean "shop", ⟨"Shop", "show", []⟩, none⟩, [], none, some shopCors⟩

def shopHandler : HandlerMethod :=
  ⟨.object (.created 1 "shop"), ⟨"Shop", "show", []⟩, some "shop"⟩

def itemRequest : Request RouteMapping :=
  { method := "GET"
    target := "/items/42?page=2"
    headers := [("origin", "https://shop.test")] }

theorem itemProbe_probes : itemProbe.Probes itemRequest where
  preflight := by decide +kernel
  method := by decide +kernel
  plain := by decide +kernel
  path := Request.pathForLookup_congr (by decide +kernel)
  origin := by decide +kernel

section Shop

variable {r : Request RouteMapping}

/-- The route for another method is left out, so what is left does not tie. -/
theorem shop_select (hrouted : RouteMapping.routedMethod? (shopMapping.noted r) = some .get)
    (hpath : r.pathForLookup shopMapping.options.decode = "/items/42") :
    shopMapping.select (r.pathForLookup shopMapping.options.decode) (shopMapping.noted r) =
      .best ⟨itemAt "/items/:id", shopBinding⟩ := by
  have hdirect : shopMapping.registry.atPath "/items/42" = [] := by decide +kernel
  have hkeys : Assoc.keys shopMapping.registry.bindings = [itemOrder, itemAt "/items/:id"] := by
    decide +kernel
  have hbound : shopMapping.registry.binding? (itemAt "/items/:id") = some shopBinding := by
    decide +kernel
  have hstrategy : shopMapping.strategy = shopRoutes.strategy := rfl
  have hnoted : (shopMapping.noted r).notedPath true = "/items/42" :=
    (notedPath_note ..).trans hpath
  have hshown : shopRoutes.strategy.narrow (itemAt "/items/:id") (shopMapping.noted r) =
      some (itemAt "/items/:id") :=
    narrow_itemAt shopRoutes hrouted hnoted item_isMatch.1
  have hordered : shopRoutes.strategy.narrow itemOrder (shopMapping.noted r) = none := by
    simp [RouteTable.strategy, RouteMapping.narrow?, RouteMapping.matchingMethods?, hrouted,
      itemOrder]
  have hcandidates : shopMapping.candidates "/items/42" (shopMapping.noted r) =
      [⟨itemAt "/items/:id", shopBinding⟩] := by
    simp [candidates, directMatches, allMatches, matchesAmong, hdirect, hkeys, hstrategy, hshown,
      hordered, hbound]
  rw [hpath, select, hcandidates, rank, List.mergeSort_singleton]
  rfl

theorem shop_corsFor? (hnoted : r.notedPath shopMapping.options.decode = "/items/42") :
    shopMapping.corsFor? shopHandler r = some (siteCors.combine shopCors) := by
  have hown : shopMapping.handlerCors? shopHandler = some shopCors := by decide +kernel
  have hglobal : shopMapping.globalCors = [("/**", siteCors)] := rfl
  have hmatcher : shopMapping.matcher = Path.isMatch := rfl
  rw [corsFor?, hown, hnoted]
  simp [globalCorsFor?, hglobal, hmatcher, item_isMatch.2.2]

theorem shop_getHandler {c : Containers}
    (hrouted : RouteMapping.routedMethod? (shopMapping.noted r) = some .get)
    (hpath : r.pathForLookup shopMapping.options.decode = "/items/42")
    (hresolved : (shopBinding.handler.resolve c).1 = .ok shopHandler) :
    (shopMapping.getHandler c r).result =
      .ok (some ⟨shopHandler, [.cors (siteCors.combine shopCors)]⟩) := by
  have hfound : (shopMapping.findHandler c r).result = .ok (some shopHandler) := by
    rw [findHandler_noted, lookup, shop_select hrouted hpath]
    exact resolved_some_eq_ok_iff.2 hresolved
  have hannotated := getHandler_annotated (m := shopMapping) shopRoutes.foreseeable c r
  rw [getHandler_request] at hannotated
  have hcors := shop_corsFor? (hannotated.notedPath.trans hpath)
  have hvalid : (siteCors.combine shopCors).validate = .ok () := by decide +kernel
  rw [getHandler_result, hfound]
  dsimp only [Option.some_or]
  rw [chainFor_eq, hcors]
  dsimp only
  rw [hvalid]
  rfl

end Shop

/-- The probe opens the shop, and the request for the item is then given the same chain. -/
theorem shop_probe_foretells :
    shopMapping.state = .ready ∧
    Assoc.keys shopMapping.registry.bindings = [itemOrder, itemAt "/items/:id"] ∧
    itemProbe.Probes itemRequest ∧
    (shopMapping.getHandler shopBeans itemProbe).result =
      .ok (some ⟨shopHandler, [.cors (siteCors.combine shopCors)]⟩) ∧
    SameChain shopMapping shopBeans (shopMapping.getHandler shopBeans itemProbe).containers
      itemProbe itemRequest ⟨shopHandler, [.cors (siteCors.combine shopCors)]⟩ := by
  have hasked : RouteMapping.routedMethod? (shopMapping.noted itemProbe) = some .get := by
    decide +kernel
  have hmade : RouteMapping.routedMethod? (shopMapping.noted itemRequest) = some .get := by
    decide +kernel
  have hpath : itemProbe.pathForLookup shopMapping.options.decode = "/items/42" := by decide +kernel
  have hresolved : (shopBinding.handler.resolve shopBeans).1 = .ok shopHandler := by decide +kernel
  have hprobe := shop_getHandler hasked hpath hresolved
  -- The bean is the one that the probe has created.
  have hunchanged : shopMapping.Unchanged shopBeans itemProbe
      (shopMapping.getHandler shopBeans itemProbe).containers := .inr rfl
  have hrequest := shop_getHandler hmade ((itemProbe_probes.path _).symm.trans hpath)
    (resolve_unchanged hunchanged (shop_select hasked hpath) hresolved)
  have hsentinel : shopHandler.isPreflight = false := by decide +kernel
  refine ⟨by decide +kernel, by decide +kernel, itemProbe_probes, hprobe, ?_⟩
  rcases (preflight_foretells_request.1 shopRoutes).chain rfl itemProbe_probes hunchanged _ hprobe
    hsentinel with ⟨first, second, htie⟩ | hsame
  · cases hrequest.symm.trans htie
  · exact hsame

end HandlerMapping

end RequestDispatch
