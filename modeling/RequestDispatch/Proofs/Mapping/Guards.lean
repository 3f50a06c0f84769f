import RequestDispatch.Proofs.Mapping.Resolution

/-! # Guards of a handler

What stands in front of a handler depends on the lookup path alone, the same text that descriptors
are matched on: the CORS metadata that apply come first, then the interceptors whose scope covers
the path. Metadata that are invalid fail the request; whatever applies is never left out. -/
namespace RequestDispatch

variable {D : Type}

/-! ### Scopes -/

namespace ScopedInterceptor

variable {i : ScopedInterceptor D} {path : String}

/-- The interceptor is for all paths, or its scope includes the path and does not exclude it. -/
def Applies (i : ScopedInterceptor D) (path : String) : Prop :=
  ∀ scope, i.scope? = some scope →
    (∀ p ∈ scope.excludes, scope.matcher p path = false) ∧
      (scope.includes = [] ∨ ∃ p ∈ scope.includes, scope.matcher p path = true)

theorem covers_iff {scope : PathScope} :
    scope.covers path = true ↔ (∀ p ∈ scope.excludes, scope.matcher p path = false) ∧
      (scope.includes = [] ∨ ∃ p ∈ scope.includes, scope.matcher p path = true) := by
  simp [PathScope.covers]

theorem forPath?_eq_some_iff {j : Interceptor D} :
    i.forPath? path = some j ↔ i.Applies path ∧ i.interceptor = j := by
  unfold forPath? Applies
  cases i.scope? with
  | none => simp
  | some scope =>
    have hscope : (∀ s, some scope = some s → s.covers path = true) ↔ scope.covers path = true := by
      simp
    simp only [← covers_iff, hscope]
    cases scope.covers path <;> simp

instance : Decidable (i.Applies path) :=
  decidable_of_iff ((i.forPath? path).isSome = true) <| by
    rw [Option.isSome_iff_exists]
    simp [forPath?_eq_some_iff]

theorem filterMap_forPath? (is : List (ScopedInterceptor D)) (path : String) :
    is.filterMap (·.forPath? path) = (is.filter (·.Applies path)).map (·.interceptor) := by
  have hone : ∀ i : ScopedInterceptor D,
      i.forPath? path = if i.Applies path then some i.interceptor else none := by
    intro i
    split
    · next h => exact forPath?_eq_some_iff.2 ⟨h, rfl⟩
    · next h =>
      refine Option.eq_none_iff_forall_not_mem.2 fun j hj => h ?_
      exact (forPath?_eq_some_iff.1 hj).1
  induction is with
  | nil => rfl
  | cons i rest ih =>
    rw [List.filterMap_cons, hone]
    by_cases h : i.Applies path <;> simp [h, ih]

end ScopedInterceptor

/-! ### What descriptors are matched on -/

/-- A descriptor is narrowed to its patterns that match the noted path, and there is one. -/
def Strategy.MatchesNotedPath (s : Strategy D) (patterns : D → List String) : Prop :=
  ∀ (r : Request D) (d narrowed : D), s.narrow d r = some narrowed →
    patterns narrowed ≠ [] ∧
      ∀ p, p ∈ patterns narrowed ↔ p ∈ patterns d ∧ Path.isMatch p (r.notedPath true) = true

theorem RouteTable.matchesNotedPath (t : RouteTable) :
    t.strategy.MatchesNotedPath RouteMapping.patterns := by
  intro r d narrowed h
  obtain ⟨hpatterns, hne⟩ := RouteMapping.patterns_narrow h
  refine ⟨hne, fun p => ?_⟩
  rw [hpatterns]
  exact RouteMapping.mem_matchingPatterns

theorem urlStrategy_matchesNotedPath : urlStrategy.MatchesNotedPath fun d => [d] := by
  intro r d narrowed h
  obtain ⟨hmatch, rfl⟩ : Path.isMatch d (r.notedPath true) = true ∧ d = narrowed := by
    simpa [urlStrategy] using h
  refine ⟨List.cons_ne_nil _ _, fun p => ?_⟩
  rw [List.mem_singleton]
  constructor
  · rintro rfl
    exact ⟨rfl, hmatch⟩
  · exact And.left

namespace HandlerMapping

variable [DecidableEq D] {m : HandlerMapping D} {c : Containers} {r : Request D}
  {h : HandlerMethod}

/-! ### The handler that is settled on -/

/-- The handler method that a request is given: that of the best match with its bean at hand, the
preflight handler, or without any match the default. -/
inductive Settles (m : HandlerMapping D) (c : Containers) (r : Request D) :
    HandlerMethod → Prop where
  | winner {f : Match D} {h : HandlerMethod}
      (selected : m.select (r.pathForLookup m.options.decode) (m.noted r) = .best f)
      (resolved : (f.binding.handler.resolve c).1 = .ok h) : Settles m c r h
  | sentinel (selected : m.select (r.pathForLookup m.options.decode) (m.noted r) = .preflight) :
      Settles m c r .preflight
  | default {h : HandlerMethod}
      (selected : m.select (r.pathForLookup m.options.decode) (m.noted r) = .nothing)
      (fallback : m.defaultHandler? = some h) : Settles m c r h

theorem Settles.getHandler_result (hs : m.strategy.Foreseeable) (hsettles : Settles m c r h) :
    (m.getHandler c r).result = (m.chainFor h (m.getHandler c r).request).map some := by
  rw [HandlerMapping.getHandler_result, getHandler_request, findHandler_noted, lookup]
  cases hsettles with
  | winner selected resolved =>
    rw [selected]
    dsimp only [HandlerMapping.resolved]
    rw [resolved]
    rfl
  | sentinel selected =>
    rw [selected]
    rfl
  | default selected fallback =>
    rw [selected]
    dsimp only
    rw [hs.onNoMatch_none]
    dsimp only [HandlerMapping.resolved]
    rw [fallback]
    rfl

/-- Every chain is that of a handler method settled on: the strategy has nothing for paths that
nothing matches. -/
theorem settles_of_getHandler (hs : m.strategy.Foreseeable) {chain : Chain D}
    (hchain : (m.getHandler c r).result = .ok (some chain)) : Settles m c r chain.handler := by
  have hsupplies := supplies_of_getHandler hchain
  generalize chain.handler = h at hsupplies
  cases hsupplies with
  | winner selected resolved => exact .winner selected resolved
  | sentinel selected => exact .sentinel selected
  | fallback _ answered _ =>
    rw [hs.onNoMatch_none] at answered
    cases answered
  | default selected _ configured => exact .default selected configured

/-! ### The guards -/

/-- What stands in front of the handler method that a request is given. Descriptors and interceptors
are chosen by one path, which is noted on the request. Contradictory metadata fail the request;
otherwise the metadata that apply come first, and then the interceptors that apply, in order. -/
structure Guarded (m : HandlerMapping D) (patterns : D → List String) (c : Containers)
    (r : Request D) (h : HandlerMethod) (path : String) : Prop where
  noted : (m.getHandler c r).request.attributes.get? .lookupPath = some path
  matched : ∀ d narrowed, m.strategy.narrow d (m.noted r) = some narrowed →
    patterns narrowed ≠ [] ∧
      ∀ p, p ∈ patterns narrowed ↔ p ∈ patterns d ∧ Path.isMatch p path = true
  refused : (m.getHandler c r).result = .error (.invalidCors CorsConfig.credentialsReason) ↔
    ∃ config, m.corsFor? h (m.getHandler c r).request = some config ∧ config.Contradictory
  chain : (¬∃ config, m.corsFor? h (m.getHandler c r).request = some config ∧
      config.Contradictory) →
    (m.getHandler c r).result = .ok (some ⟨h,
      ((m.corsFor? h (m.getHandler c r).request).map .cors).toList ++
        (m.interceptors.filter (·.Applies path)).map (·.interceptor)⟩)
  gate : ∀ config, m.corsFor? h (m.getHandler c r).request = some config →
    m.hasCorsSource h = true

theorem lookupPath_getHandler (hs : m.strategy.Foreseeable) (c : Containers) (r : Request D) :
    (m.getHandler c r).request.attributes.get? .lookupPath =
      some (r.pathForLookup m.options.decode) := by
  have hfirst : (m.noted r).attributes.get? .lookupPath = some (r.pathForLookup m.options.decode) :=
    Request.get?_note_self ..
  rw [getHandler_request, findHandler_request]
  unfold lookup
  split
  · exact hfirst
  · exact hfirst
  · exact hfirst
  · dsimp only
    rw [hs.onMatch_eq]
    refine (Request.get?_note_of_ne _ _ (by decide)).trans ?_
    refine (Request.get?_note_of_ne _ _ (by decide)).trans ?_
    exact (Request.get?_note_of_ne _ _ (by decide)).trans hfirst

theorem Settles.guarded {patterns : D → List String} (hs : m.strategy.Foreseeable)
    (hpatterns : m.strategy.MatchesNotedPath patterns) (hsettles : Settles m c r h) :
    Guarded m patterns c r h (r.pathForLookup m.options.decode) := by
  have hpath := (getHandler_annotated hs c r).notedPath
  have hown : m.ownInterceptors (m.getHandler c r).request =
      (m.interceptors.filter (·.Applies (r.pathForLookup m.options.decode))).map
        (·.interceptor) := by
    rw [ownInterceptors, hpath, ScopedInterceptor.filterMap_forPath?]
  have hresult := hsettles.getHandler_result hs
  rw [chainFor_eq, hown] at hresult
  have hchain : (¬∃ config, m.corsFor? h (m.getHandler c r).request = some config ∧
      config.Contradictory) →
      (m.getHandler c r).result = .ok (some ⟨h,
        ((m.corsFor? h (m.getHandler c r).request).map .cors).toList ++
          (m.interceptors.filter (·.Applies (r.pathForLookup m.options.decode))).map
            (·.interceptor)⟩) := by
    intro hvalid
    cases hconfig : m.corsFor? h (m.getHandler c r).request with
    | none =>
      rw [hconfig] at hresult
      exact hresult
    | some config =>
      have hconsistent : ¬config.Contradictory := fun hc => hvalid ⟨config, hconfig, hc⟩
      rw [hconfig] at hresult
      dsimp only at hresult
      rw [CorsConfig.validate_of_not_contradictory hconsistent] at hresult
      exact hresult
  refine ⟨lookupPath_getHandler hs c r, fun d narrowed hnarrow => ?_, ⟨fun hrefused => ?_, ?_⟩,
    hchain, fun config => hasCorsSource_of_corsFor?⟩
  · have hmatched := hpatterns (m.noted r) d narrowed hnarrow
    rwa [noted, notedPath_note] at hmatched
  · by_contra hvalid
    rw [hchain hvalid] at hrefused
    cases hrefused
  · rintro ⟨config, hconfig, hcontradictory⟩
    rw [hconfig] at hresult
    dsimp only at hresult
    rw [hcontradictory.validate_eq] at hresult
    exact hresult

/-- Whatever handler method a request is given stands behind all guards that apply, and a chain is
always that of a handler method given so. -/
structure Guards (s : Strategy D) (patterns : D → List String) : Prop where
  guarded : ∀ {m : HandlerMapping D} {c : Containers} {r : Request D} {h : HandlerMethod},
    m.strategy = s → Settles m c r h →
    Guarded m patterns c r h (r.pathForLookup m.options.decode)
  settled : ∀ {m : HandlerMapping D} {c : Containers} {r : Request D} {chain : Chain D},
    m.strategy = s → (m.getHandler c r).result = .ok (some chain) → Settles m c r chain.handler

theorem guards {s : Strategy D} {patterns : D → List String} (hs : s.Foreseeable)
    (hpatterns : s.MatchesNotedPath patterns) : Guards s patterns where
  guarded := by
    rintro m c r h rfl hsettles
    exact hsettles.guarded hs hpatterns
  settled := by
    rintro m c r chain rfl hchain
    exact settles_of_getHandler hs hchain

/-- Route tables and URL patterns both put all guards in front of a handler method. -/
theorem guards_in_front_of_handler :
    (∀ t : RouteTable, Guards t.strategy RouteMapping.patterns) ∧
      Guards urlStrategy fun pattern => [pattern] :=
  ⟨fun t => guards t.foreseeable t.matchesNotedPath,
    guards urlStrategy_foreseeable urlStrategy_matchesNotedPath⟩

/-! ### A shop with guards -/

def shopGuards : List (ScopedInterceptor RouteMapping) :=
  [⟨.logging, none⟩, ⟨{ name := "stock" }, some { includes := ["/items/**"] }⟩,
    ⟨{ name := "admin" }, some { includes := ["/admin/**"] }⟩,
    ⟨{ name := "public" }, some { excludes := ["/items/:id"] }⟩,
    ⟨{ name := "catalog" }, some { includes := ["/item"], matcher := Text.startsWithText }⟩]

def guardedShop : HandlerMapping RouteMapping := { shopMapping with interceptors := shopGuards }

theorem shopGuards_applying :
    (shopGuards.filter (·.Applies "/items/42")).map (·.interceptor.name) =
      ["LoggingInterceptor", "stock", "catalog"] := by
  have hpath : Path.segments "/items/42" = ["items", "42"] := by decide +kernel
  have hitems : (Path.segments "/items/**").map Path.Segment.ofText = [.literal "items", .any] := by
    decide +kernel
  have hadmin : (Path.segments "/admin/**").map Path.Segment.ofText = [.literal "admin", .any] := by
    decide +kernel
  have hstock : Path.isMatch "/items/**" "/items/42" = true := by
    simp [Path.isMatch, Path.bindings?, hpath, hitems, Path.align?, Path.firstRun?,
      Path.Segment.bind?]
  have hother : Path.isMatch "/admin/**" "/items/42" = false := by
    simp [Path.isMatch, Path.bindings?, hpath, hadmin, Path.align?, Path.Segment.bind?]
  have hfront : Text.startsWithText "/item" "/items/42" = true := by decide +kernel
  simp [shopGuards, ScopedInterceptor.Applies, hstock, hother, hfront, item_isMatch.1,
    Interceptor.logging]

/-- The handler method that shows an item gets the request behind the metadata of the site combined
with its own and the three interceptors that apply, in this order. -/
theorem guardedShop_guards :
    Settles guardedShop shopBeans itemRequest shopHandler ∧
    ∃ chain, (guardedShop.getHandler shopBeans itemRequest).result = .ok (some chain) ∧
      chain.handler = shopHandler ∧
      chain.interceptors.map (·.name) =
        ["CorsInterceptor", "LoggingInterceptor", "stock", "catalog"] := by
  have hrouted : RouteMapping.routedMethod? (shopMapping.noted itemRequest) = some .get := by
    decide +kernel
  have hpath : itemRequest.pathForLookup guardedShop.options.decode = "/items/42" := by
    decide +kernel
  have hresolved : (shopBinding.handler.resolve shopBeans).1 = .ok shopHandler := by decide +kernel
  have hsettles : Settles guardedShop shopBeans itemRequest shopHandler :=
    .winner (shop_select hrouted hpath) hresolved
  have hguarded := (guards_in_front_of_handler.1 shopRoutes).guarded rfl hsettles
  have hannotated := getHandler_annotated (m := guardedShop) shopRoutes.foreseeable shopBeans
    itemRequest
  have hcors : guardedShop.corsFor? shopHandler
      (guardedShop.getHandler shopBeans itemRequest).request = some (siteCors.combine shopCors) :=
    shop_corsFor? (hannotated.notedPath.trans hpath)
  have hchain := hguarded.chain
  rw [hcors, hpath] at hchain
  have hvalid : ¬∃ config, some (siteCors.combine shopCors) = some config ∧
      config.Contradictory := by
    rintro ⟨config, hconfig, hcredentials, -⟩
    cases hconfig
    cases hcredentials
  refine ⟨hsettles, _, hchain hvalid, rfl, ?_⟩
  have happlying : (guardedShop.interceptors.filter (·.Applies "/items/42")).map
      (·.interceptor.name) = ["LoggingInterceptor", "stock", "catalog"] := shopGuards_applying
  rw [List.map_append, List.map_map]
  exact congrArg ("CorsInterceptor" :: ·) happlying

end HandlerMapping

end RequestDispatch
