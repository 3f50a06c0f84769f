import RequestDispatch.Proofs.Cors.Enforcement
import RequestDispatch.Proofs.Mapping.Chains

/-! # Preflight requests

A preflight request that several descriptors match goes to the preflight handler, whose metadata
accept everything, with credentials. They are combined with the global ones for the path, and a
global config that lists the origin for all does not go together with credentials: then the
request fails, and otherwise it is answered. -/
namespace RequestDispatch

namespace CorsConfig

variable {D : Type}

/-! ### Metadata that accept everything -/

structure Welcoming (c : CorsConfig) : Prop where
  pattern : .wildcard anyValue ∈ c.patterns
  method : anyValue ∈ c.methods
  header : anyValue ∈ c.headers
  credentials : c.credentials = true

theorem accepts_of_mem {allowed : List String} (h : anyValue ∈ allowed) (value : String) :
    accepts allowed value = true :=
  List.any_eq_true.2 ⟨anyValue, h, by simp⟩

theorem wildcardMatch_anyValue (value : String) : wildcardMatch anyValue value = true := by
  have hsplit : Text.split '*' anyValue.toList = [[], []] := by decide
  have hend : Text.endsWith [] value.toList = true := Text.endsWith_iff.2 (List.nil_suffix)
  rw [wildcardMatch, hsplit]
  simpa [Text.after?, partsMatch] using hend

theorem permissiveWithCredentials_welcoming : Welcoming permissiveWithCredentials := by
  constructor <;> simp [permissiveWithCredentials]

/-- No regular expression reads like the wildcard for all, so nothing keeps it out. -/
theorem combine_welcoming {g : CorsConfig} (h : Compiled g) :
    Welcoming (g.combine permissiveWithCredentials) := by
  refine ⟨?_, mem_addAllNew.2 (.inr (by simp [permissiveWithCredentials])),
    mem_addAllNew.2 (.inr (by simp [permissiveWithCredentials])), Bool.or_true _⟩
  by_cases hstar : ∃ q ∈ g.patterns, q.source = anyValue
  · obtain ⟨q, hq, hsource⟩ := hstar
    refine mem_patterns_combine.2 (.inl ?_)
    cases q with
    | wildcard text =>
      have htext : text = anyValue := hsource
      exact htext ▸ hq
    | regex r =>
      have hread := h r hq
      have hsource : r.source = anyValue := hsource
      have hnone : Regex.Pattern.ofText? anyValue = none := by decide +kernel
      rw [hsource, hnone] at hread
      cases hread
  · refine mem_patterns_combine.2 (.inr ?_)
    have hnone : (g.patterns.find? fun q => q.source = anyValue) = none := by
      refine List.find?_eq_none.2 fun q hq hsource => hstar ⟨q, hq, of_decide_eq_true hsource⟩
    have hfirst : firstAlike? (g.patterns ++ [.wildcard anyValue]) (.wildcard anyValue) =
        some (.wildcard anyValue) := by
      have hsource : (OriginPattern.wildcard anyValue).source = anyValue := rfl
      rw [firstAlike?, List.find?_append, hsource, hnone]
      rfl
    exact List.mem_filter.2 ⟨List.mem_singleton.2 rfl, decide_eq_true hfirst⟩

theorem validate_combine (g : CorsConfig) :
    (g.combine permissiveWithCredentials).validate =
      if anyValue ∈ g.origins then .error (.invalidCors credentialsReason) else .ok () := by
  have horigins : anyValue ∈ (g.combine permissiveWithCredentials).origins ↔
      anyValue ∈ g.origins := by
    rw [combine, mem_addAllNew]
    simp [permissiveWithCredentials]
  have hcredentials : (g.combine permissiveWithCredentials).credentials = true := Bool.or_true _
  rw [validate, hcredentials, Bool.true_and]
  simp only [List.contains_iff_mem, horigins]

namespace Welcoming

variable {c : CorsConfig} {r : Request D} {origin : String}

theorem allowsOrigin (h : Welcoming c) (hnamed : ∃ ch ∈ origin.toList, ch ≠ '/') :
    c.allowsOrigin origin = true := by
  have hpattern : c.patterns.any (·.accepts (withoutEndSlashes origin)) = true :=
    List.any_eq_true.2 ⟨_, h.pattern, wildcardMatch_anyValue _⟩
  rw [allowsOrigin_eq, hpattern, Bool.or_true, Bool.and_true]
  exact decide_eq_true (withoutEndSlashes_ne_empty hnamed)

theorem allowsProbe (h : Welcoming c) (hr : r.isPreflight = true)
    (hnamed : ∃ ch ∈ origin.toList, ch ≠ '/') : c.AllowsProbe r origin := by
  obtain ⟨-, -, method, hmethod⟩ := (Request.isPreflight_iff r).1 hr
  exact ⟨h.allowsOrigin hnamed, ⟨method, hmethod, accepts_of_mem h.method _⟩,
    fun _ _ _ _ _ => accepts_of_mem h.header _⟩

end Welcoming

end CorsConfig

variable {D : Type}

structure Interceptor.Grants (i : Interceptor D) (h : HandlerMethod) (x : Exchange D)
    (origin : String) : Prop where
  stops : ((i.before h).run x).1 = .ok false
  status : ((i.before h).run x).2.response.status = 200
  origin : Assoc.find? ((i.before h).run x).2.response.headers "Access-Control-Allow-Origin" =
    some origin

theorem CorsConfig.Welcoming.grants {c : CorsConfig} (hc : Welcoming c) {x : Exchange D}
    {origin : String} (hr : x.request.isPreflight = true)
    (horigin : x.request.header? "origin" = some origin)
    (hnamed : ∃ ch ∈ origin.toList, ch ≠ '/') (h : HandlerMethod) :
    (Interceptor.cors c).Grants h x (withoutEndSlashes origin) := by
  obtain ⟨hanswer, hresponse⟩ := Interceptor.run_before_cors c h x
  have hprobe : c.AllowsProbe x.request origin := hc.allowsProbe hr hnamed
  have hgranted := grantedOrigin?_of_credentials hc.credentials hprobe.origin
  have hcheck := (checkPreflight_eq_ok_iff hr horigin).2 ⟨hgranted, hprobe⟩
  refine ⟨?_, ?_, ?_⟩
  · rw [hanswer, decide_eq_false (enforce_preflight_ne_proceed hr horigin)]
  · rw [hresponse]
    exact (enforce_preflight_status_iff hr horigin).2 hprobe
  · rw [hresponse, enforce_of_preflight hr horigin, hcheck]
    exact find?_preflightHeaders ..

namespace HandlerMapping

variable [DecidableEq D] {m : HandlerMapping D} {r : Request D} {path : String}

/-! ### Several matches -/

/-- A preflight request with an origin, matched by several descriptors, one of them with CORS
metadata. -/
structure AmbiguousPreflight (m : HandlerMapping D) (r : Request D) (origin : String) : Prop where
  preflight : r.isPreflight = true
  named : ∃ ch ∈ origin.toList, ch ≠ '/'
  origin : r.header? "origin" = some origin
  several : 2 ≤ (m.candidates (r.pathForLookup m.options.decode) (m.noted r)).length
  cors : (m.candidates (r.pathForLookup m.options.decode) (m.noted r)).any
    (·.binding.cors?.isSome) = true

theorem select_preflight (hr : r.isPreflight = true) (hseveral : 2 ≤ (m.candidates path r).length)
    (hcors : (m.candidates path r).any (·.binding.cors?.isSome) = true) :
    m.select path r = .preflight := by
  have hperm : (m.rank r (m.candidates path r)).Perm (m.candidates path r) :=
    List.mergeSort_perm ..
  rw [← hperm.length_eq] at hseveral
  rw [← hperm.any_eq] at hcors
  unfold select
  match m.rank r (m.candidates path r), hseveral, hcors with
  | first :: second :: rest, _, hcors =>
    simp only [choose, hr, hcors, if_true]

theorem AmbiguousPreflight.findHandler {origin : String} (h : AmbiguousPreflight m r origin)
    (c : Containers) : (m.findHandler c r).result = .ok (some .preflight) ∧
      (m.findHandler c r).request = m.noted r := by
  have hselect : m.select (r.pathForLookup m.options.decode) (m.noted r) = .preflight :=
    select_preflight h.preflight h.several h.cors
  have hlookup : m.lookup (r.pathForLookup m.options.decode) (m.noted r) =
      (.ok (some .preflight), m.noted r) := by
    rw [lookup, hselect]
  unfold HandlerMapping.findHandler
  dsimp only
  rw [← noted, hlookup]
  exact ⟨rfl, rfl⟩

omit [DecidableEq D] in
theorem corsFor?_preflight (hpath : r.notedPath m.options.decode = path) :
    m.corsFor? .preflight r =
      match m.globalCorsFor? path with
      | some g => some (g.combine .permissiveWithCredentials)
      | none => some .permissiveWithCredentials := by
  have hsentinel : HandlerMethod.preflight.isPreflight = true := rfl
  rw [corsFor?, hpath, handlerCors?, if_pos hsentinel]
  cases m.globalCorsFor? path <;> rfl

namespace AmbiguousPreflight

variable {origin : String}

theorem grants (h : AmbiguousPreflight m r origin) {config : CorsConfig} (hw : config.Welcoming)
    {x : Exchange D} (hx : x.request = m.noted r) :
    (Interceptor.cors config).Grants .preflight x (withoutEndSlashes origin) := by
  refine hw.grants ?_ ?_ h.named _
  · rw [hx]
    exact h.preflight
  · rw [hx]
    exact h.origin

theorem getHandler_result (h : AmbiguousPreflight m r origin) (c : Containers) :
    (m.getHandler c r).result = (m.chainFor .preflight (m.noted r)).map some ∧
      m.corsFor? .preflight (m.noted r) =
        match m.globalCorsFor? (r.pathForLookup m.options.decode) with
        | some g => some (g.combine .permissiveWithCredentials)
        | none => some .permissiveWithCredentials := by
  obtain ⟨hresult, hrequest⟩ := h.findHandler c
  rw [HandlerMapping.getHandler_result, hresult, hrequest]
  exact ⟨rfl, corsFor?_preflight (notedPath_note ..)⟩

theorem answered (h : AmbiguousPreflight m r origin) (hbuilt : ∀ e ∈ m.globalCors, e.2.Built)
    (hclosed : ∀ g, m.globalCorsFor? (r.pathForLookup m.options.decode) = some g →
      anyValue ∉ g.origins) (c : Containers) :
    ∃ config rest,
      (m.getHandler c r).result = .ok (some ⟨.preflight, .cors config :: rest⟩) ∧
      ∀ x, x.request = (m.getHandler c r).request →
        (Interceptor.cors config).Grants .preflight x (withoutEndSlashes origin) := by
  obtain ⟨hresult, hcors⟩ := h.getHandler_result c
  rw [hresult, getHandler_request, (h.findHandler c).2, chainFor_eq, hcors]
  cases hglobal : m.globalCorsFor? (r.pathForLookup m.options.decode) with
  | none =>
    have hvalid : CorsConfig.permissiveWithCredentials.validate = .ok () := rfl
    refine ⟨.permissiveWithCredentials, m.ownInterceptors (m.noted r), ?_,
      fun x => h.grants CorsConfig.permissiveWithCredentials_welcoming⟩
    simp only [hvalid, Except.map]
  | some g =>
    obtain ⟨e, he, rfl⟩ := Option.map_eq_some_iff.1 hglobal
    have hcompiled := (hbuilt e (List.mem_of_find?_eq_some he)).compiled
    refine ⟨e.2.combine .permissiveWithCredentials, m.ownInterceptors (m.noted r), ?_,
      fun x => h.grants (CorsConfig.combine_welcoming hcompiled)⟩
    simp only [CorsConfig.validate_combine, if_neg (hclosed e.2 hglobal), Except.map]

theorem refused (h : AmbiguousPreflight m r origin) {g : CorsConfig}
    (hglobal : m.globalCorsFor? (r.pathForLookup m.options.decode) = some g)
    (hopen : anyValue ∈ g.origins) (c : Containers) :
    (m.getHandler c r).result = .error (.invalidCors CorsConfig.credentialsReason) := by
  obtain ⟨hresult, hcors⟩ := h.getHandler_result c
  rw [hresult, chainFor_eq, hcors, hglobal]
  simp only [CorsConfig.validate_combine, if_pos hopen, Except.map]

end AmbiguousPreflight

/-- An ambiguous preflight request is answered, whatever it asks for, unless the global config for
its path lists the origin that stands for all. Then it fails. -/
theorem ambiguous_preflight_answered_unless_open (hbuilt : ∀ e ∈ m.globalCors, e.2.Built)
    {origin : String} (h : AmbiguousPreflight m r origin) (c : Containers) :
    ((∀ g, m.globalCorsFor? (r.pathForLookup m.options.decode) = some g →
        anyValue ∉ g.origins) →
      ∃ config rest,
        (m.getHandler c r).result = .ok (some ⟨.preflight, .cors config :: rest⟩) ∧
        ∀ x, x.request = (m.getHandler c r).request →
          (Interceptor.cors config).Grants .preflight x (withoutEndSlashes origin)) ∧
    (∀ g, m.globalCorsFor? (r.pathForLookup m.options.decode) = some g → anyValue ∈ g.origins →
      (m.getHandler c r).result = .error (.invalidCors CorsConfig.credentialsReason)) :=
  ⟨fun hclosed => h.answered hbuilt hclosed c, fun _ hglobal hopen => h.refused hglobal hopen c⟩

/-! ### Two routes that share a path -/

def itemAt (path : String) : RouteMapping := { patterns := [path], methods := [.get] }

def itemRoutes : RouteTable :=
  (RouteTable.route []
    { owner := "Items"
      handler := "byId"
      methods := [.get]
      paths := ["/items/:id"]
      cors? := some (CorsConfig.strict.allowOrigin "https://shop.test") }).route
    { owner := "Items"
      handler := "byName"
      methods := [.get]
      paths := ["/items/:name"] }

def itemBeans : Containers :=
  Containers.single.declare 0
    ⟨"items", .ready ⟨"Items", [⟨"Items", "byId", []⟩, ⟨"Items", "byName", []⟩]⟩ "items"⟩

def itemMapping (g : CorsConfig) : HandlerMapping RouteMapping :=
  (start { strategy := itemRoutes.strategy, globalCors := [("/**", g)] } itemBeans).2.1

def itemProbe : Request RouteMapping :=
  { method := "OPTIONS"
    target := "/items/42"
    headers := [("origin", "https://shop.test"), ("access-control-request-method", "GET")] }

theorem item_isMatch : Path.isMatch "/items/:id" "/items/42" = true ∧
    Path.isMatch "/items/:name" "/items/42" = true ∧ Path.isMatch "/**" "/items/42" = true := by
  have hpath : Path.segments "/items/42" = ["items", "42"] := by decide +kernel
  have hid : (Path.segments "/items/:id").map Path.Segment.ofText =
      [.literal "items", .capture "id"] := by
    decide +kernel
  have hname : (Path.segments "/items/:name").map Path.Segment.ofText =
      [.literal "items", .capture "name"] := by
    decide +kernel
  have hall : (Path.segments "/**").map Path.Segment.ofText = [.any] := by decide +kernel
  simp [Path.isMatch, Path.bindings?, hpath, hid, hname, hall, Path.align?, Path.firstRun?,
    Path.Segment.bind?]

theorem itemProbe_path (g : CorsConfig) :
    itemProbe.pathForLookup (itemMapping g).options.decode = "/items/42" := by
  change itemProbe.pathForLookup true = "/items/42"
  decide +kernel

theorem globalCorsFor?_item (g : CorsConfig) :
    (itemMapping g).globalCorsFor? (itemProbe.pathForLookup (itemMapping g).options.decode) =
      some g := by
  have hglobal : (itemMapping g).globalCors = [("/**", g)] := rfl
  have hmatcher : (itemMapping g).matcher = Path.isMatch := rfl
  simp [globalCorsFor?, itemProbe_path, hglobal, hmatcher, item_isMatch.2.2]

theorem narrow_itemAt (t : RouteTable) {r : Request RouteMapping}
    (hrouted : RouteMapping.routedMethod? r = some .get) (hpath : r.notedPath true = "/items/42")
    {path : String} (h : Path.isMatch path "/items/42" = true) :
    t.strategy.narrow (itemAt path) r = some (itemAt path) := by
  simp [RouteTable.strategy, hpath, RouteMapping.narrow?, RouteMapping.matchingMethods?,
    hrouted, RouteMapping.matchingPatterns, itemAt, h]

theorem candidates_item (g : CorsConfig) :
    ((itemMapping g).candidates (itemProbe.pathForLookup (itemMapping g).options.decode)
      ((itemMapping g).noted itemProbe)).map (·.binding.cors?.isSome) = [true, false] := by
  -- The registry does not depend on the global config.
  have hdirect : (itemMapping g).registry.atPath "/items/42" = [] := by
    change (itemMapping .strict).registry.atPath "/items/42" = _
    decide +kernel
  have hkeys : Assoc.keys (itemMapping g).registry.bindings =
      [itemAt "/items/:id", itemAt "/items/:name"] := by
    change Assoc.keys (itemMapping .strict).registry.bindings = _
    decide +kernel
  have hid : ((itemMapping g).registry.binding? (itemAt "/items/:id")).map (·.cors?.isSome) =
      some true := by
    change ((itemMapping .strict).registry.binding? (itemAt "/items/:id")).map _ = _
    decide +kernel
  have hname : ((itemMapping g).registry.binding? (itemAt "/items/:name")).map (·.cors?.isSome) =
      some false := by
    change ((itemMapping .strict).registry.binding? (itemAt "/items/:name")).map _ = _
    decide +kernel
  obtain ⟨b, hb, hsome⟩ := Option.map_eq_some_iff.1 hid
  obtain ⟨b', hb', hnone⟩ := Option.map_eq_some_iff.1 hname
  have hstrategy : (itemMapping g).strategy = itemRoutes.strategy := rfl
  have hrouted : RouteMapping.routedMethod? (itemProbe.note .lookupPath "/items/42") =
      some .get := by
    decide +kernel
  have hnarrow : ∀ {path : String}, Path.isMatch path "/items/42" = true →
      itemRoutes.strategy.narrow (itemAt path) (itemProbe.note .lookupPath "/items/42") =
        some (itemAt path) :=
    narrow_itemAt itemRoutes hrouted (notedPath_note ..)
  rw [noted, itemProbe_path]
  simp [candidates, directMatches, allMatches, matchesAmong, hdirect, hkeys, hstrategy,
    hnarrow item_isMatch.1, hnarrow item_isMatch.2.1, hb, hb', hsome, hnone]

theorem itemProbe_ambiguous (g : CorsConfig) :
    AmbiguousPreflight (itemMapping g) itemProbe "https://shop.test" := by
  have hlength := congrArg List.length (candidates_item g)
  have hany := congrArg (List.any · id) (candidates_item g)
  rw [List.length_map] at hlength
  rw [List.any_map] at hany
  exact ⟨by decide +kernel, ⟨'h', by decide +kernel⟩, by decide +kernel, hlength.ge, hany⟩

theorem item_probe_answered :
    let m := itemMapping (CorsConfig.strict.allowOrigin "https://admin.test")
    (∀ e ∈ m.globalCors, e.2.Built) ∧ AmbiguousPreflight m itemProbe "https://shop.test" ∧
    (∀ g, m.globalCorsFor? (itemProbe.pathForLookup m.options.decode) = some g →
      anyValue ∉ g.origins) ∧
    ∃ config rest,
      (m.getHandler itemBeans itemProbe).result = .ok (some ⟨.preflight, .cors config :: rest⟩) ∧
      ∀ x, x.request = (m.getHandler itemBeans itemProbe).request →
        (Interceptor.cors config).Grants .preflight x (withoutEndSlashes "https://shop.test") := by
  intro m
  have hbuilt : ∀ e ∈ m.globalCors, e.2.Built := by
    intro e he
    obtain rfl := List.mem_singleton.1 he
    exact .allowOrigin .strict _
  have hclosed : ∀ g, m.globalCorsFor? (itemProbe.pathForLookup m.options.decode) = some g →
      anyValue ∉ g.origins := by
    intro g hg
    cases (globalCorsFor?_item _).symm.trans hg
    decide
  have hambiguous := itemProbe_ambiguous (CorsConfig.strict.allowOrigin "https://admin.test")
  exact ⟨hbuilt, hambiguous, hclosed,
    (ambiguous_preflight_answered_unless_open hbuilt hambiguous itemBeans).1 hclosed⟩

/-- All metadata are valid, but those for all origins do not go together with those of the
preflight handler. -/
theorem item_probe_refused :
    let m := itemMapping .permissive
    m.state = .ready ∧ (m.globalCors.all fun e => e.2.validate.isOk) = true ∧
    (m.registry.bindings.all fun e => (e.2.cors?.elim (.ok ()) CorsConfig.validate).isOk) = true ∧
    AmbiguousPreflight m itemProbe "https://shop.test" ∧
    (m.getHandler itemBeans itemProbe).result =
      .error (.invalidCors CorsConfig.credentialsReason) := by
  intro m
  have hambiguous := itemProbe_ambiguous .permissive
  exact ⟨by decide +kernel, by decide +kernel, by decide +kernel, hambiguous,
    hambiguous.refused (globalCorsFor?_item _) (by decide) itemBeans⟩

end HandlerMapping

end RequestDispatch
