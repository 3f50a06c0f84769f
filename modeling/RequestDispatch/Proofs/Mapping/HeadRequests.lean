import RequestDispatch.Proofs.Mapping.Probe

/-! # HEAD requests

A route for GET takes HEAD requests as well. This is decided within each route: one that lists HEAD
is narrowed to HEAD, one that lists only GET to GET, and one without methods to none. Ranking looks
at the patterns and then at the number of methods, so between routes HEAD and GET count alike. -/
namespace RequestDispatch

namespace Request

variable {D : Type} {r : Request D} {method : Method}

theorem isPreflight_eq_false_of_method (h : r.method? = some method) (hne : method ≠ .options) :
    r.isPreflight = false := by
  rw [Bool.eq_false_iff]
  intro hpreflight
  obtain ⟨hoptions, -, -⟩ := (isPreflight_iff r).1 hpreflight
  have hparse : r.method? = some .options :=
    Method.parse?_of_sameIgnoringAsciiCase (m := .options) hoptions
  rw [h] at hparse
  exact hne (Option.some.inj hparse)

end Request

namespace RouteMapping

variable {D : Type} {m n : RouteMapping} {r g : Request D} {path : String} {method : Method}

/-! ### Within one route -/

theorem routedMethod?_of_method (h : r.method? = some method) (hne : method ≠ .options) :
    routedMethod? r = some method := by
  rw [routedMethod?, Request.isPreflight_eq_false_of_method h hne, if_neg Bool.false_ne_true, h]

def TakesHead (m : RouteMapping) : Prop :=
  m.methods = [] ∨ .head ∈ m.methods ∨ .get ∈ m.methods

def headMethods (m : RouteMapping) : List Method :=
  if m.methods = [] then [] else if .head ∈ m.methods then [.head] else [.get]

/-- GET stands in for HEAD only where HEAD is not listed. -/
theorem matchingMethods?_head (h : r.method? = some .head) {methods : List Method} :
    m.matchingMethods? r = some methods ↔ m.TakesHead ∧ methods = m.headMethods := by
  have hrouted : routedMethod? r = some .head := routedMethod?_of_method h (by decide)
  unfold matchingMethods? TakesHead headMethods
  rw [hrouted, Option.bind_some]
  by_cases hempty : m.methods = []
  · simp [hempty, eq_comm]
  · by_cases hhead : Method.head ∈ m.methods
    · simp [hempty, hhead, eq_comm]
    · by_cases hget : Method.get ∈ m.methods <;> simp [hempty, hhead, hget, eq_comm]

theorem narrow?_head (h : r.method? = some .head) :
    m.narrow? r path = some n ↔ m.TakesHead ∧ m.matchingPatterns path ≠ [] ∧
      n = { m with patterns := m.matchingPatterns path, methods := m.headMethods } := by
  rw [narrow?_eq_some_iff]
  constructor
  · rintro ⟨methods, hmethods, hpatterns, hn⟩
    obtain ⟨htakes, rfl⟩ := (matchingMethods?_head h).1 hmethods
    exact ⟨htakes, hpatterns, hn⟩
  · rintro ⟨htakes, hpatterns, hn⟩
    exact ⟨_, (matchingMethods?_head h).2 ⟨htakes, rfl⟩, hpatterns, hn⟩

theorem length_headMethods (m : RouteMapping) :
    m.headMethods.length = if m.methods = [] then 0 else 1 := by
  unfold headMethods
  split
  · rfl
  · split <;> rfl

theorem narrow?_head_eq_get (h : r.method? = some .head) (hg : g.method? = some .get)
    (hunlisted : .head ∉ m.methods) : m.narrow? r path = m.narrow? g path := by
  have hrouted : routedMethod? r = some .head := routedMethod?_of_method h (by decide)
  have hrouted' : routedMethod? g = some .get := routedMethod?_of_method hg (by decide)
  have hmethods : m.matchingMethods? r = m.matchingMethods? g := by
    unfold matchingMethods?
    rw [hrouted, hrouted']
    by_cases hget : Method.get ∈ m.methods <;> simp [hunlisted, hget]
  rw [narrow?, narrow?, hmethods]

/-! ### Between routes -/

/-- The part of the ranking that looks at the patterns. -/
def comparePatternsOf (path : String) (a b : RouteMapping) : Ordering :=
  (comparePaired path a.patterns b.patterns).then (compare b.patterns.length a.patterns.length)

theorem comparePaired_self (path : String) (ps : List String) : comparePaired path ps ps = .eq := by
  induction ps with
  | nil => rfl
  | cons p ps ih =>
    have hself : Path.comparePatterns path p p = .eq := Std.ReflCmp.compare_self
    rw [comparePaired, hself, ih]
    rfl

theorem comparePatternsOf_of_eq {a b : RouteMapping} (h : a.patterns = b.patterns) :
    comparePatternsOf path a b = .eq := by
  rw [comparePatternsOf, h, comparePaired_self, Nat.compare_eq_eq.2 rfl]
  rfl

theorem compareTo_eq_then (path : String) (a b : RouteMapping) :
    compareTo path a b =
      (comparePatternsOf path a b).then (compare b.methods.length a.methods.length) := by
  rw [compareTo, comparePatternsOf, Ordering.then_assoc]

end RouteMapping

namespace HandlerMapping

open RouteMapping (comparePatternsOf)

variable {t : RouteTable} {m : HandlerMapping RouteMapping} {c : Containers}
  {r g : Request RouteMapping} {d d' : RouteMapping} {f f' : Match RouteMapping}

theorem noted_path {D : Type} (m : HandlerMapping D) (r : Request D) :
    (m.noted r).notedPath true = r.pathForLookup m.options.decode :=
  notedPath_note ..

/-! ### The matches of a HEAD request -/

theorem matching_head_iff (hm : m.strategy = t.strategy) (hr : r.method? = some .head) :
    Matching m (m.noted r) d f ↔ m.registry.binding? d = some f.binding ∧ d.TakesHead ∧
      d.matchingPatterns (r.pathForLookup m.options.decode) ≠ [] ∧
      f.mapping = { d with
        patterns := d.matchingPatterns (r.pathForLookup m.options.decode)
        methods := d.headMethods } := by
  have hnarrow : m.strategy.narrow d (m.noted r) =
      d.narrow? (m.noted r) (r.pathForLookup m.options.decode) := by
    rw [hm, ← noted_path]
    rfl
  have hhead : (m.noted r).method? = some .head := hr
  constructor
  · rintro ⟨hbound, hnarrowed⟩
    rw [hnarrow] at hnarrowed
    exact ⟨hbound, (RouteMapping.narrow?_head hhead).1 hnarrowed⟩
  · rintro ⟨hbound, hnarrowed⟩
    refine ⟨hbound, ?_⟩
    rw [hnarrow]
    exact (RouteMapping.narrow?_head hhead).2 hnarrowed

theorem compare_noted (hm : m.strategy = t.strategy) (a b : RouteMapping) :
    m.strategy.compare (m.noted r) a b =
      (comparePatternsOf (r.pathForLookup m.options.decode) a b).then
        (compare b.methods.length a.methods.length) := by
  rw [hm, ← RouteMapping.compareTo_eq_then, ← noted_path]
  rfl

theorem length_methods_of_matching (hm : m.strategy = t.strategy) (hr : r.method? = some .head)
    (hf : Matching m (m.noted r) d f) :
    f.mapping.methods.length = if d.methods = [] then 0 else 1 := by
  obtain ⟨-, -, -, hmapping⟩ := (matching_head_iff hm hr).1 hf
  rw [hmapping]
  exact RouteMapping.length_headMethods d

theorem compare_head_alike (hm : m.strategy = t.strategy) (hr : r.method? = some .head)
    (hf : Matching m (m.noted r) d f) (hf' : Matching m (m.noted r) d' f')
    (halike : d.methods = [] ↔ d'.methods = []) :
    m.strategy.compare (m.noted r) f.mapping f'.mapping =
      comparePatternsOf (r.pathForLookup m.options.decode) f.mapping f'.mapping := by
  have hlength : f.mapping.methods.length = f'.mapping.methods.length := by
    rw [length_methods_of_matching hm hr hf, length_methods_of_matching hm hr hf']
    simp only [halike]
  rw [compare_noted hm, hlength, Nat.compare_eq_eq.2 rfl, Ordering.then_eq]

theorem compare_head_any (hm : m.strategy = t.strategy) (hr : r.method? = some .head)
    (hf : Matching m (m.noted r) d f) (hf' : Matching m (m.noted r) d' f') (hd : d.methods ≠ [])
    (hd' : d'.methods = []) :
    m.strategy.compare (m.noted r) f.mapping f'.mapping =
      (comparePatternsOf (r.pathForLookup m.options.decode) f.mapping f'.mapping).then .lt := by
  rw [compare_noted hm, length_methods_of_matching hm hr hf, length_methods_of_matching hm hr hf',
    if_neg hd, if_pos hd']
  rfl

theorem plain_of_head (hm : Served t.strategy m) (hr : r.method? = some .head) :
    Plain m (m.noted r) (m.lookup (r.pathForLookup m.options.decode) (m.noted r)).1 := by
  have hplain : (m.noted r).isPreflight = false :=
    Request.isPreflight_eq_false_of_method (r := m.noted r) hr (by decide)
  exact lookup_plain t.literalFirst hm (noted_path m r) hplain

/-- Two routes that name methods and share the best patterns stand in each other's way. -/
theorem not_wins_of_shared (hm : m.strategy = t.strategy) (hr : r.method? = some .head)
    (hf : Matching m (m.noted r) d f) (hf' : Matching m (m.noted r) d' f') (hne : d' ≠ d)
    (hd : d.methods ≠ []) (hd' : d'.methods ≠ [])
    (htie : comparePatternsOf (r.pathForLookup m.options.decode) f.mapping f'.mapping = .eq)
    (hbest : ∀ d₁ f₁, Matching m (m.noted r) d₁ f₁ →
      (comparePatternsOf (r.pathForLookup m.options.decode) f.mapping f₁.mapping).isLE) :
    ∀ d₁ f₁, ¬Wins m (m.noted r) d₁ f₁ := by
  intro d₁ f₁ hwins
  have hc : Std.TransCmp (m.strategy.compare (m.noted r)) := by
    rw [hm]
    exact t.literalFirst.compare_trans _
  by_cases hself : d₁ = d
  · subst hself
    obtain rfl := hwins.matching.unique hf
    have hlt := hwins.before d' f' hf' hne
    rw [compare_head_alike hm hr hf hf' (iff_of_false hd hd'), htie] at hlt
    cases hlt
  · have hlt := hwins.before d f hf (Ne.symm hself)
    have hgt : m.strategy.compare (m.noted r) f.mapping f₁.mapping = .gt :=
      Std.OrientedCmp.gt_of_lt hlt
    have hle := hbest d₁ f₁ hwins.matching
    have hpatterns : comparePatternsOf (r.pathForLookup m.options.decode) f.mapping f₁.mapping =
        .gt := by
      by_cases hd₁ : d₁.methods = []
      · rw [compare_head_any hm hr hf hwins.matching hd hd₁] at hgt
        cases hcompare : comparePatternsOf (r.pathForLookup m.options.decode) f.mapping
            f₁.mapping with
        | gt => rfl
        | lt | eq =>
          rw [hcompare] at hgt
          cases hgt
      · rwa [compare_head_alike hm hr hf hwins.matching (iff_of_false hd hd₁)] at hgt
    rw [hpatterns] at hle
    cases hle

/-- So the request fails. -/
theorem getHandler_of_shared (hm : Served t.strategy m) (hr : r.method? = some .head)
    (hf : Matching m (m.noted r) d f) (hf' : Matching m (m.noted r) d' f') (hne : d' ≠ d)
    (hd : d.methods ≠ []) (hd' : d'.methods ≠ [])
    (htie : comparePatternsOf (r.pathForLookup m.options.decode) f.mapping f'.mapping = .eq)
    (hbest : ∀ d₁ f₁, Matching m (m.noted r) d₁ f₁ →
      (comparePatternsOf (r.pathForLookup m.options.decode) f.mapping f₁.mapping).isLE)
    (c : Containers) :
    ∃ first second, (m.getHandler c r).result =
      .error (.ambiguousHandlers r.uri first second) := by
  have hplain := plain_of_head hm hr
  obtain ⟨_, f₁, _, f₂, -, -, -, -, hanswer⟩ := hplain.tie ⟨d, f, hf⟩
    (not_wins_of_shared hm.sound.1 hr hf hf' hne hd hd' htie hbest)
  refine ⟨f₁.binding.handler.text, f₂.binding.handler.text, ?_⟩
  rw [getHandler_result, findHandler_noted, hanswer]
  rfl

/-! ### HEAD as GET -/

def HeadUnlisted (m : HandlerMapping RouteMapping) : Prop :=
  ∀ d b, m.registry.binding? d = some b → .head ∉ d.methods

theorem select_head_eq_get (hm : m.strategy = t.strategy) (hr : r.method? = some .head)
    (hg : g.method? = some .get) (hpath : r.notedPath true = g.notedPath true)
    (hunlisted : m.HeadUnlisted) (path : String) : m.select path r = m.select path g := by
  have hnarrow : ∀ d b, m.registry.binding? d = some b →
      m.strategy.narrow d r = m.strategy.narrow d g := by
    intro d b hb
    rw [hm]
    change d.narrow? r (r.notedPath true) = d.narrow? g (g.notedPath true)
    rw [hpath, RouteMapping.narrow?_head_eq_get hr hg (hunlisted d b hb)]
  have hcompare : m.strategy.compare r = m.strategy.compare g := by
    rw [hm]
    exact t.foreseeable.compare_eq hpath
  have hplain : r.isPreflight = g.isPreflight := by
    rw [Request.isPreflight_eq_false_of_method hr (by decide),
      Request.isPreflight_eq_false_of_method hg (by decide)]
  have hchoose : m.choose r = m.choose g := by
    funext ms
    unfold choose
    rw [hplain, hcompare]
  rw [select, select, rank_candidates_congr hnarrow hcompare, hchoose]

theorem lookup_head_eq_get (hm : m.strategy = t.strategy) (hr : r.method? = some .head)
    (hg : g.method? = some .get) (huri : r.uri = g.uri) (hunlisted : m.HeadUnlisted) :
    (m.lookup (r.pathForLookup m.options.decode) (m.noted r)).1 =
      (m.lookup (g.pathForLookup m.options.decode) (m.noted g)).1 := by
  have hpath := Request.pathForLookup_congr huri m.options.decode
  have hselect := select_head_eq_get hm (r := m.noted r) (g := m.noted g) hr hg
    (by rw [noted_path, noted_path, hpath]) hunlisted (r.pathForLookup m.options.decode)
  have huri' : (m.noted r).uri = (m.noted g).uri := huri
  unfold lookup
  rw [← hpath, ← hselect]
  cases m.select (r.pathForLookup m.options.decode) (m.noted r) with
  | nothing =>
    dsimp only
    rw [hm]
    rfl
  | preflight => rfl
  | ambiguous first second =>
    dsimp only
    rw [huri']
  | best found => rfl

theorem findHandler_head_eq_get (hm : m.strategy = t.strategy) (hr : r.method? = some .head)
    (hg : g.method? = some .get) (huri : r.uri = g.uri) (hunlisted : m.HeadUnlisted)
    (c : Containers) : (m.findHandler c r).result = (m.findHandler c g).result := by
  rw [findHandler_noted, findHandler_noted, lookup_head_eq_get hm hr hg huri hunlisted]

theorem getHandler_head_eq_get (hm : m.strategy = t.strategy) (hr : r.method? = some .head)
    (hg : g.method? = some .get) (huri : r.uri = g.uri) (hunlisted : m.HeadUnlisted)
    (c : Containers) : (m.getHandler c r).result = (m.getHandler c g).result := by
  have hs : m.strategy.Foreseeable := by
    rw [hm]
    exact t.foreseeable
  have hpath : (m.findHandler c r).request.notedPath m.options.decode =
      (m.findHandler c g).request.notedPath m.options.decode := by
    rw [← getHandler_request, ← getHandler_request, (getHandler_annotated hs c r).notedPath,
      (getHandler_annotated hs c g).notedPath, Request.pathForLookup_congr huri]
  have hchain := chainFor_congr (m := m) hpath
  rw [getHandler_result, getHandler_result, findHandler_head_eq_get hm hr hg huri hunlisted]
  simp only [hchain]

/-! ### What a HEAD request gets -/

structure ServesHead (m : HandlerMapping RouteMapping) (c : Containers)
    (r : Request RouteMapping) : Prop where
  /-- Within a route, GET stands in for HEAD only where HEAD is not listed. -/
  matching_iff : ∀ d f, Matching m (m.noted r) d f ↔
    m.registry.binding? d = some f.binding ∧ d.TakesHead ∧
      d.matchingPatterns (r.pathForLookup m.options.decode) ≠ [] ∧
      f.mapping = { d with
        patterns := d.matchingPatterns (r.pathForLookup m.options.decode)
        methods := d.headMethods }
  /-- Between routes that all name methods, or all take any, the patterns alone decide. -/
  alike : ∀ d f d' f', Matching m (m.noted r) d f → Matching m (m.noted r) d' f' →
    (d.methods = [] ↔ d'.methods = []) →
    m.strategy.compare (m.noted r) f.mapping f'.mapping =
      comparePatternsOf (r.pathForLookup m.options.decode) f.mapping f'.mapping
  any : ∀ d f d' f', Matching m (m.noted r) d f → Matching m (m.noted r) d' f' →
    d.methods ≠ [] → d'.methods = [] →
    m.strategy.compare (m.noted r) f.mapping f'.mapping =
      (comparePatternsOf (r.pathForLookup m.options.decode) f.mapping f'.mapping).then .lt
  plain : ∃ answer, Plain m (m.noted r) answer ∧ (m.findHandler c r).result = resolved c answer
  /-- A route that lists HEAD does not get past another one with methods and the same patterns. -/
  shared : ∀ d f d' f', Matching m (m.noted r) d f → Matching m (m.noted r) d' f' → d' ≠ d →
    .head ∈ d.methods → d'.methods ≠ [] →
    comparePatternsOf (r.pathForLookup m.options.decode) f.mapping f'.mapping = .eq →
    (∀ d₁ f₁, Matching m (m.noted r) d₁ f₁ →
      (comparePatternsOf (r.pathForLookup m.options.decode) f.mapping f₁.mapping).isLE) →
    ∃ first second, (m.getHandler c r).result = .error (.ambiguousHandlers r.uri first second)
  /-- Where no route lists HEAD, the request is served as the GET request would be. -/
  as_get : m.HeadUnlisted → ∀ g : Request RouteMapping, g.method? = some .get → g.uri = r.uri →
    (m.findHandler c r).result = (m.findHandler c g).result ∧
      (m.getHandler c r).result = (m.getHandler c g).result

/-- Requests for HEAD are served by the routes for HEAD and the routes for GET alike. -/
theorem head_served_alike (hm : Served t.strategy m) (c : Containers)
    (hr : r.method? = some .head) : ServesHead m c r where
  matching_iff _ _ := matching_head_iff hm.sound.1 hr
  alike _ _ _ _ := compare_head_alike hm.sound.1 hr
  any _ _ _ _ := compare_head_any hm.sound.1 hr
  plain := ⟨_, plain_of_head hm hr, m.findHandler_noted c r⟩
  shared := by
    intro d f d' f' hf hf' hne hhead hd' htie hbest
    exact getHandler_of_shared hm hr hf hf' hne (List.ne_nil_of_mem hhead) hd' htie hbest c
  as_get := by
    intro hunlisted g hg huri
    exact ⟨findHandler_head_eq_get hm.sound.1 hr hg huri.symm hunlisted c,
      getHandler_head_eq_get hm.sound.1 hr hg huri.symm hunlisted c⟩

/-! ### Two routes of one bean -/

def statusRoutes (method : Method) : RouteTable :=
  (RouteTable.route []
    { owner := "Status", handler := "probe", methods := [method], paths := ["/status"] }).route
    { owner := "Status", handler := "read", methods := [.get], paths := ["/status"] }

def statusBeans : Containers :=
  Containers.single.declare 0
    ⟨"status", .ready ⟨"Status", [⟨"Status", "probe", []⟩, ⟨"Status", "read", []⟩]⟩ "status"⟩

def statusMapping (method : Method) : HandlerMapping RouteMapping :=
  (start { strategy := (statusRoutes method).strategy } statusBeans).2.1

def statusFor (method : Method) : RouteMapping := { patterns := ["/status"], methods := [method] }

def statusRequest (method : String) : Request RouteMapping := { method, target := "/status" }

theorem statusMapping_served (method : Method) :
    Served (statusRoutes method).strategy (statusMapping method) :=
  .start statusBeans rfl rfl rfl

theorem keys_statusMapping (method : Method) (h : method = .head ∨ method = .post) :
    Assoc.keys (statusMapping method).registry.bindings = [statusFor method, statusFor .get] := by
  rcases h with rfl | rfl <;> decide +kernel

theorem bound_statusMapping {method : Method} (h : method = .head ∨ method = .post)
    {d : RouteMapping} {b : Binding} (hb : (statusMapping method).registry.binding? d = some b) :
    d = statusFor method ∨ d = statusFor .get := by
  have hd : d ∈ Assoc.keys (statusMapping method).registry.bindings :=
    Assoc.contains_iff_mem_keys.1 (Option.isSome_of_eq_some hb)
  rw [keys_statusMapping method h] at hd
  simpa using hd

/-- With a route for POST besides, HEAD is served as GET. -/
theorem status_head_as_get :
    Served (statusRoutes .post).strategy (statusMapping .post) ∧
    (statusRequest "HEAD").method? = some .head ∧
    ((statusMapping .post).getHandler statusBeans (statusRequest "HEAD")).result =
      ((statusMapping .post).getHandler statusBeans (statusRequest "GET")).result := by
  have hhead : (statusRequest "HEAD").method? = some .head := by decide +kernel
  have hget : (statusRequest "GET").method? = some .get := by decide +kernel
  have hunlisted : (statusMapping .post).HeadUnlisted := by
    intro d b hb
    rcases bound_statusMapping (.inr rfl) hb with rfl | rfl <;> decide
  exact ⟨statusMapping_served .post, hhead,
    ((head_served_alike (statusMapping_served .post) statusBeans hhead).as_get hunlisted _ hget
      rfl).2⟩

theorem matchingPatterns_statusFor (method : Method) :
    (statusFor method).matchingPatterns "/status" = ["/status"] := by
  have hmatch : Path.isMatch "/status" "/status" = true := Path.isMatch_self (by decide +kernel)
  simp [RouteMapping.matchingPatterns, statusFor, hmatch]

theorem status_head_matching_iff {d : RouteMapping} {f : Match RouteMapping} :
    Matching (statusMapping .head) ((statusMapping .head).noted (statusRequest "HEAD")) d f ↔
      (statusMapping .head).registry.binding? d = some f.binding ∧ f.mapping = d := by
  have hhead : (statusRequest "HEAD").method? = some .head := by decide +kernel
  have hpath : (statusRequest "HEAD").pathForLookup (statusMapping .head).options.decode =
      "/status" := by
    change (statusRequest "HEAD").pathForLookup true = "/status"
    decide +kernel
  rw [matching_head_iff (statusMapping_served .head).sound.1 hhead, hpath]
  apply and_congr_right
  intro hbound
  rcases bound_statusMapping (.inl rfl) hbound with rfl | rfl
  · rw [matchingPatterns_statusFor]
    simp [RouteMapping.TakesHead, RouteMapping.headMethods, statusFor]
  · rw [matchingPatterns_statusFor]
    simp [RouteMapping.TakesHead, RouteMapping.headMethods, statusFor]

/-- With a route for HEAD besides, HEAD is ambiguous: the route that lists it ties with the one
that takes it as GET. -/
theorem status_head_ambiguous :
    (statusMapping .head).state = .ready ∧
    Assoc.keys (statusMapping .head).registry.bindings = [statusFor .head, statusFor .get] ∧
    (statusRequest "HEAD").method? = some .head ∧
    comparePatternsOf "/status" (statusFor .head) (statusFor .get) = .eq ∧
    ∃ first second,
      ((statusMapping .head).getHandler statusBeans (statusRequest "HEAD")).result =
        .error (.ambiguousHandlers "/status" first second) := by
  have hready : (statusMapping .head).state = .ready := by decide +kernel
  have hkeys := keys_statusMapping .head (.inl rfl)
  have hhead : (statusRequest "HEAD").method? = some .head := by decide +kernel
  have huri : (statusRequest "HEAD").uri = "/status" := by decide +kernel
  have hbound : ∀ d ∈ [statusFor .head, statusFor .get],
      ∃ f, Matching (statusMapping .head) ((statusMapping .head).noted (statusRequest "HEAD")) d f ∧
        f.mapping = d := by
    intro d hd
    rw [← hkeys] at hd
    obtain ⟨b, hb⟩ := Option.isSome_iff_exists.1 (Assoc.contains_iff_mem_keys.2 hd)
    exact ⟨⟨d, b⟩, status_head_matching_iff.2 ⟨hb, rfl⟩, rfl⟩
  obtain ⟨f, hf, hmapping⟩ := hbound (statusFor .head) (by simp)
  obtain ⟨f', hf', hmapping'⟩ := hbound (statusFor .get) (by simp)
  have htie : comparePatternsOf "/status" (statusFor .head) (statusFor .get) = .eq :=
    RouteMapping.comparePatternsOf_of_eq rfl
  refine ⟨hready, hkeys, hhead, htie, ?_⟩
  rw [← huri]
  apply getHandler_of_shared (statusMapping_served .head) hhead hf hf' (by decide) (by decide)
    (by decide)
  · rw [hmapping, hmapping']
    exact RouteMapping.comparePatternsOf_of_eq rfl
  · intro d₁ f₁ hf₁
    obtain ⟨hb₁, hmapping₁⟩ := status_head_matching_iff.1 hf₁
    have hpatterns : f.mapping.patterns = f₁.mapping.patterns := by
      rw [hmapping, hmapping₁]
      rcases bound_statusMapping (.inl rfl) hb₁ with rfl | rfl <;> rfl
    rw [RouteMapping.comparePatternsOf_of_eq hpatterns]
    rfl

end HandlerMapping

end RequestDispatch
