import RequestDispatch.Proofs.Mapping.Discovery
import RequestDispatch.Proofs.Mapping.Winner
import RequestDispatch.Proofs.Registry.Refusal

/-! # Detection of beans by URL

Every bean claims the URLs that the resolver has for its name. The detection registers the claims
in order and stops at the first URL that another bean has; the mapping that it works on was made
ready before the first claim. So a start that fails leaves a mapping that is ready, serves the
claims before the clash and cannot be started again. -/
namespace RequestDispatch

namespace Registry

variable {D : Type} [DecidableEq D] {r : Registry D} {es : List (D × HandlerMethod)} {d : D}

theorem Lists.register_eq_error (hr : Lists r es) {s : Strategy D} {naming? : Option (Naming D)}
    {source : HandlerSource} {method : Signature} (hvalid : CorsValid s (d, ⟨source, method, none⟩))
    {e : DispatchError} (he : r.register s naming? d source method = .error e) :
    ∃ held, (d, held) ∈ es ∧ held ≠ ⟨source, method, none⟩ ∧
      e = conflict s d ⟨source, method, none⟩ held := by
  have hbinding : (bindingFor s naming? d source method).isOk = true :=
    bindingFor_isOk_iff.2 hvalid
  unfold Registry.register at he
  dsimp only at he
  cases hb : bindingFor s naming? d source method with
  | error e' =>
    rw [hb] at hbinding
    cases hbinding
  | ok b =>
    rw [hb] at he
    split at he
    · cases he
    · next held hd =>
      split at he
      · cases he
      · next hother =>
        refine ⟨held.handler, hr.mem_iff.2 ⟨held, hd, rfl⟩, ?_, (Except.error.inj he).symm⟩
        intro heq
        exact hother ((hr.sameAs_iff hd).2 heq)

end Registry

theorem HandlerMapping.start_setup {D : Type} [DecidableEq D] (m : HandlerMapping D)
    (c : Containers) :
    (m.start c).2.1.strategy = m.strategy ∧ (m.start c).2.1.options = m.options := by
  unfold start
  split
  · exact ⟨rfl, rfl⟩
  · split <;> exact ⟨rfl, rfl⟩

namespace UrlMapping

open Registry (Lists Unambiguous CorsValid conflict unambiguous_append_singleton)
open HandlerMapping (Fresh discover_exact discoverFrom_exact start_of_uninitialized)

variable {m m' : HandlerMapping String} {before es more : List (String × HandlerMethod)}

/-! ### Claims to URLs -/

/-- A bean as a whole takes the requests to the URL. -/
def claim (name owner url : String) : String × HandlerMethod :=
  (url, ⟨.bean name, ⟨owner, urlHandlerMethod, []⟩, none⟩)

def claimsOf (resolve : UrlResolver) (c : Containers) (name : String) :
    List (String × HandlerMethod) :=
  (resolve name).map (claim name (ownerOf c name))

/-- The claims of the beans, in the order of the names and then of their URLs. -/
def claims (resolve : UrlResolver) (c : Containers) (names : List String) :
    List (String × HandlerMethod) :=
  names.flatMap (claimsOf resolve c)

/-- How the registration of claims ends, after those that are registered already: with all of them,
or at the first whose URL is held. Nothing but the registry has changed then. -/
inductive Registered (m : HandlerMapping String) (before es : List (String × HandlerMethod)) :
    Except DispatchError Unit → HandlerMapping String → Prop where
  | all {r : Registry String} (lists : Lists r (before ++ es)) :
      Registered m before es (.ok ()) { m with registry := r }
  | clash {r : Registry String} {done rest : List (String × HandlerMethod)} {url : String}
      {h held : HandlerMethod} (split : es = done ++ (url, h) :: rest)
      (lists : Lists r (before ++ done)) (taken : (url, held) ∈ before ++ done) (other : held ≠ h) :
      Registered m before es (.error (conflict urlStrategy url h held)) { m with registry := r }

namespace Registered

theorem nil (h : Lists m.registry before) : Registered m before [] (.ok ()) m := by
  have hall : Lists m.registry (before ++ []) := by rwa [List.append_nil]
  exact .all hall

theorem state {result : Except DispatchError Unit} (h : Registered m before es result m') :
    m'.state = m.state := by
  cases h <;> rfl

theorem strategy {result : Except DispatchError Unit} (h : Registered m before es result m') :
    m'.strategy = m.strategy := by
  cases h <;> rfl

theorem lists (h : Registered m before es (.ok ()) m') : Lists m'.registry (before ++ es) := by
  cases h with
  | all lists => exact lists

theorem of_error {e : DispatchError} (h : Registered m before es (.error e) m') :
    Registered m before (es ++ more) (.error e) m' := by
  cases h with
  | clash split lists taken other =>
    exact .clash (by rw [split, List.append_assoc, List.cons_append]) lists taken other

theorem append {m₁ : HandlerMapping String} {result : Except DispatchError Unit}
    (h : Registered m before es (.ok ()) m₁) (h' : Registered m₁ (before ++ es) more result m') :
    Registered m before (es ++ more) result m' := by
  cases h with
  | all _ =>
    cases h' with
    | all lists =>
      rw [List.append_assoc] at lists
      exact .all lists
    | @clash r done rest url claimant held split lists taken other =>
      rw [List.append_assoc] at lists taken
      have hsplit : es ++ more = (es ++ done) ++ (url, claimant) :: rest := by
        rw [split, List.append_assoc]
      exact .clash hsplit lists taken other

theorem isOk_iff {result : Except DispatchError Unit} (h : Registered m before es result m') :
    result = .ok () ↔ Unambiguous (before ++ es) := by
  cases h with
  | all lists => exact iff_of_true rfl lists.unambiguous
  | @clash r done rest url claimant held split lists taken other =>
    refine iff_of_false (fun hok => nomatch hok) fun hall => ?_
    rw [split, List.append_cons, ← List.append_assoc, ← List.append_assoc] at hall
    exact other ((unambiguous_append_singleton.1 hall.of_append).2 held taken)

end Registered

/-! ### The detection -/

section Register

variable {name owner url : String}

theorem Registered.of_register_ok (hlists : Lists m.registry before)
    (h : m.register url (.bean name) ⟨owner, urlHandlerMethod, []⟩ = .ok m') :
    Registered m before [claim name owner url] (.ok ()) m' := by
  obtain ⟨r, hr, rfl⟩ := HandlerMapping.register_eq_ok h
  exact .all (hlists.register hr)

theorem Registered.of_register_error (hready : m.state = .ready)
    (hstrategy : m.strategy = urlStrategy) (hlists : Lists m.registry before) {e : DispatchError}
    (h : m.register url (.bean name) ⟨owner, urlHandlerMethod, []⟩ = .error e) :
    Registered m before [claim name owner url] (.error e) m := by
  have hvalid : CorsValid urlStrategy (claim name owner url) := fun _ hnone => nomatch hnone
  unfold HandlerMapping.register HandlerMapping.whenReady at h
  rw [if_pos hready, hstrategy] at h
  cases hr : m.registry.register urlStrategy m.naming? url (.bean name)
      ⟨owner, urlHandlerMethod, []⟩ with
  | ok r =>
    rw [hr] at h
    cases h
  | error e' =>
    rw [hr] at h
    cases h
    obtain ⟨held, htaken, hother, rfl⟩ := hlists.register_eq_error hvalid hr
    have hdone : Lists m.registry (before ++ []) := by rwa [List.append_nil]
    have htaken : (url, held) ∈ before ++ [] := by rwa [List.append_nil]
    have hsplit : [claim name owner url] = [] ++ claim name owner url :: [] := rfl
    exact .clash hsplit hdone htaken hother

end Register

theorem registerUrls_registered (name owner : String) (urls : List String) {s : Step}
    (hready : s.mapping.state = .ready) (hstrategy : s.mapping.strategy = urlStrategy)
    (hlists : Lists s.mapping.registry before) :
    Registered s.mapping before
      (urls.map (claim name owner)) (registerUrls name owner urls s).1
      (registerUrls name owner urls s).2.mapping := by
  induction urls generalizing s before with
  | nil => exact .nil hlists
  | cons url rest ih =>
    rw [List.map_cons, ← List.singleton_append]
    dsimp only [registerUrls]
    cases hregister : s.mapping.register url (.bean name) ⟨owner, urlHandlerMethod, []⟩ with
    | error e => exact (Registered.of_register_error hready hstrategy hlists hregister).of_error
    | ok m =>
      have hone := Registered.of_register_ok hlists hregister
      refine hone.append ?_
      exact ih (s := ⟨m, _⟩) (hone.state.trans hready) (hone.strategy.trans hstrategy) hone.lists

theorem detectFrom_registered (resolve : UrlResolver) (c : Containers) (names : List String)
    {s : Step} (hready : s.mapping.state = .ready) (hstrategy : s.mapping.strategy = urlStrategy)
    (hlists : Lists s.mapping.registry before) :
    Registered s.mapping before (claims resolve c names)
      (detectFrom resolve c names s).1 (detectFrom resolve c names s).2.mapping := by
  induction names generalizing s before with
  | nil => exact .nil hlists
  | cons name rest ih =>
    rw [claims, List.flatMap_cons, ← claims]
    unfold detectFrom
    cases hurls : resolve name with
    | nil =>
      rw [claimsOf, hurls, List.map_nil, List.nil_append]
      exact ih hready hstrategy hlists
    | cons url urls =>
      have hbean := registerUrls_registered name (ownerOf c name) (url :: urls)
        (s := { s with events := s.events ++ ownerEvents c name }) hready hstrategy hlists
      rw [← hurls, ← claimsOf] at hbean
      dsimp only
      rw [hurls] at hbean
      cases hrun : registerUrls name (ownerOf c name) (url :: urls)
          { s with events := s.events ++ ownerEvents c name } with
      | mk result s' =>
        rw [hrun] at hbean
        cases result with
        | error e => exact hbean.of_error
        | ok _ =>
          exact hbean.append
            (ih (hbean.state.trans hready) (hbean.strategy.trans hstrategy) hbean.lists)

/-! ### The start -/

/-- No bean has a type with handler methods here, so discovery finds nothing and the mapping
becomes ready. -/
theorem start_ready (hm : m.Fresh) (hstrategy : m.strategy = urlStrategy) (c : Containers) :
    (m.start c).1 = .ok () ∧ (m.start c).2.1.state = .ready ∧
      (m.start c).2.1.strategy = urlStrategy ∧ (m.start c).2.1.options = m.options ∧
      Lists (m.start c).2.1.registry [] := by
  -- the strategy has no handler types
  have hcandidate : ∀ name, m.candidateType? c name = none := by
    intro name
    have hhandler : m.strategy.isHandler = fun _ => false := by rw [hstrategy]; rfl
    unfold HandlerMapping.candidateType?
    rw [hhandler]
    split
    · rfl
    · cases (c.typeOf 0 name).toOption <;> rfl
  have hfindings : m.findings c = [] := by
    refine List.flatMap_eq_nil_iff.2 fun name _ => ?_
    rw [HandlerMapping.findingsOf, hcandidate]
  have hdiscoverable : m.Discoverable c := by
    refine ⟨fun name _ type htype => ?_, ?_, ?_⟩
    · rw [hcandidate] at htype
      cases htype
    · rw [hfindings]
      exact Registry.unambiguous_nil
    · rw [hfindings]
      intro e hin
      cases hin
  have hempty : Lists (⟨m.registry, []⟩ : Progress String).registry [] :=
    hm.registry ▸ Registry.lists_empty
  have hok : (m.discover c).1 = .ok () := (discover_exact hm.registry c).1.2 hdiscoverable
  have hlists := (discoverFrom_exact (m := m) c (c.names 0 m.options.ancestors)).lists hempty hok
  obtain ⟨hresult, hready, -⟩ := start_of_uninitialized hm.state c
  obtain ⟨hstate, hregistry⟩ := hready hok
  obtain ⟨hsame, hoptions⟩ := m.start_setup c
  refine ⟨hresult.trans hok, hstate, hsame.trans hstrategy, hoptions, ?_⟩
  rw [hregistry]
  change Lists _ (m.findings c) at hlists
  rwa [hfindings] at hlists

theorem start_registered (hm : m.Fresh) (hstrategy : m.strategy = urlStrategy)
    (resolve : UrlResolver) (c : Containers) :
    ∃ ready : HandlerMapping String, ready.state = .ready ∧
      Registered ready [] (claims resolve c (c.names 0 m.options.ancestors))
        (start resolve m c).1 (start resolve m c).2.1 := by
  obtain ⟨hok, hready, hsame, hoptions, hlists⟩ := start_ready hm hstrategy c
  refine ⟨(m.start c).2.1, hready, ?_⟩
  unfold start
  cases hstart : m.start c with
  | mk result rest =>
    obtain ⟨ready, events⟩ := rest
    rw [hstart] at hok hready hsame hoptions hlists
    have hresult : result = .ok () := hok
    have hdetected := detectFrom_registered resolve c (c.names 0 ready.options.ancestors)
      (s := ⟨ready, events⟩) hready hsame hlists
    rw [← hoptions, hresult]
    dsimp only at hdetected ⊢
    cases hrun : detectFrom resolve c (c.names 0 ready.options.ancestors) ⟨ready, events⟩ with
    | mk result s =>
      rw [hrun] at hdetected
      cases result <;> exact hdetected

theorem start_again (hready : m.state = .ready) (resolve : UrlResolver) (c : Containers) :
    (start resolve m c).1 = .error
        (.illegalState "handler method mapping cannot be initialized in state Ready") ∧
      (start resolve m c).2.1 = m := by
  have hstarted : m.state ≠ .uninitialized := by rw [hready]; decide
  have hrefused : m.start c = (.error (.illegalState
      "handler method mapping cannot be initialized in state Ready"), m, []) := by
    rw [HandlerMapping.start, if_pos hstarted, hready]
    rfl
  unfold start
  rw [hrefused]
  exact ⟨rfl, rfl⟩

/-- What a start that failed leaves behind: a mapping that is ready and cannot be started again,
with the claims before the first URL that another bean has. One of these claims holds that URL. -/
structure Halted (claims : List (String × HandlerMethod)) (e : DispatchError)
    (m : HandlerMapping String) : Prop where
  state : m.state = .ready
  clash : ∃ done url h held rest, claims = done ++ (url, h) :: rest ∧ (url, held) ∈ done ∧
    held ≠ h ∧ e = conflict urlStrategy url h held ∧ m.registry.handlers = done.eraseDups
  again : ∀ resolve c, (start resolve m c).1 = .error
      (.illegalState "handler method mapping cannot be initialized in state Ready") ∧
    (start resolve m c).2.1 = m

/-- The start of a fresh mapping succeeds exactly if no URL is claimed by two beans, and then all
claims are registered. Otherwise the claims before the clash stay registered, and the mapping stays
ready. -/
theorem start_keeps_claims_before_clash (hm : m.Fresh) (hstrategy : m.strategy = urlStrategy)
    (resolve : UrlResolver) (c : Containers) :
    let claimed := claims resolve c (c.names 0 m.options.ancestors)
    ((start resolve m c).1 = .ok () ↔ Unambiguous claimed) ∧
    ((start resolve m c).1 = .ok () → (start resolve m c).2.1.state = .ready ∧
      (start resolve m c).2.1.registry.handlers = claimed.eraseDups) ∧
    ∀ e, (start resolve m c).1 = .error e → Halted claimed e (start resolve m c).2.1 := by
  intro claimed
  obtain ⟨ready, hready, hregistered⟩ := start_registered hm hstrategy resolve c
  have hstate := hregistered.state.trans hready
  refine ⟨hregistered.isOk_iff, ?_, ?_⟩
  · intro hok
    refine ⟨hstate, ?_⟩
    rw [hok] at hregistered
    exact hregistered.lists.handlers
  · intro e he
    refine ⟨hstate, ?_, start_again hstate⟩
    rw [he] at hregistered
    generalize (start resolve m c).2.1 = left at hregistered ⊢
    cases hregistered with
    | @clash r done rest url h held split lists taken other =>
      exact ⟨done, url, h, held, rest, split, taken, other, rfl, lists.handlers⟩

/-! ### Two beans with one URL -/

def statusBeans : Containers :=
  (Containers.single.declare 0 ⟨"statusPage", .ready ⟨"StatusPage", []⟩ "statusPage"⟩).declare 0
    ⟨"legacyStatus", .ready ⟨"StatusPage", []⟩ "legacyStatus"⟩

def statusUrls : UrlResolver := fun name =>
  if name = "statusPage" then ["/status", "/ping"]
  else if name = "legacyStatus" then ["/status"]
  else []

def statusMapping : HandlerMapping String :=
  (start statusUrls { strategy := urlStrategy } statusBeans).2.1

def statusRequest : Request String := { method := "GET", target := "/status" }

theorem status_found : (statusMapping.findHandler statusBeans statusRequest).result =
    .ok (some ⟨.object (.created 0 "statusPage"), ⟨"StatusPage", urlHandlerMethod, []⟩,
      some "statusPage"⟩) := by
  have hpath : statusRequest.pathForLookup statusMapping.options.decode = "/status" := by
    decide +kernel
  have hself : Path.isMatch "/status" "/status" = true := Path.isMatch_self (by decide +kernel)
  have hnarrow : statusMapping.strategy.narrow "/status"
      (statusRequest.note .lookupPath "/status") = some "/status" := by
    have hstrategy : statusMapping.strategy = urlStrategy := rfl
    simp [hstrategy, urlStrategy, HandlerMapping.notedPath_note, hself]
  have hat : statusMapping.registry.atPath "/status" = ["/status"] := by decide +kernel
  have hbinding : statusMapping.registry.binding? "/status" =
      some ⟨(claim "statusPage" "StatusPage" "/status").2, ["/status"], none, none⟩ := by
    decide +kernel
  have hselect := HandlerMapping.select_of_only (f := ⟨"/status", _⟩) hat ⟨hbinding, hnarrow⟩
  rw [HandlerMapping.findHandler_result, hpath, HandlerMapping.lookup, hselect]
  rfl

/-- The start fails at the third claim. It leaves the mapping ready, with the URLs of the first bean
registered and served, and it cannot be tried again. -/
theorem shared_url_left_in_service :
    let m : HandlerMapping String := { strategy := urlStrategy }
    m.Fresh ∧
    (start statusUrls m statusBeans).1 = .error
      (conflict urlStrategy "/status" (claim "legacyStatus" "StatusPage" "/status").2
        (claim "statusPage" "StatusPage" "/status").2) ∧
    (start statusUrls m statusBeans).2.1 = statusMapping ∧ statusMapping.state = .ready ∧
    urls statusMapping = ["/status", "/ping"] ∧
    (∃ h, (statusMapping.findHandler statusBeans statusRequest).result = .ok (some h)) ∧
    (start statusUrls statusMapping (statusBeans.remove 0 "legacyStatus")).1 = .error
      (.illegalState "handler method mapping cannot be initialized in state Ready") := by
  intro m
  have hready : statusMapping.state = .ready := by decide +kernel
  exact ⟨⟨rfl, rfl⟩, by decide +kernel, rfl, hready, by decide +kernel, ⟨_, status_found⟩,
    (start_again hready _ _).1⟩

theorem separate_urls_registered :
    let m : HandlerMapping String := { strategy := urlStrategy }
    let beans := statusBeans.remove 0 "legacyStatus"
    m.Fresh ∧ m.strategy = urlStrategy ∧
    (start statusUrls m beans).2.1.registry.handlers =
      (claims statusUrls beans (beans.names 0 m.options.ancestors)).eraseDups ∧
    Halted (claims statusUrls statusBeans (statusBeans.names 0 m.options.ancestors))
      (conflict urlStrategy "/status" (claim "legacyStatus" "StatusPage" "/status").2
        (claim "statusPage" "StatusPage" "/status").2) statusMapping := by
  intro m beans
  have hm : m.Fresh := ⟨rfl, rfl⟩
  have hok : (start statusUrls m beans).1 = .ok () := by rfl
  have hclash : (start statusUrls m statusBeans).1 = .error
      (conflict urlStrategy "/status" (claim "legacyStatus" "StatusPage" "/status").2
        (claim "statusPage" "StatusPage" "/status").2) := by
    decide +kernel
  obtain ⟨-, hregistered, -⟩ := start_keeps_claims_before_clash hm rfl statusUrls beans
  obtain ⟨-, -, hhalted⟩ := start_keeps_claims_before_clash hm rfl statusUrls statusBeans
  exact ⟨hm, rfl, (hregistered hok).2, hhalted _ hclash⟩

end UrlMapping

end RequestDispatch
