import RequestDispatch.Proofs.Cors.Enforcement

/-! # What the metadata decide

A request with an origin is allowed or refused. Refusal leaves the headers of the response as they
were. An allowed request is told the origin that is granted, and this is the star only if no
credentials are allowed or the request itself came from there. -/
namespace RequestDispatch

variable {D : Type}

/-- No header of the response is one of access control. -/
def Response.Bare (response : Response) : Prop :=
  ∀ header ∈ response.headers, Text.startsWithText "Access-Control-" header.1 = false

theorem Response.Bare.find?_eq_none {response : Response} (h : response.Bare) {name : String}
    (hname : Text.startsWithText "Access-Control-" name = true) :
    Assoc.find? response.headers name = none := by
  refine Assoc.find?_eq_none_iff.2 fun hin => ?_
  obtain ⟨header, hheader, rfl⟩ := List.mem_map.1 hin
  rw [h header hheader] at hname
  cases hname

namespace CorsConfig

variable {c : CorsConfig} {r : Request D} {response : Response} {origin granted : String}

/-- A preflight request is allowed if all that it asks for is, any other one if its method and its
origin are. -/
def Allows (c : CorsConfig) (r : Request D) (origin : String) : Prop :=
  if r.isPreflight then c.AllowsProbe r origin
  else c.allowsMethod r.method = true ∧ c.allowsOrigin origin = true

/-! ### The headers that are written -/

theorem credentials_notMem_preflightHeaders (hc : c.credentials = false) :
    "Access-Control-Allow-Credentials" ∉ (c.preflightHeaders r granted).map Prod.fst := by
  intro hin
  simp only [preflightHeaders, hc, List.map_append, List.mem_append,
    apply_ite (List.map Prod.fst)] at hin
  rcases hin with ((hin | hin) | hin) | hin
  · simp at hin
  · split at hin <;> simp at hin
  · simp at hin
  · cases hage : c.maxAge with
    | none => simp [hage] at hin
    | some seconds => simp [hage] at hin

theorem credentials_notMem_grantHeaders (hc : c.credentials = false) :
    "Access-Control-Allow-Credentials" ∉ (c.grantHeaders granted).map Prod.fst := by
  intro hin
  simp only [grantHeaders, hc, List.map_append, List.mem_append,
    apply_ite (List.map Prod.fst)] at hin
  rcases hin with ((hin | hin) | hin) | hin
  · split at hin <;> simp at hin
  · simp at hin
  · simp at hin
  · split at hin <;> simp at hin

theorem find?_grantHeaders (c : CorsConfig) (response : Response) (granted : String) :
    Assoc.find? (writeHeaders response (c.grantHeaders granted)).headers
      "Access-Control-Allow-Origin" = some granted := by
  unfold grantHeaders
  rw [List.append_assoc, List.append_assoc, List.singleton_append]
  refine find?_writeHeaders_append_cons response _ granted ?_
  intro hin
  simp only [List.map_append, List.mem_append, apply_ite (List.map Prod.fst)] at hin
  rcases hin with hin | hin
  · split at hin <;> simp at hin
  · split at hin <;> simp at hin

/-- Credentials are written only if they are allowed. -/
theorem credentials_of_find? {headers : List (String × String)} (hbare : response.Bare)
    (hheaders : c.credentials = false →
      "Access-Control-Allow-Credentials" ∉ headers.map Prod.fst) {value : String}
    (h : Assoc.find? (writeHeaders response headers).headers "Access-Control-Allow-Credentials" =
      some value) : c.credentials = true := by
  by_contra hc
  rw [Bool.not_eq_true] at hc
  rw [find?_writeHeaders_of_notMem response (hheaders hc),
    hbare.find?_eq_none (by decide +kernel)] at h
  cases h

/-! ### The decision -/

/-- What becomes of an allowed request: one that is no preflight proceeds, a preflight is answered.
Both are told the origin that is granted, which is not the star together with credentials unless the
request came from there. -/
structure Granted (c : CorsConfig) (r : Request D) (origin : String) (proceeds : Bool)
    (after : Response) : Prop where
  proceeds : proceeds = !r.isPreflight
  status : r.isPreflight = true → after.status = 200
  told : ∃ granted, c.grantedOrigin? origin = some granted ∧
    Assoc.find? after.headers "Access-Control-Allow-Origin" = some granted
  star : Assoc.find? after.headers "Access-Control-Allow-Origin" = some anyValue →
    Assoc.find? after.headers "Access-Control-Allow-Credentials" = some "true" →
    withoutEndSlashes origin = anyValue

/-- With credentials it is the origin of the request that is granted, whatever is listed. -/
theorem Granted.of_headers {headers : List (String × String)} {after : Response} {proceeds : Bool}
    (hbare : response.Bare)
    (hproceeds : proceeds = !r.isPreflight) (hstatus : r.isPreflight = true → after.status = 200)
    (hafter : after.headers = (writeHeaders response headers).headers)
    (hgranted : c.grantedOrigin? origin = some granted)
    (horigin : Assoc.find? (writeHeaders response headers).headers "Access-Control-Allow-Origin" =
      some granted)
    (hcredentials : c.credentials = false →
      "Access-Control-Allow-Credentials" ∉ headers.map Prod.fst) :
    c.Granted r origin proceeds after := by
  rw [← hafter] at horigin
  refine ⟨hproceeds, hstatus, ⟨granted, hgranted, horigin⟩, fun hstar hallowed => ?_⟩
  rw [hafter] at hallowed
  have hc := credentials_of_find? hbare hcredentials hallowed
  have hsame := grantedOrigin?_of_credentials hc (allowsOrigin_eq_true_iff.2 ⟨granted, hgranted⟩)
  rw [hgranted] at hsame
  rw [horigin] at hstar
  cases hsame
  exact Option.some.inj hstar

theorem enforce_granted (hbare : response.Bare) (h : r.header? "origin" = some origin)
    (hallows : c.Allows r origin) :
    c.Granted r origin ((c.enforce r response).1 = .proceed) (c.enforce r response).2 := by
  cases hr : r.isPreflight with
  | true =>
    have hprobe : c.AllowsProbe r origin := by rwa [Allows, if_pos hr] at hallows
    obtain ⟨granted, hgranted⟩ := allowsOrigin_eq_true_iff.1 hprobe.origin
    rw [enforce_of_preflight hr h, (checkPreflight_eq_ok_iff hr h).2 ⟨hgranted, hprobe⟩]
    exact .of_headers hbare (by simp [hr]) (fun _ => rfl) rfl hgranted (find?_preflightHeaders ..)
      credentials_notMem_preflightHeaders
  | false =>
    rw [Allows, hr, if_neg Bool.false_ne_true] at hallows
    obtain ⟨hmethod, horigin⟩ := hallows
    obtain ⟨granted, hgranted⟩ := allowsOrigin_eq_true_iff.1 horigin
    have henforce : c.enforce r response =
        (.proceed, writeHeaders response (c.grantHeaders granted)) := by
      simp [enforce, h, hr, hmethod, addHeaders?, hgranted]
    rw [henforce]
    exact .of_headers hbare (by simp [hr]) (by simp [hr]) rfl hgranted (find?_grantHeaders ..)
      credentials_notMem_grantHeaders

theorem enforce_refused (h : r.header? "origin" = some origin) (hallows : ¬c.Allows r origin) :
    (c.enforce r response).1 ≠ .proceed ∧ (c.enforce r response).2 = response.refused := by
  cases hr : r.isPreflight with
  | true =>
    rw [Allows, if_pos hr] at hallows
    refine ⟨enforce_preflight_ne_proceed hr h, ?_⟩
    rw [enforce_of_preflight hr h]
    cases hcheck : c.checkPreflight r with
    | error e => rfl
    | ok granted => exact absurd ((checkPreflight_eq_ok_iff hr h).1 hcheck).2 hallows
  | false =>
    rw [Allows, hr, if_neg Bool.false_ne_true] at hallows
    refine ⟨fun hproceed => ?_, ?_⟩
    · obtain ⟨horigin, hmethod⟩ := (enforce_proceeds_iff hr h).1 hproceed
      exact hallows ⟨hmethod, horigin⟩
    · cases hmethod : c.allowsMethod r.method with
      | false => simp [enforce, h, hr, hmethod]
      | true =>
        have hnone : c.grantedOrigin? origin = none := by
          rw [hmethod] at hallows
          simpa [allowsOrigin] using hallows
        simp [enforce, h, hr, hmethod, addHeaders?, hnone]

/-- How the metadata decide on a request, and what they make of the response. -/
structure Decision (c : CorsConfig) (r : Request D) (before : Response) (proceeds : Bool)
    (after : Response) : Prop where
  without_origin : r.header? "origin" = none → proceeds = true ∧ after = before
  preflight : r.isPreflight = true → proceeds = false ∧
    (after.status = 200 ↔ ∃ origin, r.header? "origin" = some origin ∧ c.AllowsProbe r origin)
  actual : r.isPreflight = false → ∀ origin, r.header? "origin" = some origin →
    (proceeds = true ↔ c.allowsMethod r.method = true ∧ c.allowsOrigin origin = true)
  refused : ∀ origin, r.header? "origin" = some origin → ¬c.Allows r origin →
    proceeds = false ∧ after.status = 403 ∧ after.headers = before.headers
  granted : ∀ origin, r.header? "origin" = some origin → c.Allows r origin →
    c.Granted r origin proceeds after

theorem enforce_decision (hbare : response.Bare) :
    c.Decision r response ((c.enforce r response).1 = .proceed) (c.enforce r response).2 where
  without_origin := by
    intro hnone
    simp [enforce, hnone]
  preflight := by
    intro hr
    -- a preflight has an origin, so this case and `without_origin` do not meet
    obtain ⟨-, ⟨origin, horigin⟩, -⟩ := (Request.isPreflight_iff r).1 hr
    refine ⟨decide_eq_false (enforce_preflight_ne_proceed hr horigin), ?_⟩
    rw [enforce_preflight_status_iff hr horigin, horigin]
    simp
  actual := by
    intro hr origin horigin
    rw [decide_eq_true_iff, enforce_proceeds_iff hr horigin, and_comm]
  refused := by
    intro origin horigin hallows
    obtain ⟨hstops, hresponse⟩ : (c.enforce r response).1 ≠ .proceed ∧
        (c.enforce r response).2 = response.refused := enforce_refused horigin hallows
    rw [hresponse]
    exact ⟨decide_eq_false hstops, rfl, rfl⟩
  granted := fun origin horigin hallows => enforce_granted hbare horigin hallows

end CorsConfig

/-- On a response without headers of access control, the interceptor decides as its metadata say,
and leaves the request alone. -/
theorem Interceptor.cors_decides (c : CorsConfig) (h : HandlerMethod) (x : Exchange D)
    (hbare : x.response.Bare) :
    ∃ proceeds, (((cors c).before h).run x).1 = .ok proceeds ∧
      (((cors c).before h).run x).2.request = x.request ∧
      c.Decision x.request x.response proceeds (((cors c).before h).run x).2.response := by
  obtain ⟨hanswer, hresponse⟩ := Interceptor.run_before_cors c h x
  refine ⟨_, hanswer, rfl, ?_⟩
  rw [hresponse]
  exact CorsConfig.enforce_decision hbare

/-! ### One origin with credentials -/

def basketCors : CorsConfig :=
  { (CorsConfig.strict.allowOrigin "https://shop.test").allowHeader "X-Cart" with
    credentials := true }

def basketExchange (origin : String) : Exchange Unit :=
  { request := { method := "GET", target := "/basket", headers := [("origin", origin)] }
    response := { headers := [("Content-Type", "text/plain")] } }

def basketProbe (method names : String) : Exchange Unit :=
  { request :=
      { method := "OPTIONS"
        target := "/basket"
        headers := [("origin", "https://shop.test"), ("access-control-request-method", method),
          ("access-control-request-headers", names)] }
    response := { headers := [("Content-Type", "text/plain")] } }

def basketHandler : HandlerMethod := ⟨.bean "basket", ⟨"Basket", "show", []⟩, none⟩

theorem basketProbe_isPreflight (method names : String) :
    (basketProbe method names).request.isPreflight = true := by
  have hmethod : Text.sameIgnoringAsciiCase "OPTIONS" "OPTIONS" = true := by decide +kernel
  simp [basketProbe, Request.isPreflight, hmethod, Assoc.contains, Assoc.find?]

theorem basketProbe_header? (method names : String) :
    (basketProbe method names).request.header? "origin" = some "https://shop.test" ∧
    (basketProbe method names).request.header? "access-control-request-method" = some method ∧
    (basketProbe method names).request.header? "access-control-request-headers" = some names := by
  have hname : Text.toLower "access-control-request-headers" = "access-control-request-headers" := by
    decide +kernel
  rw [Request.header?_origin, Request.header?_requestedMethod, Request.header?, hname]
  exact ⟨rfl, rfl, rfl⟩

/-- White space, empty names and case make no difference to what is asked for. -/
theorem basketProbe_allowed :
    basketCors.Allows (basketProbe "GET" "x-cart, , X-Cart").request "https://shop.test" := by
  obtain ⟨-, hmethod, hnames⟩ := basketProbe_header? "GET" "x-cart, , X-Cart"
  rw [CorsConfig.Allows, if_pos (basketProbe_isPreflight _ _)]
  refine ⟨by decide +kernel, ⟨"GET", hmethod, by decide +kernel⟩, fun names h => ?_⟩
  obtain rfl := Option.some.inj (hnames.symm.trans h)
  decide +kernel

theorem basketProbe_forbidden :
    ¬basketCors.Allows (basketProbe "GET" "x-cart, x-debug").request "https://shop.test" := by
  obtain ⟨-, -, hnames⟩ := basketProbe_header? "GET" "x-cart, x-debug"
  rw [CorsConfig.Allows, if_pos (basketProbe_isPreflight _ _)]
  intro hprobe
  exact absurd (hprobe.headers _ hnames) (by decide +kernel)

/-- The origin that is listed is granted, and another one gets no header. The listed one may ask for
the listed header and for no other. -/
theorem basket_decided :
    let mine := basketExchange "https://shop.test/"
    let other := basketExchange "https://shop.test.example"
    let asking := basketProbe "GET" "x-cart, , X-Cart"
    let prying := basketProbe "GET" "x-cart, x-debug"
    mine.response.Bare ∧ other.response.Bare ∧ asking.response.Bare ∧ prying.response.Bare ∧
    (((Interceptor.cors basketCors).before basketHandler).run mine).1 = .ok true ∧
    basketCors.Granted mine.request "https://shop.test/" true
      (((Interceptor.cors basketCors).before basketHandler).run mine).2.response ∧
    (((Interceptor.cors basketCors).before basketHandler).run other).1 = .ok false ∧
    (((Interceptor.cors basketCors).before basketHandler).run other).2.response.headers =
      [("Content-Type", "text/plain")] ∧
    (((Interceptor.cors basketCors).before basketHandler).run asking).1 = .ok false ∧
    (((Interceptor.cors basketCors).before basketHandler).run asking).2.response.status = 200 ∧
    (((Interceptor.cors basketCors).before basketHandler).run prying).1 = .ok false ∧
    (((Interceptor.cors basketCors).before basketHandler).run prying).2.response.status = 403 ∧
    (((Interceptor.cors basketCors).before basketHandler).run prying).2.response.headers =
      [("Content-Type", "text/plain")] := by
  intro mine other asking prying
  have hbare : ({ headers := [("Content-Type", "text/plain")] } : Response).Bare := by
    intro header hin
    rw [List.mem_singleton.1 hin]
    decide +kernel
  have hplain : ∀ origin, (basketExchange origin).request.isPreflight = false := by
    intro origin
    have hmethod : Text.sameIgnoringAsciiCase "GET" "OPTIONS" = false := by decide +kernel
    simp [basketExchange, Request.isPreflight, hmethod]
  have horigin : ∀ origin, (basketExchange origin).request.header? "origin" = some origin := by
    intro origin
    rw [Request.header?_origin]
    rfl
  have hallows : basketCors.Allows mine.request "https://shop.test/" := by
    rw [CorsConfig.Allows, hplain, if_neg Bool.false_ne_true]
    decide +kernel
  have hrefuses : ¬basketCors.Allows other.request "https://shop.test.example" := by
    rw [CorsConfig.Allows, hplain, if_neg Bool.false_ne_true]
    decide +kernel
  obtain ⟨proceeds, hmine, -, hdecision⟩ :=
    Interceptor.cors_decides basketCors basketHandler mine hbare
  obtain ⟨proceeds', hother, -, hdecision'⟩ :=
    Interceptor.cors_decides basketCors basketHandler other hbare
  obtain ⟨answered, hasking, -, hanswer⟩ :=
    Interceptor.cors_decides basketCors basketHandler asking hbare
  obtain ⟨refused, hprying, -, hrefusal⟩ :=
    Interceptor.cors_decides basketCors basketHandler prying hbare
  have hgranted := hdecision.granted _ (horigin _) hallows
  obtain ⟨hstops, -, hheaders⟩ := hdecision'.refused _ (horigin _) hrefuses
  have hasked := hanswer.granted _ (basketProbe_header? _ _).1 basketProbe_allowed
  obtain ⟨hprobe, -⟩ := hanswer.preflight (basketProbe_isPreflight _ _)
  obtain ⟨hstopped, hstatus, hunchanged⟩ :=
    hrefusal.refused _ (basketProbe_header? _ _).1 basketProbe_forbidden
  have hproceeds : proceeds = true := hgranted.proceeds.trans (by rw [hplain]; rfl)
  subst hproceeds hstops hprobe hstopped
  exact ⟨hbare, hbare, hbare, hbare, hmine, hgranted, hother, hheaders, hasking,
    hasked.status (basketProbe_isPreflight _ _), hprying, hstatus, hunchanged⟩

end RequestDispatch
