import Mathlib.Data.List.TakeWhile
import RequestDispatch.Chain.Interceptor
import RequestDispatch.Proofs.Cors.Combination

/-! # Enforced CORS metadata

A preflight request is answered with status 200 exactly if its origin, the method and all headers
that it asks for are allowed. Any other request with an origin proceeds exactly if its origin and
its method are allowed. So without requested headers both turn on the same two checks. -/
namespace RequestDispatch

variable {D : Type}

/-! ### Headers of requests and responses -/

theorem Request.header?_origin (r : Request D) :
    r.header? "origin" = Assoc.find? r.headers "origin" := by
  have hname : Text.toLower "origin" = "origin" := by decide +kernel
  rw [header?, hname]

theorem Request.header?_requestedMethod (r : Request D) :
    r.header? "access-control-request-method" =
      Assoc.find? r.headers "access-control-request-method" := by
  have hname : Text.toLower "access-control-request-method" = "access-control-request-method" := by
    decide +kernel
  rw [header?, hname]

theorem Request.isPreflight_iff (r : Request D) :
    r.isPreflight = true ↔ Text.sameIgnoringAsciiCase r.method "OPTIONS" = true ∧
      (∃ origin, r.header? "origin" = some origin) ∧
      ∃ method, r.header? "access-control-request-method" = some method := by
  rw [header?_origin, header?_requestedMethod]
  simp only [isPreflight, Assoc.contains, Bool.and_eq_true, Option.isSome_iff_exists, and_assoc]

theorem withoutEndSlashes_ne_empty {origin : String} (h : ∃ ch ∈ origin.toList, ch ≠ '/') :
    withoutEndSlashes origin ≠ "" := by
  obtain ⟨ch, hin, hne⟩ := h
  intro hempty
  have hnil : Text.dropEndWhile (· = '/') origin.toList = [] := by
    have := congrArg String.toList hempty
    simpa [withoutEndSlashes] using this
  have hdrop : origin.toList.reverse.dropWhile (fun c => decide (c = '/')) = [] := by
    simpa [Text.dropEndWhile] using hnil
  have hslash := List.dropWhile_eq_nil_iff.1 hdrop ch (List.mem_reverse.2 hin)
  exact hne (by simpa using hslash)

namespace CorsConfig

theorem find?_writeHeaders_of_notMem (response : Response) {headers : List (String × String)}
    {name : String} (h : name ∉ headers.map Prod.fst) :
    Assoc.find? (writeHeaders response headers).headers name =
      Assoc.find? response.headers name := by
  induction headers generalizing response with
  | nil => rfl
  | cons header rest ih =>
    obtain ⟨other, value⟩ := header
    rw [List.map_cons, List.mem_cons, not_or] at h
    obtain ⟨hne, hrest⟩ := h
    have ih' := ih (response.setHeader other value) hrest
    rw [writeHeaders, List.foldl_cons, ← writeHeaders, ih']
    exact Assoc.find?_put_of_ne _ _ hne

theorem find?_writeHeaders_append_cons (response : Response) (front : List (String × String))
    {back : List (String × String)} {name : String} (value : String) (h : name ∉ back.map Prod.fst) :
    Assoc.find? (writeHeaders response (front ++ (name, value) :: back)).headers name =
      some value := by
  rw [writeHeaders, List.foldl_append, List.foldl_cons, ← writeHeaders,
    find?_writeHeaders_of_notMem _ h]
  exact Assoc.find?_put_self ..

/-! ### Preflight requests -/

variable {c : CorsConfig} {r : Request D} {response : Response} {origin : String}

/-- The headers asked for are the pieces between the commas of one header, less the white space
around them, unless nothing else is left. -/
theorem forall_requestedHeaders_iff {p : String → Prop} :
    (∀ header ∈ requestedHeaders r, p header) ↔
      ∀ names, r.header? "access-control-request-headers" = some names →
        ∀ piece ∈ Text.splitText ',' names, Text.trimText piece ≠ "" → p (Text.trimText piece) := by
  unfold requestedHeaders
  cases r.header? "access-control-request-headers" with
  | none => simp
  | some names => simp [List.mem_filter]

theorem requestedMethod_of_header? {method : String}
    (h : r.header? "access-control-request-method" = some method) : requestedMethod r = method := by
  rw [requestedMethod, h, Option.getD_some]

theorem allowsOrigin_eq_true_iff :
    c.allowsOrigin origin = true ↔ ∃ granted, c.grantedOrigin? origin = some granted :=
  Option.isSome_iff_exists

/-- What a preflight request asks for is allowed: its origin, the method that it names, and every
header named in its list, where white space around a name and empty names do not count. -/
structure AllowsProbe (c : CorsConfig) (r : Request D) (origin : String) : Prop where
  origin : c.allowsOrigin origin = true
  method : ∃ method, r.header? "access-control-request-method" = some method ∧
    c.allowsMethod method = true
  headers : ∀ names, r.header? "access-control-request-headers" = some names →
    ∀ piece ∈ Text.splitText ',' names, Text.trimText piece ≠ "" →
      c.allowsHeader (Text.trimText piece) = true

theorem AllowsProbe.requestedMethod (h : c.AllowsProbe r origin) :
    c.allowsMethod (requestedMethod r) = true := by
  obtain ⟨method, hmethod, hallowed⟩ := h.method
  rwa [requestedMethod_of_header? hmethod]

theorem AllowsProbe.requestedHeaders (h : c.AllowsProbe r origin) :
    ∀ header ∈ requestedHeaders r, c.allowsHeader header = true :=
  forall_requestedHeaders_iff (p := fun header => c.allowsHeader header = true) |>.2 h.headers

theorem checkPreflight_eq_ok_iff (hr : r.isPreflight = true) (h : r.header? "origin" = some origin)
    {granted : String} :
    c.checkPreflight r = .ok granted ↔
      c.grantedOrigin? origin = some granted ∧ c.AllowsProbe r origin := by
  obtain ⟨-, -, method, hasked⟩ := (Request.isPreflight_iff r).1 hr
  unfold checkPreflight
  rw [h]
  dsimp only
  cases hgranted : c.grantedOrigin? origin with
  | none => simp
  | some granted' =>
    have horigin : c.allowsOrigin origin = true := allowsOrigin_eq_true_iff.2 ⟨_, hgranted⟩
    cases hmethod : c.allowsMethod (requestedMethod r) with
    | false =>
      simp only [Bool.not_false, if_true, reduceCtorEq, false_iff, not_and]
      intro _ hprobe
      exact absurd hprobe.requestedMethod (by simp [hmethod])
    | true =>
      cases hfind : (requestedHeaders r).find? (!c.allowsHeader ·) with
      | some header =>
        have hrefused := List.find?_some hfind
        have hin := List.mem_of_find?_eq_some hfind
        simp only [Bool.not_true, Bool.false_eq_true, if_false, reduceCtorEq, false_iff, not_and]
        intro _ hprobe
        simp [hprobe.requestedHeaders header hin] at hrefused
      | none =>
        have hheaders : ∀ header ∈ requestedHeaders r, c.allowsHeader header = true := by
          intro header hin
          simpa using List.find?_eq_none.1 hfind header hin
        simp only [Bool.not_true, Bool.false_eq_true, if_false, Except.ok.injEq, Option.some.injEq]
        rw [requestedMethod_of_header? hasked] at hmethod
        exact ⟨fun he => ⟨he, horigin, ⟨method, hasked, hmethod⟩,
          forall_requestedHeaders_iff.1 hheaders⟩, And.left⟩

theorem find?_preflightHeaders (c : CorsConfig) (r : Request D) (response : Response)
    (granted : String) :
    Assoc.find? (writeHeaders response (c.preflightHeaders r granted)).headers
      "Access-Control-Allow-Origin" = some granted := by
  unfold preflightHeaders
  rw [List.append_assoc, List.append_assoc, List.cons_append]
  refine find?_writeHeaders_append_cons response [] granted ?_
  intro hin
  simp only [List.map_append, List.mem_append, apply_ite (List.map Prod.fst)] at hin
  rcases hin with hin | hin | hin | hin
  · simp at hin
  · split at hin <;> simp at hin
  · split at hin <;> simp at hin
  · cases hage : c.maxAge with
    | none => simp [hage] at hin
    | some seconds => simp [hage] at hin

/-- With credentials the origin is granted as it is. -/
theorem grantedOrigin?_of_credentials (hc : c.credentials = true)
    (h : c.allowsOrigin origin = true) :
    c.grantedOrigin? origin = some (withoutEndSlashes origin) := by
  obtain ⟨granted, hgranted⟩ := allowsOrigin_eq_true_iff.1 h
  have hsame := hgranted
  unfold grantedOrigin? at hsame
  dsimp only at hsame
  rw [hc, if_pos rfl] at hsame
  rw [hgranted]
  split at hsame
  · cases hsame
  · split at hsame
    · exact hsame.symm
    · split at hsame
      · exact hsame.symm
      · cases hsame

theorem enforce_of_preflight (hr : r.isPreflight = true) (h : r.header? "origin" = some origin) :
    c.enforce r response =
      match c.checkPreflight r with
      | .error e => (.refused e.message, response.refused)
      | .ok granted => (.answered origin,
          { writeHeaders response (c.preflightHeaders r granted) with status := 200 }) := by
  unfold enforce
  rw [h]
  dsimp only
  rw [if_pos hr, handlePreflight]
  cases c.checkPreflight r <;> rfl

/-- A preflight request never proceeds, and gets status 200 if all that it asks for is allowed. -/
theorem enforce_preflight_status_iff (hr : r.isPreflight = true)
    (h : r.header? "origin" = some origin) :
    (c.enforce r response).2.status = 200 ↔ c.AllowsProbe r origin := by
  rw [enforce_of_preflight hr h]
  constructor
  · intro hstatus
    cases hcheck : c.checkPreflight r with
    | error e =>
      rw [hcheck] at hstatus
      cases hstatus
    | ok granted => exact ((checkPreflight_eq_ok_iff hr h).1 hcheck).2
  · intro hprobe
    obtain ⟨granted, hgranted⟩ := allowsOrigin_eq_true_iff.1 hprobe.origin
    rw [(checkPreflight_eq_ok_iff hr h).2 ⟨hgranted, hprobe⟩]

theorem enforce_preflight_ne_proceed (hr : r.isPreflight = true)
    (h : r.header? "origin" = some origin) : (c.enforce r response).1 ≠ .proceed := by
  rw [enforce_of_preflight hr h]
  cases c.checkPreflight r <;> simp

/-! ### Other requests -/

theorem enforce_proceeds_iff (hr : r.isPreflight = false) (h : r.header? "origin" = some origin) :
    (c.enforce r response).1 = .proceed ↔
      c.allowsOrigin origin = true ∧ c.allowsMethod r.method = true := by
  unfold enforce
  rw [h]
  dsimp only
  rw [hr, if_neg Bool.false_ne_true, allowsOrigin, addHeaders?]
  cases c.allowsMethod r.method with
  | false => simp
  | true => cases c.grantedOrigin? origin <;> simp

end CorsConfig

/-! ### The interceptor -/

/-- The interceptor enforces its metadata on the exchange, and lets it go on if these say so. -/
theorem Interceptor.run_before_cors (c : CorsConfig) (h : HandlerMethod) (x : Exchange D) :
    (((cors c).before h).run x).1 = .ok ((c.enforce x.request x.response).1 = .proceed) ∧
      (((cors c).before h).run x).2.response = (c.enforce x.request x.response).2 :=
  ⟨rfl, rfl⟩

end RequestDispatch
