import RequestDispatch.Mapping.Fallback
import RequestDispatch.Proofs.Mapping.Probe

/-! # Where the bean of a chain comes from

The handler method of a chain is that of the winner, the preflight handler, what the strategy has
for paths that nothing matches, or the default handler. The first and the third pass through the
containers, so their beans are at hand, and the second is an object anyway. The default handler is
taken as it was configured. -/
namespace RequestDispatch

namespace HandlerMethod

variable {c : Containers} {h h' : HandlerMethod}

theorem isDeferred_eq_false_iff : h.isDeferred = false ↔ ∃ b, h.source = .object b := by
  unfold isDeferred
  cases h.source <;> simp

theorem resolve_eq_ok (hr : (h.resolve c).1 = .ok h') :
    h = h' ∧ h.isDeferred = false ∨
      ∃ name b, h.source = .bean name ∧ (c.bean 0 name).1 = .ok b ∧
        h' = ⟨.object b, h.method, some name⟩ := by
  unfold resolve at hr
  cases hsource : h.source with
  | object b =>
    rw [hsource] at hr
    exact .inl ⟨Except.ok.inj hr, isDeferred_eq_false_iff.2 ⟨b, hsource⟩⟩
  | bean name =>
    rw [hsource] at hr
    dsimp only at hr
    cases hb : c.bean 0 name with
    | mk found c' =>
      rw [hb] at hr
      cases found with
      | error e => cases hr
      | ok b => exact .inr ⟨name, b, rfl, by rw [hb], (Except.ok.inj hr).symm⟩

theorem isDeferred_of_resolve (hr : (h.resolve c).1 = .ok h') : h'.isDeferred = false := by
  rcases resolve_eq_ok hr with ⟨rfl, hdirect⟩ | ⟨name, b, -, -, rfl⟩
  · exact hdirect
  · rfl

end HandlerMethod

namespace HandlerMapping

variable {D : Type} [DecidableEq D] {m : HandlerMapping D} {c : Containers} {r : Request D}
  {h h' : HandlerMethod}

/-! ### Four sources -/

/-- How the mapping, with any strategy, comes by the handler method for a request. -/
inductive Supplies (m : HandlerMapping D) (c : Containers) (r : Request D) :
    HandlerMethod → Prop where
  | winner {f : Match D} {h : HandlerMethod}
      (selected : m.select (r.pathForLookup m.options.decode) (m.noted r) = .best f)
      (resolved : (f.binding.handler.resolve c).1 = .ok h) : Supplies m c r h
  | sentinel (selected : m.select (r.pathForLookup m.options.decode) (m.noted r) = .preflight) :
      Supplies m c r .preflight
  | fallback {h h' : HandlerMethod}
      (selected : m.select (r.pathForLookup m.options.decode) (m.noted r) = .nothing)
      (answered : m.strategy.onNoMatch m.registry (r.pathForLookup m.options.decode) (m.noted r) =
        .ok (some h))
      (resolved : (h.resolve c).1 = .ok h') : Supplies m c r h'
  | default {h : HandlerMethod}
      (selected : m.select (r.pathForLookup m.options.decode) (m.noted r) = .nothing)
      (unanswered : m.strategy.onNoMatch m.registry (r.pathForLookup m.options.decode) (m.noted r) =
        .ok none)
      (configured : m.defaultHandler? = some h) : Supplies m c r h

theorem resolved_eq_none_iff {answer : Except DispatchError (Option HandlerMethod)} :
    resolved c answer = .ok none ↔ answer = .ok none := by
  match answer with
  | .error e => simp [resolved]
  | .ok none => simp [resolved]
  | .ok (some h) => simp [resolved_some_ne_none c h]

/-- Nothing is found exactly if no binding matches and the strategy has nothing to offer. -/
theorem findHandler_eq_none_iff :
    (m.findHandler c r).result = .ok none ↔
      m.select (r.pathForLookup m.options.decode) (m.noted r) = .nothing ∧
        m.strategy.onNoMatch m.registry (r.pathForLookup m.options.decode) (m.noted r) =
          .ok none := by
  rw [findHandler_noted, resolved_eq_none_iff, lookup]
  cases m.select (r.pathForLookup m.options.decode) (m.noted r) <;> simp

theorem supplies_of_findHandler (hfound : (m.findHandler c r).result = .ok (some h)) :
    Supplies m c r h := by
  rw [findHandler_noted, lookup] at hfound
  cases hselect : m.select (r.pathForLookup m.options.decode) (m.noted r) with
  | nothing =>
    rw [hselect] at hfound
    dsimp only at hfound
    cases hanswer : m.strategy.onNoMatch m.registry (r.pathForLookup m.options.decode)
      (m.noted r) with
    | error e =>
      rw [hanswer] at hfound
      cases hfound
    | ok answer =>
      rw [hanswer] at hfound
      cases answer with
      | none => cases hfound
      | some h' => exact .fallback hselect hanswer (resolved_some_eq_ok_iff.1 hfound)
  | preflight =>
    rw [hselect] at hfound
    cases hfound
    exact .sentinel hselect
  | ambiguous first second =>
    rw [hselect] at hfound
    cases hfound
  | best f =>
    rw [hselect] at hfound
    exact .winner hselect (resolved_some_eq_ok_iff.1 hfound)

theorem getHandler_eq_some {chain : Chain D}
    (hchain : (m.getHandler c r).result = .ok (some chain)) :
    (m.findHandler c r).result = .ok (some chain.handler) ∨
      (m.findHandler c r).result = .ok none ∧ m.defaultHandler? = some chain.handler := by
  rw [getHandler_result] at hchain
  cases hfound : (m.findHandler c r).result with
  | error e =>
    rw [hfound] at hchain
    cases hchain
  | ok h? =>
    rw [hfound] at hchain
    cases h? with
    | some h =>
      rw [(chainFor_eq_ok (map_some_eq_ok hchain)).1]
      exact .inl rfl
    | none =>
      dsimp only [Option.none_or] at hchain
      cases hdefault : m.defaultHandler? with
      | none =>
        rw [hdefault] at hchain
        cases hchain
      | some h =>
        rw [hdefault] at hchain
        rw [(chainFor_eq_ok (map_some_eq_ok hchain)).1]
        exact .inr ⟨rfl, rfl⟩

theorem supplies_of_getHandler {chain : Chain D}
    (hchain : (m.getHandler c r).result = .ok (some chain)) : Supplies m c r chain.handler := by
  rcases getHandler_eq_some hchain with hfound | ⟨hnone, hdefault⟩
  · exact supplies_of_findHandler hfound
  · obtain ⟨selected, unanswered⟩ := findHandler_eq_none_iff.1 hnone
    exact .default selected unanswered hdefault

/-! ### Beans at hand -/

/-- What is found has its bean at hand, whichever of the three sources it is from. -/
theorem isDeferred_of_findHandler (hfound : (m.findHandler c r).result = .ok (some h)) :
    h.isDeferred = false := by
  cases supplies_of_findHandler hfound with
  | winner _ resolved => exact HandlerMethod.isDeferred_of_resolve resolved
  | sentinel _ => rfl
  | fallback _ _ resolved => exact HandlerMethod.isDeferred_of_resolve resolved
  | default selected unanswered _ =>
    rw [findHandler_eq_none_iff.2 ⟨selected, unanswered⟩] at hfound
    cases hfound

structure Supplied (m : HandlerMapping D) (c : Containers) (r : Request D) (h : HandlerMethod) :
    Prop where
  source : Supplies m c r h
  /-- The default handler is taken as it was configured. -/
  of_default : (m.findHandler c r).result = .ok none → m.defaultHandler? = some h
  bean_iff : (∃ b, h.source = .object b) ↔
    ((m.findHandler c r).result = .ok none →
      ∀ default, m.defaultHandler? = some default → ∃ b, default.source = .object b)

/-- The bean of every chain is at hand, except where nothing is found for the request and the
default handler was configured by the name of a bean. -/
theorem chain_bean_unless_named_default {chain : Chain D}
    (hchain : (m.getHandler c r).result = .ok (some chain)) : Supplied m c r chain.handler := by
  refine ⟨supplies_of_getHandler hchain, ?_, ?_⟩
  · intro hnone
    rcases getHandler_eq_some hchain with hfound | ⟨-, hdefault⟩
    · rw [hnone] at hfound
      cases hfound
    · exact hdefault
  · rcases getHandler_eq_some hchain with hfound | ⟨hnone, hdefault⟩
    · have hbean := HandlerMethod.isDeferred_eq_false_iff.1 (isDeferred_of_findHandler hfound)
      refine iff_of_true hbean ?_
      intro hnone
      rw [hfound] at hnone
      cases hnone
    · constructor
      · intro hbean _ default hconfigured
        cases hdefault.symm.trans hconfigured
        exact hbean
      · intro hconfigured
        exact hconfigured hnone _ hdefault

/-! ### A page for missing paths -/

def missingPage : HandlerMethod := ⟨.bean "errors", ⟨"Errors", "missing", []⟩, none⟩

def errorBeans : Containers :=
  Containers.single.declare 0 ⟨"errors", .ready ⟨"Errors", [missingPage.method]⟩ "errors"⟩

def missingByStrategy : HandlerMapping RouteMapping :=
  { strategy := Fallback.install { handled? := some ("/", missingPage) } (RouteTable.strategy [])
    state := .ready }

def missingByDefault : HandlerMapping RouteMapping :=
  { strategy := RouteTable.strategy []
    defaultHandler? := some missingPage
    state := .ready }

def nowhere : Request RouteMapping := { method := "GET", target := "/nowhere" }

omit [DecidableEq D] in
theorem chainFor_bare (hglobal : m.globalCors = []) (hcors : m.registry.cors = [])
    (hinterceptors : m.interceptors = []) (hsentinel : h.isPreflight = false) (r : Request D) :
    m.chainFor h r = .ok ⟨h, []⟩ := by
  have hnone : m.corsFor? h r = none := by
    simp [corsFor?, globalCorsFor?, handlerCors?, Registry.corsOf?, hglobal, hcors, hsentinel]
  rw [chainFor_eq, hnone, ownInterceptors, hinterceptors]
  rfl

theorem getHandler_missingByStrategy :
    (missingByStrategy.getHandler errorBeans nowhere).result =
      .ok (some ⟨⟨.object (.created 0 "errors"), missingPage.method, some "errors"⟩, []⟩) := by
  have hpath : nowhere.pathForLookup true = "/nowhere" := by decide +kernel
  have hanswer : missingByStrategy.strategy.onNoMatch missingByStrategy.registry "/nowhere"
      (missingByStrategy.noted nowhere) = .ok (some missingPage) := by decide +kernel
  have hfound : (missingByStrategy.findHandler errorBeans nowhere).result =
      .ok (some ⟨.object (.created 0 "errors"), missingPage.method, some "errors"⟩) := by
    rw [findHandler_noted, lookup, select_of_empty rfl]
    change resolved errorBeans (missingByStrategy.strategy.onNoMatch
      missingByStrategy.registry (nowhere.pathForLookup true) (missingByStrategy.noted nowhere)) = _
    rw [hpath, hanswer]
    decide +kernel
  rw [getHandler_result, hfound]
  dsimp only [Option.some_or]
  rw [chainFor_bare rfl rfl rfl (by decide +kernel)]
  rfl

theorem getHandler_missingByDefault :
    (missingByDefault.getHandler errorBeans nowhere).result = .ok (some ⟨missingPage, []⟩) := by
  have hfound : (missingByDefault.findHandler errorBeans nowhere).result = .ok none := by
    rw [findHandler_noted, lookup, select_of_empty rfl]
    rfl
  have hdefault : missingByDefault.defaultHandler? = some missingPage := rfl
  rw [getHandler_result, hfound, hdefault]
  dsimp only [Option.none_or]
  rw [chainFor_bare rfl rfl rfl (by decide +kernel)]
  rfl

theorem missing_page_supplied :
    (missingByStrategy.getHandler errorBeans nowhere).result =
      .ok (some ⟨⟨.object (.created 0 "errors"), missingPage.method, some "errors"⟩, []⟩) ∧
    Supplied missingByStrategy errorBeans nowhere
      ⟨.object (.created 0 "errors"), missingPage.method, some "errors"⟩ :=
  ⟨getHandler_missingByStrategy, chain_bean_unless_named_default getHandler_missingByStrategy⟩

/-- As the default handler, the same page is handed out without its bean, which the containers
have. -/
theorem missing_page_by_default_deferred :
    missingByDefault.state = .ready ∧
    (missingByDefault.getHandler errorBeans nowhere).result = .ok (some ⟨missingPage, []⟩) ∧
    missingPage.isDeferred = true ∧
    (errorBeans.bean 0 "errors").1 = .ok (.created 0 "errors") :=
  ⟨rfl, getHandler_missingByDefault, rfl, by decide +kernel⟩

end HandlerMapping

end RequestDispatch
