import RequestDispatch.Mapping.UrlMapping
import RequestDispatch.Proofs.Handler.Asking
import RequestDispatch.Proofs.Mapping.Chains

/-! # Beans are created for winners

A mapping is started, and a request is looked up, with questions to the containers. Starting asks
for names and types only. A lookup asks nothing until it has settled on a handler method, and then
at most for the bean that this one names, however many others matched. -/
namespace RequestDispatch

open Asking (question)

namespace HandlerMapping

variable {D : Type} [DecidableEq D]

/-! ### The inquiries of a start -/

def considering (m : HandlerMapping D) (name : String) (p : Progress D) :
    Asking (Except DispatchError Unit × Progress D) :=
  if Text.startsWithText scopedTarget name then
    return (.ok (), p.emit [.trace "Skipping scoped proxy target" [("bean", .text name)]])
  else do
    match ← question (.typeOf name) with
    | .error e =>
      return (.ok (), p.emit [.trace "Could not resolve type for bean"
        [("bean", .text name), ("error", .text e.message)]])
    | .ok type =>
      if m.strategy.isHandler type then return m.detectInto (.bean name) type p
      else return (.ok (), p)

def consideringAll (m : HandlerMapping D) :
    List String → Progress D → Asking (Except DispatchError Unit × Progress D)
  | [], p => return (.ok (), p)
  | name :: rest, p => do
    match ← m.considering name p with
    | (.error e, p) => return (.error e, p)
    | (.ok _, p) => consideringAll m rest p

def starting (m : HandlerMapping D) :
    Asking (Except DispatchError Unit × HandlerMapping D × List LogEvent) :=
  if m.state ≠ .uninitialized then
    return (.error (.illegalState ("handler method mapping cannot be initialized in state " ++
      m.state.text)), m, [])
  else do
    let names ← question (.names m.options.ancestors)
    match ← m.consideringAll names ⟨m.registry, []⟩ with
    | (.error e, p) => return (.error e, { m with registry := .empty }, p.events)
    | (.ok _, p) =>
      let found := p.registry.handlers
      return (.ok (),
        { m with registry := p.registry, state := .ready, announced := m.announced ++ [found] },
        p.events ++ [.info "Handler method mapping ready"
          [("handler_methods", .number found.length)]])

theorem quiet_considering (m : HandlerMapping D) (name : String) (p : Progress D) :
    (m.considering name p).Quiet := by
  unfold considering
  split
  · exact Asking.quiet_pure _
  · refine (Asking.quiet_question rfl).bind fun type => ?_
    rcases type with e | type
    · exact Asking.quiet_pure _
    · dsimp only
      split <;> exact Asking.quiet_pure _

theorem quiet_consideringAll (m : HandlerMapping D) (names : List String) (p : Progress D) :
    (m.consideringAll names p).Quiet := by
  induction names generalizing p with
  | nil => exact Asking.quiet_pure _
  | cons name rest ih =>
    refine (m.quiet_considering name p).bind fun considered => ?_
    rcases considered with ⟨_ | _, p⟩
    · exact Asking.quiet_pure _
    · exact ih p

theorem quiet_starting (m : HandlerMapping D) : m.starting.Quiet := by
  unfold starting
  split
  · exact Asking.quiet_pure _
  · refine (Asking.quiet_question rfl).bind fun names => ?_
    refine (m.quiet_consideringAll names _).bind fun found => ?_
    rcases found with ⟨_ | _, p⟩
    · exact Asking.quiet_pure _
    · exact Asking.quiet_pure _

theorem value_considering (m : HandlerMapping D) (name : String) (p : Progress D)
    (c : Containers) : ((m.considering name p).run c).value = m.discoverBean c name p := by
  unfold considering discoverBean
  split
  · rfl
  · rw [Asking.run_bind, Asking.run_question]
    dsimp only [Question.answer]
    rcases c.typeOf 0 name with e | type
    · rfl
    · dsimp only
      split <;> rfl

theorem value_consideringAll (m : HandlerMapping D) (names : List String) (p : Progress D)
    (c : Containers) : ((m.consideringAll names p).run c).value = m.discoverFrom c names p := by
  induction names generalizing p with
  | nil => rfl
  | cons name rest ih =>
    rw [consideringAll, discoverFrom, (m.quiet_considering name p).value_bind, value_considering]
    rcases m.discoverBean c name p with ⟨_ | _, p⟩
    · rfl
    · exact ih p

theorem value_starting (m : HandlerMapping D) (c : Containers) :
    (m.starting.run c).value = m.start c := by
  unfold starting start discover
  split
  · rfl
  · rw [(Asking.quiet_question rfl).value_bind, Asking.run_question,
      (m.quiet_consideringAll _ _).value_bind, value_consideringAll]
    dsimp only [Question.answer]
    rcases m.discoverFrom c (c.names 0 m.options.ancestors) ⟨m.registry, []⟩ with ⟨_ | _, p⟩
    · rfl
    · rfl

end HandlerMapping

namespace UrlMapping

def owning (name : String) : Asking (String × List LogEvent) := do
  match ← question (.typeOf name) with
  | .ok type => return (type.name, [])
  | .error e => return (name, [.trace "Using bean name as handler type"
      [("bean", .text name), ("error", .text e.message)]])

def detecting (resolve : UrlResolver) :
    List String → Step → Asking (Except DispatchError Unit × Step)
  | [], s => return (.ok (), s)
  | name :: rest, s =>
    match resolve name with
    | [] => detecting resolve rest s
    | urls => do
      let (owner, events) ← owning name
      match registerUrls name owner urls { s with events := s.events ++ events } with
      | (.error e, s) => return (.error e, s)
      | (.ok _, s) => detecting resolve rest s

def starting (resolve : UrlResolver) (m : HandlerMapping String) :
    Asking (Except DispatchError Unit × HandlerMapping String × List LogEvent) := do
  match ← m.starting with
  | (.error e, m, events) => return (.error e, m, events)
  | (.ok _, m, events) =>
    let names ← question (.names m.options.ancestors)
    match ← detecting resolve names ⟨m, events⟩ with
    | (.error e, s) => return (.error e, s.mapping, s.events)
    | (.ok _, s) =>
      return (.ok (), s.mapping, s.events ++ [.debug "Detected URL handlers"
        [("urls", .number s.mapping.registry.bindings.length)]])

theorem quiet_owning (name : String) : (owning name).Quiet := by
  refine (Asking.quiet_question rfl).bind fun type => ?_
  rcases type with e | type
  · exact Asking.quiet_pure _
  · exact Asking.quiet_pure _

theorem quiet_detecting (resolve : UrlResolver) (names : List String) (s : Step) :
    (detecting resolve names s).Quiet := by
  induction names generalizing s with
  | nil => exact Asking.quiet_pure _
  | cons name rest ih =>
    rw [detecting]
    split
    · exact ih s
    · refine (quiet_owning name).bind fun owned => ?_
      dsimp only
      split
      · exact Asking.quiet_pure _
      · exact ih _

theorem quiet_starting (resolve : UrlResolver) (m : HandlerMapping String) :
    (starting resolve m).Quiet := by
  refine m.quiet_starting.bind fun started => ?_
  rcases started with ⟨_ | _, m, events⟩
  · exact Asking.quiet_pure _
  · refine (Asking.quiet_question rfl).bind fun names => ?_
    refine (quiet_detecting resolve names _).bind fun detected => ?_
    rcases detected with ⟨_ | _, s⟩
    · exact Asking.quiet_pure _
    · exact Asking.quiet_pure _

theorem value_owning (name : String) (c : Containers) :
    ((owning name).run c).value = (ownerOf c name, ownerEvents c name) := by
  unfold owning ownerOf ownerEvents
  rw [Asking.run_bind, Asking.run_question]
  dsimp only [Question.answer]
  rcases c.typeOf 0 name with e | type
  · rfl
  · rfl

theorem value_detecting (resolve : UrlResolver) (names : List String) (s : Step)
    (c : Containers) :
    ((detecting resolve names s).run c).value = detectFrom resolve c names s := by
  induction names generalizing s with
  | nil => rfl
  | cons name rest ih =>
    rw [detecting, detectFrom]
    cases resolve name with
    | nil => exact ih s
    | cons url more =>
      dsimp only
      rw [(quiet_owning name).value_bind, value_owning]
      dsimp only
      rcases registerUrls name (ownerOf c name) (url :: more)
        { s with events := s.events ++ ownerEvents c name } with ⟨_ | _, s⟩
      · rfl
      · exact ih s

theorem value_starting (resolve : UrlResolver) (m : HandlerMapping String) (c : Containers) :
    ((starting resolve m).run c).value = start resolve m c := by
  unfold starting start
  rw [m.quiet_starting.value_bind, m.value_starting]
  rcases m.start c with ⟨_ | _, m, events⟩
  · rfl
  · dsimp only
    rw [(Asking.quiet_question rfl).value_bind, Asking.run_question,
      (quiet_detecting resolve _ _).value_bind, value_detecting]
    dsimp only [Question.answer]
    rcases detectFrom resolve c (c.names 0 m.options.ancestors) ⟨m, events⟩ with ⟨_ | _, s⟩
    · rfl
    · rfl

end UrlMapping

namespace HandlerMapping

variable {D : Type} [DecidableEq D]

/-! ### The inquiries of a lookup -/

/-- Looks up the handler method of a request, and asks for its bean. -/
def finding (m : HandlerMapping D) (r : Request D) :
    Asking (Except DispatchError (Option HandlerMethod) × Request D) :=
  match m.lookup (r.pathForLookup m.options.decode) (m.noted r) with
  | (.error e, r) => return (.error e, r)
  | (.ok none, r) => return (.ok none, r)
  | (.ok (some h), r) => do
    let resolved ← h.resolving
    return (resolved.map some, r)

def getting (m : HandlerMapping D) (r : Request D) :
    Asking (Except DispatchError (Option (Chain D)) × Request D) := do
  match ← m.finding r with
  | (.error e, r) => return (.error e, r)
  | (.ok h?, r) =>
    match h?.or m.defaultHandler? with
    | none => return (.ok none, r)
    | some h => return ((m.chainFor h r).map some, r)

def questionsAbout : Except DispatchError (Option HandlerMethod) → List Question
  | .ok (some h) => h.requests
  | _ => []

theorem length_questionsAbout_le (found : Except DispatchError (Option HandlerMethod)) :
    (questionsAbout found).length ≤ 1 := by
  rcases found with e | _ | h
  · exact Nat.zero_le _
  · exact Nat.zero_le _
  · exact h.length_requests_le

theorem lookup_handler (m : HandlerMapping D) (path : String) (r : Request D) :
    (m.lookup path r).1 =
      match m.select path r with
      | .nothing => m.strategy.onNoMatch m.registry path r
      | .preflight => .ok (some .preflight)
      | .ambiguous first second => .error (.ambiguousHandlers r.uri first.text second.text)
      | .best f => .ok (some f.binding.handler) := by
  unfold lookup
  cases m.select path r <;> rfl

theorem run_finding (m : HandlerMapping D) (r : Request D) (c : Containers) :
    (m.finding r).run c = ⟨((m.findHandler c r).result, (m.findHandler c r).request),
      (m.findHandler c r).containers,
      questionsAbout (m.lookup (r.pathForLookup m.options.decode) (m.noted r)).1⟩ := by
  unfold finding findHandler
  dsimp only
  rw [← noted]
  rcases m.lookup _ _ with ⟨e | _ | h, r'⟩
  · rfl
  · rfl
  · dsimp only
    rw [Asking.run_bind, h.run_resolving]
    exact congrArg (Asked.mk _ _) (List.append_nil _)

theorem run_getting (m : HandlerMapping D) (r : Request D) (c : Containers) :
    (m.getting r).run c = ⟨((m.getHandler c r).result, (m.getHandler c r).request),
      (m.getHandler c r).containers,
      questionsAbout (m.lookup (r.pathForLookup m.options.decode) (m.noted r)).1⟩ := by
  rw [getHandler_result, getHandler_request, getHandler_containers]
  unfold getting
  rw [Asking.run_bind, run_finding]
  dsimp only
  rcases (m.findHandler c r).result with e | h?
  · exact congrArg (Asked.mk _ _) (List.append_nil _)
  · dsimp only
    cases h?.or m.defaultHandler? with
    | none => exact congrArg (Asked.mk _ _) (List.append_nil _)
    | some h => exact congrArg (Asked.mk _ _) (List.append_nil _)

structure Sought (m : HandlerMapping D) (r : Request D) (c : Containers) : Prop where
  value : ((m.getting r).run c).value = ((m.getHandler c r).result, (m.getHandler c r).request)
  containers : ((m.getting r).run c).containers = (m.getHandler c r).containers
  at_most_one : ((m.getting r).run c).questions.length ≤ 1
  winner : ∀ f, m.select (r.pathForLookup m.options.decode) (m.noted r) = .best f →
    ((m.getting r).run c).For c f.binding.handler
  fallback : ∀ h, m.select (r.pathForLookup m.options.decode) (m.noted r) = .nothing →
    m.strategy.onNoMatch m.registry (r.pathForLookup m.options.decode) (m.noted r) =
      .ok (some h) →
    ((m.getting r).run c).For c h
  unmatched : m.select (r.pathForLookup m.options.decode) (m.noted r) = .nothing →
    m.strategy.onNoMatch m.registry (r.pathForLookup m.options.decode) (m.noted r) = .ok none →
    ((m.getting r).run c).Silent c
  refused : ∀ e, m.select (r.pathForLookup m.options.decode) (m.noted r) = .nothing →
    m.strategy.onNoMatch m.registry (r.pathForLookup m.options.decode) (m.noted r) = .error e →
    ((m.getting r).run c).Silent c
  ambiguous : ∀ first second,
    m.select (r.pathForLookup m.options.decode) (m.noted r) = .ambiguous first second →
    ((m.getting r).run c).Silent c
  preflight : m.select (r.pathForLookup m.options.decode) (m.noted r) = .preflight →
    ((m.getting r).run c).Silent c

variable {m : HandlerMapping D} {r : Request D} {c : Containers}

theorem getting_for {h : HandlerMethod}
    (hlookup : (m.lookup (r.pathForLookup m.options.decode) (m.noted r)).1 = .ok (some h)) :
    ((m.getting r).run c).For c h := by
  constructor
  case questions =>
    rw [run_getting, hlookup]
    rfl
  case containers =>
    rw [run_getting, getHandler_containers, findHandler_containers, hlookup]
    exact h.resolve_containers c

theorem getting_silent
    (hlookup : ∀ h, (m.lookup (r.pathForLookup m.options.decode) (m.noted r)).1 ≠ .ok (some h)) :
    ((m.getting r).run c).Silent c := by
  rw [run_getting, getHandler_containers, findHandler_containers]
  generalize (m.lookup (r.pathForLookup m.options.decode) (m.noted r)).1 = found at hlookup
  rcases found with e | _ | h
  · exact ⟨rfl, rfl⟩
  · exact ⟨rfl, rfl⟩
  · exact absurd rfl (hlookup h)

theorem sought (m : HandlerMapping D) (r : Request D) (c : Containers) : Sought m r c := by
  have hlookup := m.lookup_handler (r.pathForLookup m.options.decode) (m.noted r)
  constructor
  case value => rw [run_getting]
  case containers => rw [run_getting]
  case at_most_one =>
    rw [run_getting]
    exact length_questionsAbout_le _
  case winner =>
    intro f hselect
    rw [hselect] at hlookup
    exact getting_for hlookup
  case fallback =>
    intro h hselect hfallback
    rw [hselect] at hlookup
    exact getting_for (hlookup.trans hfallback)
  case unmatched =>
    intro hselect hfallback
    rw [hselect] at hlookup
    apply getting_silent
    intro h
    rw [hlookup.trans hfallback]
    nofun
  case refused =>
    intro e hselect hfallback
    rw [hselect] at hlookup
    apply getting_silent
    intro h
    rw [hlookup.trans hfallback]
    nofun
  case ambiguous =>
    intro first second hselect
    rw [hselect] at hlookup
    apply getting_silent
    intro h
    rw [hlookup]
    nofun
  case preflight =>
    -- The sentinel is a handler method, but it names no bean.
    intro hselect
    rw [hselect] at hlookup
    have hfor : ((m.getting r).run c).For c .preflight := getting_for hlookup
    exact ⟨hfor.questions, hfor.containers⟩

end HandlerMapping

/-- Neither kind of mapping creates a bean when it is started, and a lookup requests at most the
bean of the handler method that it has settled on. -/
theorem beans_created_for_winners {D : Type} [DecidableEq D] (m : HandlerMapping D)
    (resolve : UrlResolver) (u : HandlerMapping String) (r : Request D) (c : Containers) :
    m.starting.Requestless m.start ∧
      (UrlMapping.starting resolve u).Requestless (UrlMapping.start resolve u) ∧
      HandlerMapping.Sought m r c :=
  ⟨m.quiet_starting.requestless m.value_starting,
    (UrlMapping.quiet_starting resolve u).requestless (UrlMapping.value_starting resolve u),
    HandlerMapping.sought m r c⟩

end RequestDispatch
