import RequestDispatch.Mapping.Discovery
import RequestDispatch.Proofs.Registry.Listing
import RequestDispatch.Route.Table

/-! # Exact discovery

What a discovery finds can be said without running it: the described methods of the candidates, in
order. It succeeds exactly if all methods of the candidates can be described, no descriptor goes to
two handler methods and all CORS metadata are valid; then it lists what is there to find. Each
stage is exact in this sense, and stages in a row are. -/
namespace RequestDispatch.HandlerMapping

open Registry (Lists Unambiguous CorsValid lists_empty)

variable {D : Type} [DecidableEq D] {m : HandlerMapping D} {p : Progress D}

/-! ### What there is to find -/

/-- The type of a candidate: it is known, it is that of a handler, and the name is not that of a
scoped target. -/
def candidateType? (m : HandlerMapping D) (c : Containers) (name : String) : Option BeanType :=
  if Text.startsWithText scopedTarget name then none
  else (c.typeOf 0 name).toOption.filter m.strategy.isHandler

def described (m : HandlerMapping D) (type : BeanType) (methods : List Signature) :
    List (D × Signature) :=
  methods.filterMap fun method =>
    (m.strategy.describe method type).toOption.join.map (·, method)

def claimOf (source : HandlerSource) (e : D × Signature) : D × HandlerMethod :=
  (e.1, ⟨source, e.2, none⟩)

def findingsOf (m : HandlerMapping D) (c : Containers) (name : String) : List (D × HandlerMethod) :=
  match m.candidateType? c name with
  | none => []
  | some type => (m.described type type.methods).map (claimOf (.bean name))

/-- All that there is to find, in the order of the names. -/
def findings (m : HandlerMapping D) (c : Containers) : List (D × HandlerMethod) :=
  (c.names 0 m.options.ancestors).flatMap (m.findingsOf c)

def DescribableType (m : HandlerMapping D) (type : BeanType) (methods : List Signature) : Prop :=
  ∀ method ∈ methods, (m.strategy.describe method type).isOk = true

def Describable (m : HandlerMapping D) (c : Containers) (name : String) : Prop :=
  ∀ type, m.candidateType? c name = some type → m.DescribableType type type.methods

structure Discoverable (m : HandlerMapping D) (c : Containers) : Prop where
  described : ∀ name ∈ c.names 0 m.options.ancestors, m.Describable c name
  unambiguous : Unambiguous (m.findings c)
  valid : ∀ e ∈ m.findings c, CorsValid m.strategy e

/-! ### Stages -/

abbrev Stage (D : Type) := Progress D → Except DispatchError Unit × Progress D

def Stage.andThen (first second : Stage D) : Stage D := fun p =>
  match first p with
  | (.error e, p) => (.error e, p)
  | (.ok _, p) => second p

/-- The stage succeeds exactly if `possible` holds and nothing stands against registering `es`
after what is registered, and then it has registered them. -/
structure Exact (m : HandlerMapping D) (stage : Stage D) (possible : Prop)
    (es : List (D × HandlerMethod)) : Prop where
  ok_iff : ∀ {p : Progress D} {before}, Lists p.registry before →
    ((stage p).1 = .ok () ↔
      possible ∧ Unambiguous (before ++ es) ∧ ∀ e ∈ es, CorsValid m.strategy e)
  lists : ∀ {p : Progress D} {before}, Lists p.registry before → (stage p).1 = .ok () →
    Lists (stage p).2.registry (before ++ es)

namespace Exact

theorem skip {stage : Stage D} (h : ∀ p, (stage p).1 = .ok () ∧ (stage p).2.registry = p.registry) :
    Exact m stage True [] where
  ok_iff {p before} hlists := by simpa [h p] using hlists.unambiguous
  lists {p before} hlists _ := by simpa [h p] using hlists

theorem refuse {stage : Stage D} {P : Prop} (hstage : ∀ p, (stage p).1 ≠ .ok ()) (hP : ¬P)
    (es : List (D × HandlerMethod)) : Exact m stage P es where
  ok_iff {p _} _ := ⟨fun hok => absurd hok (hstage p), fun h => absurd h.1 hP⟩
  lists {p _} _ hok := absurd hok (hstage p)

theorem andThen {first second : Stage D} {P Q : Prop} {es es' : List (D × HandlerMethod)}
    (h : Exact m first P es) (h' : Exact m second Q es') :
    Exact m (first.andThen second) (P ∧ Q) (es ++ es') where
  ok_iff := by
    intro p before hlists
    have hok := h.ok_iff hlists
    have hfirst := h.lists hlists
    rw [List.forall_mem_append, ← List.append_assoc]
    unfold Stage.andThen
    split
    · next e p' he =>
      -- What stands against the first part stands against the whole.
      rw [he] at hok
      constructor
      · intro hno
        cases hno
      · rintro ⟨⟨hp, -⟩, hunambiguous, hvalid, -⟩
        exact absurd (hok.2 ⟨hp, hunambiguous.of_append, hvalid⟩) (by simp)
    · next _ p' he =>
      rw [he] at hok hfirst
      obtain ⟨hp, -, hvalid⟩ := hok.1 rfl
      rw [h'.ok_iff (hfirst rfl), and_iff_right hp, and_iff_right hvalid]
  lists := by
    intro p before hlists hok
    have hfirst := h.lists hlists
    unfold Stage.andThen at hok ⊢
    split at hok
    · cases hok
    · next _ p' he =>
      rw [he] at hfirst
      rw [← List.append_assoc]
      exact h'.lists (hfirst rfl) hok

theorem congr {stage stage' : Stage D} {P Q : Prop} {es : List (D × HandlerMethod)}
    (h : Exact m stage P es) (hstage : stage' = stage) (hpossible : P ↔ Q) :
    Exact m stage' Q es := by
  rw [hstage, ← propext hpossible]
  exact h

end Exact

/-! ### From a registration to a discovery -/

def registerOne (m : HandlerMapping D) (source : HandlerSource) (e : D × Signature) : Stage D :=
  fun p => m.registerAll source [e] p

theorem registerAll_cons (source : HandlerSource) (e : D × Signature)
    (rest : List (D × Signature)) :
    m.registerAll source (e :: rest) =
      (m.registerOne source e).andThen (m.registerAll source rest) := by
  funext p
  obtain ⟨d, method⟩ := e
  simp only [Stage.andThen, registerOne, registerAll]
  split <;> rfl

theorem registerOne_exact (source : HandlerSource) (e : D × Signature) :
    Exact m (m.registerOne source e) True [claimOf source e] where
  ok_iff := by
    intro p before hlists
    have hok : (p.registry.register m.strategy m.naming? e.1 source e.2).isOk = true ↔ _ :=
      hlists.register_isOk_iff
    rw [true_and, List.forall_mem_singleton, claimOf, ← hok]
    simp only [registerOne, registerAll, Progress.emit]
    cases p.registry.register m.strategy m.naming? e.1 source e.2 <;>
      simp [Except.isOk, Except.toBool]
  lists := by
    intro p before hlists hok
    simp only [registerOne, registerAll, Progress.emit] at hok ⊢
    split at hok
    · cases hok
    · next r hr => exact hlists.register hr

theorem registerAll_exact (source : HandlerSource) (es : List (D × Signature)) :
    Exact m (m.registerAll source es) True (es.map (claimOf source)) := by
  induction es with
  | nil => exact .skip fun _ => ⟨rfl, rfl⟩
  | cons e rest ih =>
    exact ((registerOne_exact source e).andThen ih).congr (registerAll_cons source e rest)
      (true_and True).to_iff

section Describe

variable {type : BeanType} {method : Signature} {rest : List Signature}

omit [DecidableEq D]

theorem describable_cons :
    m.DescribableType type (method :: rest) ↔
      (m.strategy.describe method type).isOk = true ∧ m.DescribableType type rest :=
  List.forall_mem_cons

theorem described_cons {d? : Option D} (hd : m.strategy.describe method type = .ok d?) :
    m.described type (method :: rest) =
      (d?.map (·, method)).toList ++ m.described type rest := by
  rw [described, List.filterMap_cons, hd]
  cases d? <;> rfl

theorem describeAll_eq_ok_iff {methods : List Signature} {es : List (D × Signature)} :
    m.describeAll type methods = .ok es ↔
      m.DescribableType type methods ∧ es = m.described type methods := by
  induction methods generalizing es with
  | nil =>
    have hnil : m.DescribableType type [] := fun _ hin => nomatch hin
    rw [and_iff_right hnil, describeAll, Except.ok.injEq, eq_comm]
    rfl
  | cons method rest ih =>
    rw [describable_cons, describeAll]
    cases hd : m.strategy.describe method type with
    | error e => simp [Except.isOk, Except.toBool]
    | ok d? =>
      have hok : (Except.ok d? : Except DispatchError (Option D)).isOk = true := rfl
      rw [described_cons hd, and_iff_right hok]
      cases d? with
      | none => exact ih
      | some d =>
        dsimp only
        cases hrest : m.describeAll type rest with
        | error e =>
          have hnone : ¬m.DescribableType type rest := by
            intro h
            rw [ih.2 ⟨h, rfl⟩] at hrest
            cases hrest
          simp [Except.map, hnone]
        | ok es' =>
          obtain ⟨h, rfl⟩ := ih.1 hrest
          simp [Except.map, h, eq_comm]

end Describe

theorem detectInto_exact (source : HandlerSource) (type : BeanType) :
    Exact m (m.detectInto source type) (m.DescribableType type type.methods)
      ((m.described type type.methods).map (claimOf source)) := by
  by_cases h : m.DescribableType type type.methods
  · let report : Stage D := fun p => (.ok (), p.emit [.debug "Detected handler methods"
      [("handler_type", .text type.name),
        ("mappings", .number (m.described type type.methods).length)]])
    have hreport : Exact m report True [] := .skip fun _ => ⟨rfl, rfl⟩
    refine (hreport.andThen (registerAll_exact source _)).congr ?_ (by simp [h])
    funext p
    rw [detectInto, describeAll_eq_ok_iff.2 ⟨h, rfl⟩]
    rfl
  · -- All methods are described before the first is registered.
    refine .refuse (fun p hok => ?_) h _
    unfold detectInto at hok
    split at hok
    · cases hok
    · next es hes => exact h (describeAll_eq_ok_iff.1 hes).1

theorem discoverBean_of_none {c : Containers} {name : String} (h : m.candidateType? c name = none)
    (p : Progress D) :
    (m.discoverBean c name p).1 = .ok () ∧ (m.discoverBean c name p).2.registry = p.registry := by
  unfold candidateType? at h
  unfold discoverBean
  split
  · exact ⟨rfl, rfl⟩
  · next hscoped =>
    rw [if_neg hscoped] at h
    cases htype : c.typeOf 0 name with
    | error e => exact ⟨rfl, rfl⟩
    | ok type =>
      rw [htype] at h
      dsimp only
      split
      · next hhandler => simp [Except.toOption, Option.filter, hhandler] at h
      · exact ⟨rfl, rfl⟩

theorem discoverBean_of_some {c : Containers} {name : String} {type : BeanType}
    (h : m.candidateType? c name = some type) :
    m.discoverBean c name = m.detectInto (.bean name) type := by
  unfold candidateType? at h
  funext p
  unfold discoverBean
  split
  · next hscoped =>
    rw [if_pos hscoped] at h
    cases h
  · next hscoped =>
    rw [if_neg hscoped] at h
    cases htype : c.typeOf 0 name with
    | error e =>
      rw [htype] at h
      cases h
    | ok type' =>
      rw [htype] at h
      obtain ⟨heq, hhandler⟩ := Option.filter_eq_some_iff.1 h
      cases heq
      exact if_pos hhandler

theorem discoverBean_exact (c : Containers) (name : String) :
    Exact m (m.discoverBean c name) (m.Describable c name) (m.findingsOf c name) := by
  unfold findingsOf Describable
  cases htype : m.candidateType? c name with
  | none =>
    exact (Exact.skip (discoverBean_of_none htype)).congr rfl (by simp)
  | some type =>
    exact (detectInto_exact (.bean name) type).congr (discoverBean_of_some htype) (by simp)

theorem discoverFrom_exact (c : Containers) (names : List String) :
    Exact m (m.discoverFrom c names) (∀ name ∈ names, m.Describable c name)
      (names.flatMap (m.findingsOf c)) := by
  induction names with
  | nil => exact (Exact.skip fun _ => ⟨rfl, rfl⟩).congr rfl (by simp)
  | cons name rest ih =>
    exact ((discoverBean_exact c name).andThen ih).congr rfl (by rw [List.forall_mem_cons])

theorem discover_exact (hregistry : m.registry = .empty) (c : Containers) :
    ((m.discover c).1 = .ok () ↔ m.Discoverable c) ∧
      ((m.discover c).1 = .ok () →
        (m.discover c).2.registry.handlers = (m.findings c).eraseDups) := by
  have hexact := discoverFrom_exact (m := m) c (c.names 0 m.options.ancestors)
  have hempty : Lists (⟨m.registry, []⟩ : Progress D).registry [] := hregistry ▸ lists_empty
  refine ⟨(hexact.ok_iff hempty).trans ⟨?_, ?_⟩, fun hok => (hexact.lists hempty hok).handlers⟩
  · rintro ⟨hdescribed, hunambiguous, hvalid⟩
    exact ⟨hdescribed, hunambiguous, hvalid⟩
  · rintro ⟨hdescribed, hunambiguous, hvalid⟩
    exact ⟨hdescribed, hunambiguous, hvalid⟩

/-! ### The start of a mapping -/

structure Fresh (m : HandlerMapping D) : Prop where
  state : m.state = .uninitialized
  registry : m.registry = .empty

theorem start_of_uninitialized (h : m.state = .uninitialized) (c : Containers) :
    (m.start c).1 = (m.discover c).1 ∧
      ((m.discover c).1 = .ok () → (m.start c).2.1.state = .ready ∧
        (m.start c).2.1.registry = (m.discover c).2.registry) ∧
      ∀ e, (m.discover c).1 = .error e → (m.start c).2.1 = { m with registry := .empty } := by
  have hstate : ¬m.state ≠ .uninitialized := fun hne => hne h
  unfold start
  rw [if_neg hstate]
  obtain ⟨result, p⟩ := m.discover c
  cases result with
  | error e => exact ⟨rfl, fun hok => (nomatch hok), fun _ _ => rfl⟩
  | ok _ => exact ⟨rfl, fun _ => ⟨rfl, rfl⟩, fun _ he => (nomatch he)⟩

/-- The start of a fresh mapping succeeds exactly if nothing stands against what there is to find,
and then registers this. Otherwise it leaves nothing behind. -/
theorem start_exact (hm : m.Fresh) (c : Containers) :
    ((m.start c).1 = .ok () ↔ m.Discoverable c) ∧
    ((m.start c).1 = .ok () → (m.start c).2.1.state = .ready ∧
      (m.start c).2.1.registry.handlers = (m.findings c).eraseDups) ∧
    ∀ e, (m.start c).1 = .error e → (m.start c).2.1.state = .uninitialized ∧
      (m.start c).2.1.registry.bindings = [] ∧ (m.start c).2.1.registry.paths = [] ∧
      (m.start c).2.1.registry.names = [] ∧ (m.start c).2.1.registry.cors = [] ∧
      ∀ c', (m.start c).2.1.start c' = m.start c' := by
  obtain ⟨hiff, hhandlers⟩ := discover_exact hm.registry c
  obtain ⟨hresult, hready, hfailed⟩ := start_of_uninitialized hm.state c
  rw [hresult]
  refine ⟨hiff, fun hok => ?_, fun e he => ?_⟩
  · obtain ⟨hstate, hregistry⟩ := hready hok
    exact ⟨hstate, hregistry ▸ hhandlers hok⟩
  · -- What is left is the very mapping that was started.
    have hsame : (m.start c).2.1 = m := by
      rw [hfailed e he, ← hm.registry]
    rw [hsame, hm.registry]
    exact ⟨hm.state, rfl, rfl, rfl, rfl, fun _ => rfl⟩

/-! ### One route, and beans of one type -/

def pingRoutes : RouteTable :=
  RouteTable.route []
    { owner := "Ping"
      handler := "ping"
      methods := [.get]
      paths := ["/ping"] }

def pingBeans (names : List String) : Containers :=
  names.foldl (fun c name =>
    c.declare 0 ⟨name, .ready ⟨"Ping", [⟨"Ping", "ping", []⟩]⟩ name⟩) .single

/-- One bean has the route to itself, two beans cannot share it. After that failure the mapping
starts as if for the first time. -/
theorem ping_discovery :
    let m : HandlerMapping RouteMapping := { strategy := pingRoutes.strategy }
    let alone := pingBeans ["scopedTarget.ping", "ping"]
    let shared := pingBeans ["ping", "pong"]
    m.Fresh ∧ m.Discoverable alone ∧
    (m.start alone).2.1.registry.handlers = (m.findings alone).eraseDups ∧
    ¬m.Discoverable shared ∧ (m.start shared).2.1.registry.bindings = [] ∧
    (m.start shared).2.1.start alone = m.start alone := by
  intro m alone shared
  have hm : m.Fresh := ⟨rfl, rfl⟩
  have hok : (m.start alone).1 = .ok () := by rfl
  obtain ⟨hiff, hready, -⟩ := start_exact hm alone
  obtain ⟨hiff', -, hfailed⟩ := start_exact hm shared
  have hrefused : ∃ e, (m.start shared).1 = .error e := ⟨_, rfl⟩
  obtain ⟨e, he⟩ := hrefused
  obtain ⟨-, hbindings, -, -, -, hagain⟩ := hfailed e he
  refine ⟨hm, hiff.1 hok, (hready hok).2, fun h => ?_, hbindings, hagain alone⟩
  rw [hiff'.2 h] at he
  cases he

end RequestDispatch.HandlerMapping
