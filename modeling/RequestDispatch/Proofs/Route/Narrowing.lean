import RequestDispatch.Proofs.Route.Ranking

/-! # Narrowing a route to a request

A route lets a request in if one of its patterns matches and it lists the method that the request
asks for, where GET stands in for HEAD. It is then narrowed to all that matches, with the patterns
ranked. Nothing is left to narrow after that, so doing it again changes nothing. -/
namespace RequestDispatch

/-- The name of the method that a request asks for. A preflight has it in a header. -/
def Request.requestedName? {D : Type} (r : Request D) : Option String :=
  if r.isPreflight then r.header? "access-control-request-method" else some r.method

namespace RouteMapping

variable {D : Type} {m n : RouteMapping} {r : Request D} {path : String} {methods : List Method}
  {method : Method}

/-! ### Methods -/

def Lists (m : RouteMapping) (method : Method) : Prop :=
  method ∈ m.methods ∨ method = .head ∧ .get ∈ m.methods

def Admits (m : RouteMapping) (r : Request D) : Prop :=
  m.methods = [] ∨ ∃ name method, r.requestedName? = some name ∧
    Method.parse? name = some method ∧ m.Lists method

theorem routedMethod?_eq_some_iff : routedMethod? r = some method ↔
    ∃ name, r.requestedName? = some name ∧ Method.parse? name = some method := by
  unfold routedMethod? Request.requestedName?
  split
  · exact Option.bind_eq_some_iff
  · simp [Request.method?]

theorem matchingMethods?_of_ne_nil (hne : m.methods ≠ []) :
    m.matchingMethods? r = some methods ↔ ∃ method, routedMethod? r = some method ∧
      (method ∈ m.methods ∧ methods = [method] ∨
        method ∉ m.methods ∧ method = .head ∧ .get ∈ m.methods ∧ methods = [.get]) := by
  rw [matchingMethods?, if_neg hne, Option.bind_eq_some_iff]
  apply exists_congr
  intro method
  apply and_congr_right
  intro _
  by_cases hlists : method ∈ m.methods
  · simp [hlists, eq_comm]
  · by_cases hhead : method = .head ∧ .get ∈ m.methods
    · simp [hhead.1 ▸ hlists, hhead, eq_comm]
    · simp only [List.contains_iff_mem, hlists, if_false, Bool.and_eq_true, decide_eq_true_eq,
        hhead, false_and, not_false_eq_true, true_and, false_or, reduceCtorEq, false_iff]
      rintro ⟨heq, hget, -⟩
      exact hhead ⟨heq, hget⟩

theorem matchingMethods?_of_nil (hnil : m.methods = []) : m.matchingMethods? r = some [] :=
  if_pos hnil

theorem matchingMethods?_isSome_iff : (m.matchingMethods? r).isSome = true ↔ m.Admits r := by
  by_cases hnil : m.methods = []
  · rw [matchingMethods?_of_nil hnil]
    exact iff_of_true rfl (.inl hnil)
  · rw [Option.isSome_iff_exists, Admits, or_iff_right hnil]
    constructor
    · rintro ⟨methods, h⟩
      obtain ⟨method, hrouted, h⟩ := (matchingMethods?_of_ne_nil hnil).1 h
      obtain ⟨name, hname, hparse⟩ := routedMethod?_eq_some_iff.1 hrouted
      refine ⟨name, method, hname, hparse, ?_⟩
      rcases h with ⟨hlists, -⟩ | ⟨-, hhead, hget, -⟩
      · exact .inl hlists
      · exact .inr ⟨hhead, hget⟩
    · rintro ⟨name, method, hname, hparse, h⟩
      have hrouted := routedMethod?_eq_some_iff.2 ⟨name, hname, hparse⟩
      by_cases hlists : method ∈ m.methods
      · exact ⟨[method], (matchingMethods?_of_ne_nil hnil).2
          ⟨method, hrouted, .inl ⟨hlists, rfl⟩⟩⟩
      · obtain ⟨hhead, hget⟩ := h.resolve_left hlists
        exact ⟨[.get], (matchingMethods?_of_ne_nil hnil).2
          ⟨method, hrouted, .inr ⟨hlists, hhead, hget, rfl⟩⟩⟩

theorem matchingMethods?_cases (h : m.matchingMethods? r = some methods) :
    m.methods = [] ∧ methods = [] ∨ ∃ method ∈ m.methods, methods = [method] := by
  by_cases hnil : m.methods = []
  · rw [matchingMethods?_of_nil hnil] at h
    cases h
    exact .inl ⟨hnil, rfl⟩
  · obtain ⟨method, -, h⟩ := (matchingMethods?_of_ne_nil hnil).1 h
    rcases h with ⟨hlists, rfl⟩ | ⟨-, -, hget, rfl⟩
    · exact .inr ⟨method, hlists, rfl⟩
    · exact .inr ⟨.get, hget, rfl⟩

/-- A route with just these methods is let in by them again. After HEAD has become GET, it is still
GET that stands in for it. -/
theorem matchingMethods?_again (h : m.matchingMethods? r = some methods)
    (hn : n.methods = methods) : n.matchingMethods? r = some methods := by
  by_cases hnil : m.methods = []
  · rw [matchingMethods?_of_nil hnil] at h
    cases h
    exact matchingMethods?_of_nil hn
  · obtain ⟨method, hrouted, h⟩ := (matchingMethods?_of_ne_nil hnil).1 h
    rcases h with ⟨-, rfl⟩ | ⟨-, rfl, -, rfl⟩
    · exact (matchingMethods?_of_ne_nil (by simp [hn])).2
        ⟨method, hrouted, .inl ⟨by simp [hn], rfl⟩⟩
    · exact (matchingMethods?_of_ne_nil (by simp [hn])).2
        ⟨.head, hrouted, .inr ⟨by simp [hn], rfl, by simp [hn], rfl⟩⟩

/-! ### Patterns -/

theorem matchingPatterns_ne_nil_iff :
    m.matchingPatterns path ≠ [] ↔ ∃ p ∈ m.patterns, Path.isMatch p path = true := by
  constructor
  · intro hne
    obtain ⟨p, ps, hps⟩ := List.exists_cons_of_ne_nil hne
    exact ⟨p, mem_matchingPatterns.1 (hps ▸ List.mem_cons_self)⟩
  · rintro ⟨p, hp⟩
    exact List.ne_nil_of_mem (mem_matchingPatterns.2 hp)

theorem matchingPatterns_stablySorted (m : RouteMapping) (path : String) :
    Ranked.StablySorted (Path.comparePatterns path)
      (m.patterns.filter fun p => Path.isMatch p path) (m.matchingPatterns path) :=
  Ranked.stablySorted_mergeSort _

theorem matchingPatterns_again (hn : n.patterns = m.matchingPatterns path) :
    n.matchingPatterns path = n.patterns := by
  have hall : n.patterns.filter (fun p => Path.isMatch p path) = n.patterns := by
    rw [List.filter_eq_self, hn]
    intro p hp
    exact (mem_matchingPatterns.1 hp).2
  rw [matchingPatterns, hall, hn]
  exact List.mergeSort_of_pairwise (matchingPatterns_stablySorted m path).pairwise

/-! ### Narrowed routes -/

/-- What a route becomes: its name, all patterns that match with the most specific ones first and
ties as they were declared, and at most one of its methods. -/
structure Narrowed (m : RouteMapping) (r : Request D) (path : String) (n : RouteMapping) :
    Prop where
  name : n.name? = m.name?
  patterns_iff : ∀ ps, n.patterns = ps ↔ Ranked.StablySorted (Path.comparePatterns path)
    (m.patterns.filter fun p => Path.isMatch p path) ps
  methods : m.methods = [] ∧ n.methods = [] ∨ ∃ method ∈ m.methods, n.methods = [method]
  again : n.narrow? r path = some n

structure Narrowing (m : RouteMapping) (r : Request D) (path : String)
    (narrowed : Option RouteMapping) : Prop where
  isSome_iff : narrowed.isSome = true ↔
    (∃ p ∈ m.patterns, Path.isMatch p path = true) ∧ m.Admits r
  narrowed : ∀ n ∈ narrowed, m.Narrowed r path n

theorem narrow?_isSome_iff : (m.narrow? r path).isSome = true ↔
    (∃ p ∈ m.patterns, Path.isMatch p path = true) ∧ m.Admits r := by
  rw [← matchingMethods?_isSome_iff, ← matchingPatterns_ne_nil_iff, Option.isSome_iff_exists,
    Option.isSome_iff_exists]
  constructor
  · rintro ⟨n, h⟩
    obtain ⟨methods, hmethods, hpatterns, -⟩ := narrow?_eq_some_iff.1 h
    exact ⟨hpatterns, methods, hmethods⟩
  · rintro ⟨hpatterns, methods, hmethods⟩
    exact ⟨_, narrow?_eq_some_iff.2 ⟨methods, hmethods, hpatterns, rfl⟩⟩

theorem narrow?_again (h : m.narrow? r path = some n) : n.narrow? r path = some n := by
  obtain ⟨methods, hmethods, hpatterns, hn⟩ := narrow?_eq_some_iff.1 h
  have hsame : n.matchingPatterns path = n.patterns := matchingPatterns_again (m := m) (by rw [hn])
  apply narrow?_eq_some_iff.2
  refine ⟨methods, matchingMethods?_again hmethods (by rw [hn]), ?_, ?_⟩
  · rw [hsame, hn]
    exact hpatterns
  · rw [hsame, hn]

/-- A route takes exactly the requests for a path that it matches with a method that it lists, and
narrowing it to one keeps all that matches, in order. -/
theorem narrow?_narrowing (m : RouteMapping) (r : Request D) (path : String) :
    m.Narrowing r path (m.narrow? r path) where
  isSome_iff := narrow?_isSome_iff
  narrowed := by
    intro n h
    obtain ⟨methods, hmethods, -, hn⟩ := narrow?_eq_some_iff.1 h
    have hsorted := matchingPatterns_stablySorted m path
    refine ⟨by rw [hn], ?_, ?_, narrow?_again h⟩
    · intro ps
      constructor
      · rintro rfl
        rw [hn]
        exact hsorted
      · intro hps
        rw [hn]
        exact hsorted.unique hps
    · rw [hn]
      exact matchingMethods?_cases hmethods

end RouteMapping

end RequestDispatch
