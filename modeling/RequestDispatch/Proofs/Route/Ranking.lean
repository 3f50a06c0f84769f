import RequestDispatch.Proofs.Path.Specificity
import RequestDispatch.Route.RouteMapping

/-! # Ranking of route mappings

Comparing pattern by pattern and then by length is the lexicographic order of the pattern lists
in which the end of a list comes last. A narrowed mapping has its most specific pattern in front,
so the literal path of a request decides against all mappings that do not have it. -/
namespace RequestDispatch.RouteMapping

open Std (TransCmp)

/-! ### The order -/

theorem comparePaired_then_length (path : String) (as bs : List String) :
    (comparePaired path as bs).then (compare bs.length as.length) =
      List.compareLex (fun a b => Path.comparePatterns path b a) bs as := by
  induction as generalizing bs with
  | nil =>
    cases bs with
    | nil => rfl
    | cons b bs => simp [comparePaired, List.compareLex_cons_nil, Nat.compare_eq_gt]
  | cons a as ih =>
    cases bs with
    | nil => simp [comparePaired, List.compareLex_nil_cons, Nat.compare_eq_lt]
    | cons b bs =>
      rw [comparePaired, List.compareLex_cons_cons, ← ih, Ordering.then_assoc]
      simp [Nat.compare_eq_ite_lt]

theorem compareTo_eq (path : String) :
    compareTo path = compareLex
      (fun a b => List.compareLex (fun p q => Path.comparePatterns path q p) b.patterns a.patterns)
      (fun a b => compareOn (·.methods.length) b a) := by
  funext a b
  rw [compareTo, ← Ordering.then_assoc, comparePaired_then_length]
  rfl

instance compareTo_trans (path : String) : TransCmp (compareTo path) := by
  rw [compareTo_eq]
  have := Ranked.comap_trans patterns fun as bs =>
    List.compareLex (fun p q => Path.comparePatterns path q p) bs as
  infer_instance

/-- Patterns and mappings, narrowed or not, are ranked by total preorders. The path itself comes
before all other patterns, and a catch-all before none. -/
theorem comparisons_are_total_preorders (path : String) :
    Ranked.TotalPreorder (Path.comparePatterns path) ∧ Ranked.TotalPreorder (compareTo path) ∧
      (∀ other, other ≠ path → Path.comparePatterns path path other = .lt) ∧
      (path ≠ "/**" → ∀ p, Path.comparePatterns path "/**" p ≠ .lt) :=
  ⟨Ranked.totalPreorder, Ranked.totalPreorder, fun _ => Path.comparePatterns_path,
    Path.comparePatterns_catchAll_ne_lt⟩

/-! ### Narrowed mappings -/

variable {D : Type} {m n : RouteMapping} {r : Request D} {path : String}

theorem mem_matchingPatterns {p : String} :
    p ∈ m.matchingPatterns path ↔ p ∈ m.patterns ∧ Path.isMatch p path = true := by
  simp [matchingPatterns, List.mem_mergeSort]

theorem narrow?_eq_some_iff :
    m.narrow? r path = some n ↔ ∃ methods, m.matchingMethods? r = some methods ∧
      m.matchingPatterns path ≠ [] ∧
      n = { m with patterns := m.matchingPatterns path, methods := methods } := by
  rw [narrow?, Option.bind_eq_some_iff]
  apply exists_congr
  intro methods
  apply and_congr_right
  intro _
  cases m.matchingPatterns path with
  | nil => simp
  | cons p ps =>
    simp only [ne_eq, reduceCtorEq, not_false_eq_true, true_and, Option.some.injEq]
    exact eq_comm

theorem patterns_narrow (h : m.narrow? r path = some n) :
    n.patterns = m.matchingPatterns path ∧ n.patterns ≠ [] := by
  obtain ⟨methods, -, hne, rfl⟩ := narrow?_eq_some_iff.1 h
  exact ⟨rfl, hne⟩

theorem head_of_literal (h : m.narrow? r path = some n) (hm : path ∈ m.patterns)
    (hliteral : Path.isPattern path = false) : ∃ rest, n.patterns = path :: rest := by
  obtain ⟨hn, -⟩ := patterns_narrow h
  have hpath : path ∈ n.patterns := by
    rw [hn]
    exact mem_matchingPatterns.2 ⟨hm, Path.isMatch_self hliteral⟩
  have hranked : n.patterns.Pairwise fun a b => (Path.comparePatterns path a b).isLE := by
    rw [hn]
    exact Ranked.pairwise_isLE _
  cases hp : n.patterns with
  | nil => rw [hp] at hpath; cases hpath
  | cons first rest =>
    rw [hp] at hpath hranked
    refine ⟨rest, ?_⟩
    rcases List.mem_cons.1 hpath with rfl | hrest
    · rfl
    · rw [Path.eq_path_of_comparePatterns_isLE (List.rel_of_pairwise_cons hranked hrest)]

theorem compareTo_of_literal {m' n' : RouteMapping} (h : m.narrow? r path = some n)
    (h' : m'.narrow? r path = some n') (hm : path ∈ m.patterns) (hm' : path ∉ m'.patterns)
    (hliteral : Path.isPattern path = false) : compareTo path n n' = .lt := by
  obtain ⟨rest, hn⟩ := head_of_literal h hm hliteral
  obtain ⟨hn', hne⟩ := patterns_narrow h'
  cases hp : n'.patterns with
  | nil => exact absurd hp hne
  | cons first others =>
    have hfirst : first ∈ m'.matchingPatterns path := by
      rw [← hn', hp]
      exact List.mem_cons_self ..
    have hother : first ≠ path := by
      rintro rfl
      exact hm' (mem_matchingPatterns.1 hfirst).1
    rw [compareTo, hn, hp, comparePaired, Path.comparePatterns_path hother]
    rfl

end RequestDispatch.RouteMapping
