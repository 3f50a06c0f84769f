import Mathlib.Data.List.Nodup
import Mathlib.Logic.Function.Basic
import RequestDispatch.Mapping.Registration

/-! # Histories of a registry

A history registers, withdraws and clears in any order, each registration with a strategy and a
naming of its own. What one action can do is said here once. -/
namespace RequestDispatch.Registry

open Function (update)

variable {D : Type} [DecidableEq D]

inductive Action (D : Type) where
  | register (s : Strategy D) (naming? : Option (Naming D)) (d : D) (source : HandlerSource)
      (method : Signature)
  | unregister (d : D)
  | clear

def next (r : Registry D) : Action D → Registry D
  | .register s naming? d source method =>
    match r.register s naming? d source method with
    | .ok r' => r'
    | .error _ => r
  | .unregister d => r.unregister d
  | .clear => .empty

def runTrace (r : Registry D) : List (Action D) → Registry D
  | [] => r
  | a :: rest => runTrace (r.next a) rest

/-! ### What a registration can do -/

theorem nodup_eraseDups {α : Type} [BEq α] [LawfulBEq α] : (l : List α) → l.eraseDups.Nodup
  | [] => by simp
  | a :: l => by
    have := List.length_filter_le (fun b => !b == a) l
    rw [List.eraseDups_cons, List.nodup_cons]
    exact ⟨by simp, nodup_eraseDups _⟩
termination_by l => l.length

omit [DecidableEq D] in
theorem bindingFor_eq_ok {s : Strategy D} {naming? : Option (Naming D)} {d : D}
    {source : HandlerSource} {method : Signature} {b : Binding}
    (h : bindingFor s naming? d source method = .ok b) :
    b.handler = ⟨source, method, none⟩ ∧ b.directPaths = (s.directPaths d).eraseDups ∧
      b.cors? = s.corsFor source method d := by
  unfold bindingFor at h
  dsimp only at h
  split at h
  · cases h
  · cases h
    exact ⟨rfl, rfl, rfl⟩

/-- A registration enters the binding that it makes, and takes back a binding of the same
handler method first if the descriptor has one. -/
theorem register_cases {r r' : Registry D} {s : Strategy D} {naming? : Option (Naming D)} {d : D}
    {source : HandlerSource} {method : Signature}
    (h : r.register s naming? d source method = .ok r') :
    ∃ b, bindingFor s naming? d source method = .ok b ∧
      ((r.binding? d = none ∧ r' = r.enter d b) ∨
        ∃ held, r.binding? d = some held ∧ held.handler.key = b.handler.key ∧
          r' = (r.release d held).enter d b) := by
  unfold register at h
  dsimp only at h
  cases hb : bindingFor s naming? d source method with
  | error e =>
    rw [hb] at h
    split at h
    · cases h
    · split at h <;> cases h
  | ok b =>
    rw [hb] at h
    split at h
    · next hd =>
      cases h
      exact ⟨b, rfl, .inl ⟨hd, rfl⟩⟩
    · next held hd =>
      split at h
      · next hs =>
        cases h
        refine ⟨b, rfl, .inr ⟨held, hd, ?_, rfl⟩⟩
        rw [(bindingFor_eq_ok hb).1]
        exact of_decide_eq_true hs
      · cases h

theorem unregister_of_binding {r : Registry D} {d : D} {b : Binding} (h : r.binding? d = some b) :
    r.unregister d = { r.release d b with bindings := Assoc.remove r.bindings d } := by
  have hs : ({ r with bindings := Assoc.remove r.bindings d } : Registry D).siblings d b =
      r.siblings d b := by
    unfold siblings Assoc.remove
    rw [List.filter_filter]
    congr 1
    exact List.filter_congr fun e _ => by by_cases he : e.1 = d <;> simp [he]
  unfold unregister
  rw [h]
  dsimp only [release]
  rw [hs]

theorem mem_siblings {r : Registry D} (hr : (Assoc.keys r.bindings).Nodup) {d : D}
    {b o : Binding} :
    o ∈ r.siblings d b ↔ ∃ d', d' ≠ d ∧ r.binding? d' = some o ∧ o.handler.key = b.handler.key := by
  simp only [siblings, List.mem_map, List.mem_filter, Bool.and_eq_true, decide_eq_true_eq,
    HandlerMethod.sameAs, binding?]
  constructor
  · rintro ⟨⟨d', o'⟩, ⟨hm, hd, hk⟩, rfl⟩
    exact ⟨d', hd, (Assoc.mem_iff_find? hr).1 hm, hk⟩
  · rintro ⟨d', hd, hm, hk⟩
    exact ⟨(d', o), ⟨(Assoc.mem_iff_find? hr).2 hm, hd, hk⟩, rfl⟩

/-! ### The registrations -/

abbrev View (D : Type) := D → Option Binding

omit [DecidableEq D] in
theorem ne_of_unbound {v : View D} {d d' : D} {b' : Binding} (hd : v d = none)
    (hd' : v d' = some b') : d' ≠ d := by
  rintro rfl
  rw [hd] at hd'
  cases hd'

theorem update_none_eq_some {v : View D} {d d' : D} {b' : Binding} :
    update v d none d' = some b' ↔ d' ≠ d ∧ v d' = some b' := by
  by_cases h : d' = d <;> simp [h, Function.update_of_ne]

theorem update_some_eq_some {v : View D} {d d' : D} {b b' : Binding} :
    update v d (some b) d' = some b' ↔ d' = d ∧ b' = b ∨ d' ≠ d ∧ v d' = some b' := by
  by_cases h : d' = d <;> simp [h, Function.update_of_ne, eq_comm]

theorem binding?_enter (r : Registry D) (d : D) (b : Binding) :
    (r.enter d b).binding? = update r.binding? d (some b) := by
  funext d'
  simp only [binding?, enter, Assoc.find?_put, Function.update_apply]

end RequestDispatch.Registry
