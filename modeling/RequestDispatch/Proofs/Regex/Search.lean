import RequestDispatch.Regex.Program

/-! # What a search finds

A search finds a match if and only if some run of the program from some place accepts. Nothing is
lost by trying no instruction twice at one place, and the fuel is enough. -/
namespace RequestDispatch.Regex

def Thread.spot (t : Thread) : Nat × Nat :=
  (t.pc, t.place)

namespace Program

variable {p : Program}

def nexts (p : Program) (spot : Nat × Nat) : List (Nat × Nat) :=
  (p.successors ⟨spot.1, spot.2, []⟩).map Thread.spot

theorem map_spot_successors (t : Thread) : (p.successors t).map Thread.spot = p.nexts t.spot := by
  obtain ⟨pc, place, notes⟩ := t
  change (p.successors ⟨pc, place, notes⟩).map Thread.spot =
    (p.successors ⟨pc, place, []⟩).map Thread.spot
  cases hcode : p.code[pc]? with
  | none => simp [successors, hcode]
  | some i =>
    cases i with
    | take s =>
      cases htext : p.text[place]? with
      | none => simp [successors, hcode, htext]
      | some c => by_cases hc : s.contains c <;> simp [successors, hcode, htext, hc, Thread.spot]
    | check l =>
      simp only [successors, hcode, apply_ite (List.map Thread.spot)]
      rfl
    | _ => simp [successors, hcode, Thread.spot]

section steps

variable {pc place : Nat}

theorem nexts_take {s : CharSet} (h : p.code[pc]? = some (.take s)) :
    p.nexts (pc, place) =
      if p.text[place]?.any s.contains then [(pc + 1, place + 1)] else [] := by
  cases htext : p.text[place]? with
  | none => simp [nexts, successors, h, htext]
  | some c => by_cases hc : s.contains c <;> simp [nexts, successors, h, htext, hc, Thread.spot]

theorem nexts_check {l : Look} (h : p.code[pc]? = some (.check l)) :
    p.nexts (pc, place) =
      if l.holds (if place = 0 then none else p.text[place - 1]?) p.text[place]? then
        [(pc + 1, place)]
      else [] := by
  simp only [nexts, successors, h, apply_ite (List.map Thread.spot)]
  rfl

theorem nexts_note {slot : Nat} (h : p.code[pc]? = some (.note slot)) :
    p.nexts (pc, place) = [(pc + 1, place)] := by
  simp [nexts, successors, h, Thread.spot]

theorem nexts_jump {target : Nat} (h : p.code[pc]? = some (.jump target)) :
    p.nexts (pc, place) = [(target, place)] := by
  simp [nexts, successors, h, Thread.spot]

theorem nexts_fork {first second : Nat} (h : p.code[pc]? = some (.fork first second)) :
    p.nexts (pc, place) = [(first, place), (second, place)] := by
  simp [nexts, successors, h, Thread.spot]

theorem nexts_accept (h : p.code[pc]? = some .accept) : p.nexts (pc, place) = [] := by
  simp [nexts, successors, h]

theorem nexts_none (h : p.code[pc]? = none) : p.nexts (pc, place) = [] := by
  simp [nexts, successors, h]

end steps

inductive AcceptsIn (p : Program) : Nat → Nat × Nat → Prop where
  | here {spot} : p.code[spot.1]? = some .accept → AcceptsIn p 0 spot
  | step {steps spot next} : next ∈ p.nexts spot → AcceptsIn p steps next →
      AcceptsIn p (steps + 1) spot

theorem AcceptsIn.next {steps : Nat} {spot : Nat × Nat} (h : p.AcceptsIn steps spot)
    (hcode : p.code[spot.1]? ≠ some .accept) :
    ∃ next ∈ p.nexts spot, ∃ fewer < steps, p.AcceptsIn fewer next := by
  cases h with
  | here haccept => exact absurd haccept hcode
  | step hnext h => exact ⟨_, hnext, _, Nat.lt_succ_self _, h⟩

def Accepts (p : Program) (spot : Nat × Nat) : Prop :=
  ∃ steps, p.AcceptsIn steps spot

theorem Accepts.step {spot next : Nat × Nat} (hnext : next ∈ p.nexts spot) (h : p.Accepts next) :
    p.Accepts spot := by
  obtain ⟨steps, h⟩ := h
  exact ⟨steps + 1, .step hnext h⟩

theorem length_successors_le (t : Thread) : (p.successors t).length ≤ 2 := by
  unfold successors
  generalize (if t.place = 0 then none else p.text[t.place - 1]?) = before
  split
  · split
    · split <;> simp
    · simp
  · dsimp only
    split <;> simp
  all_goals simp

def InRange (p : Program) (spot : Nat × Nat) : Prop :=
  spot.1 < p.code.size ∧ spot.2 ≤ p.text.size

def IsClosed (p : Program) : Prop :=
  ∀ spot, p.InRange spot → ∀ next ∈ p.nexts spot, p.InRange next

def key (p : Program) (spot : Nat × Nat) : Nat :=
  spot.2 * p.code.size + spot.1

theorem key_lt {spot : Nat × Nat} (h : p.InRange spot) :
    p.key spot < p.code.size * (p.text.size + 1) := by
  obtain ⟨hpc, hplace⟩ := h
  calc spot.2 * p.code.size + spot.1
    _ < spot.2 * p.code.size + p.code.size := by omega
    _ = p.code.size * (spot.2 + 1) := by rw [Nat.mul_add, Nat.mul_one, Nat.mul_comm]
    _ ≤ p.code.size * (p.text.size + 1) := Nat.mul_le_mul_left _ (by omega)

theorem key_inj {a b : Nat × Nat} (ha : p.InRange a) (hb : p.InRange b) (h : p.key a = p.key b) :
    a = b := by
  have hpc : ∀ spot, p.InRange spot → p.key spot % p.code.size = spot.1 := by
    intro spot hspot
    rw [key, Nat.mul_add_mod_self_right, Nat.mod_eq_of_lt hspot.1]
  have hplace : ∀ spot, p.InRange spot → p.key spot / p.code.size = spot.2 := by
    intro spot hspot
    have hpos : 0 < p.code.size := Nat.zero_lt_of_lt hspot.1
    rw [key, Nat.add_comm, Nat.add_mul_div_right _ _ hpos, Nat.div_eq_of_lt hspot.1, Nat.zero_add]
  refine Prod.ext ?_ ?_
  · rw [← hpc a ha, ← hpc b hb, h]
  · rw [← hplace a ha, ← hplace b hb, h]

def Tried (p : Program) (seen : Array Bool) (spot : Nat × Nat) : Prop :=
  seen.getD (p.key spot) true = true

/-- What has been tried has not accepted, and where it leads has been tried or is to be tried. -/
structure Explored (p : Program) (threads : List Thread) (seen : Array Bool) : Prop where
  size : seen.size = p.code.size * (p.text.size + 1)
  inRange : ∀ t ∈ threads, p.InRange t.spot
  rejects : ∀ spot, p.InRange spot → p.Tried seen spot → p.code[spot.1]? ≠ some .accept
  closed : ∀ spot, p.InRange spot → p.Tried seen spot → ∀ next ∈ p.nexts spot,
    p.Tried seen next ∨ next ∈ threads.map Thread.spot

namespace Explored

variable {t : Thread} {threads : List Thread} {seen : Array Bool}

/-- Once nothing is left to be tried, nothing that has been tried can accept. -/
theorem not_accepts (hp : p.IsClosed) (h : p.Explored [] seen) {spot : Nat × Nat}
    (hspot : p.InRange spot) (htried : p.Tried seen spot) : ¬p.Accepts spot := by
  rintro ⟨steps, haccepts⟩
  induction haccepts with
  | here hcode => exact h.rejects _ hspot htried hcode
  | step hnext _ ih =>
    -- nothing is left to be tried, so the next spot has been
    refine ih (hp _ hspot _ hnext) ?_
    simpa using h.closed _ hspot htried _ hnext

theorem add (h : p.Explored [] seen) (ht : p.InRange t.spot) : p.Explored [t] seen where
  size := h.size
  inRange u hu := List.mem_singleton.1 hu ▸ ht
  rejects := h.rejects
  closed spot hspot htried next hnext := by
    simpa using Or.inl (h.closed spot hspot htried next hnext)

/-- The fuel is enough for one thread and the two that every new spot can add. -/
theorem one_thread_le_fuel (h : p.Explored [] seen) : 1 + 2 * seen.count false ≤ p.fuel := by
  have hcount : seen.count false ≤ seen.size := Array.count_le_size
  rw [h.size] at hcount
  rw [fuel, Nat.mul_assoc]
  omega

theorem drop (h : p.Explored (t :: threads) seen) (ht : p.Tried seen t.spot) :
    p.Explored threads seen where
  size := h.size
  inRange u hu := h.inRange u (List.mem_cons_of_mem t hu)
  rejects := h.rejects
  closed spot hspot htried next hnext := by
    rcases h.closed spot hspot htried next hnext with hnext | hnext
    · exact .inl hnext
    · rcases List.mem_cons.1 hnext with rfl | hnext
      · exact .inl ht
      · exact .inr hnext

theorem tried_set_iff (h : p.Explored (t :: threads) seen) {spot : Nat × Nat}
    (hspot : p.InRange spot) :
    p.Tried (seen.setIfInBounds (p.key t.spot) true) spot ↔ spot = t.spot ∨ p.Tried seen spot := by
  have ht : p.InRange t.spot := h.inRange t List.mem_cons_self
  have hkey : p.key t.spot < seen.size := h.size ▸ key_lt ht
  rw [Tried, Tried, Array.getD_eq_getD_getElem?, Array.getD_eq_getD_getElem?,
    Array.getElem?_setIfInBounds]
  by_cases heq : spot = t.spot
  · simp [heq, hkey]
  · have hne : p.key t.spot ≠ p.key spot := fun hk => heq (key_inj hspot ht hk.symm)
    simp [heq, hne]

theorem expand (hp : p.IsClosed) (h : p.Explored (t :: threads) seen)
    (hreject : p.code[t.pc]? ≠ some .accept) :
    p.Explored (p.successors t ++ threads) (seen.setIfInBounds (p.key t.spot) true) where
  size := by rw [Array.size_setIfInBounds, h.size]
  inRange u hu := by
    rcases List.mem_append.1 hu with hu | hu
    · refine hp t.spot (h.inRange t List.mem_cons_self) u.spot ?_
      exact map_spot_successors t ▸ List.mem_map_of_mem hu
    · exact h.inRange u (List.mem_cons_of_mem t hu)
  rejects spot hspot htried := by
    rcases (h.tried_set_iff hspot).1 htried with rfl | htried
    · exact hreject
    · exact h.rejects spot hspot htried
  closed spot hspot htried next hnext := by
    have hin : p.InRange next := hp spot hspot next hnext
    rw [h.tried_set_iff hin, List.map_append, List.mem_append, map_spot_successors]
    rcases (h.tried_set_iff hspot).1 htried with rfl | htried
    · exact .inr (.inl hnext)
    · rcases h.closed spot hspot htried next hnext with hnext | hnext
      · exact .inl (.inr hnext)
      · rcases List.mem_cons.1 hnext with rfl | hnext
        · exact .inl (.inl rfl)
        · exact .inr (.inr hnext)

end Explored

theorem count_tried {spot : Nat × Nat} {seen : Array Bool} (hnew : ¬p.Tried seen spot) :
    (seen.setIfInBounds (p.key spot) true).count false + 1 = seen.count false := by
  rw [Tried, Array.getD_eq_getD_getElem?] at hnew
  have hkey : p.key spot < seen.size := by
    refine Nat.lt_of_not_le fun hle => hnew ?_
    rw [Array.getElem?_eq_none hle, Option.getD_none]
  have hfalse : seen[p.key spot] = false := by simpa [hkey] using hnew
  have hpos : 0 < seen.count false :=
    Array.count_pos_iff.2 (hfalse ▸ Array.getElem_mem hkey)
  rw [Array.setIfInBounds, dif_pos hkey, Array.count_set, hfalse]
  simp
  omega

/-! ### Runs and searches -/

section runs

variable {threads : List Thread} {seen seen' : Array Bool}

theorem accepts_of_run_eq_some {fuel : Nat} {found : Thread}
    (h : p.run fuel threads seen = (some found, seen')) : ∃ t ∈ threads, p.Accepts t.spot := by
  induction fuel generalizing threads seen with
  | zero => cases h
  | succ fuel ih =>
    cases threads with
    | nil => cases h
    | cons t threads =>
      rw [run] at h
      split at h
      · obtain ⟨u, hu, haccepts⟩ := ih h
        exact ⟨u, List.mem_cons_of_mem t hu, haccepts⟩
      · split at h
        · next hcode => exact ⟨t, List.mem_cons_self, 0, .here hcode⟩
        · obtain ⟨u, hu, haccepts⟩ := ih h
          rcases List.mem_append.1 hu with hu | hu
          · refine ⟨t, List.mem_cons_self, .step ?_ haccepts⟩
            exact map_spot_successors t ▸ List.mem_map_of_mem hu
          · exact ⟨u, List.mem_cons_of_mem t hu, haccepts⟩

/-- A run that does not accept has tried all of its threads, and whatever they lead to. -/
theorem explored_of_run_eq_none (hp : p.IsClosed) {fuel : Nat}
    (hfuel : threads.length + 2 * seen.count false ≤ fuel) (hseen : p.Explored threads seen)
    (h : p.run fuel threads seen = (none, seen')) :
    p.Explored [] seen' ∧ ∀ spot, p.InRange spot →
      p.Tried seen spot ∨ spot ∈ threads.map Thread.spot → p.Tried seen' spot := by
  -- a new spot takes one of the untried and adds at most two threads, so the bound is kept
  induction fuel generalizing threads seen with
  | zero =>
    obtain rfl : threads = [] := List.eq_nil_of_length_eq_zero (by omega)
    cases h
    exact ⟨hseen, by simp⟩
  | succ fuel ih =>
    cases threads with
    | nil =>
      cases h
      exact ⟨hseen, by simp⟩
    | cons t threads =>
      rw [List.length_cons] at hfuel
      rw [run] at h
      split at h
      · next htried =>
        obtain ⟨hseen', hall⟩ := ih (by omega) (hseen.drop htried) h
        refine ⟨hseen', fun spot hspot hor => hall spot hspot ?_⟩
        rcases hor with hor | hor
        · exact .inl hor
        · rcases List.mem_cons.1 hor with rfl | hor
          · exact .inl htried
          · exact .inr hor
      · next hnew =>
        split at h
        · cases h
        · next hreject =>
          have hcount := count_tried (show ¬p.Tried seen t.spot from hnew)
          have hlength := length_successors_le (p := p) t
          obtain ⟨hseen', hall⟩ := ih (by rw [List.length_append]; omega)
            (hseen.expand hp hreject) h
          refine ⟨hseen', fun spot hspot hor => hall spot hspot ?_⟩
          rw [hseen.tried_set_iff hspot, List.map_append, List.mem_append]
          rcases hor with hor | hor
          · exact .inl (.inr hor)
          · rcases List.mem_cons.1 hor with rfl | hor
            · exact .inl (.inl rfl)
            · exact .inr (.inr hor)

theorem searchFrom_isSome_iff (hp : p.IsClosed) (hcode : 0 < p.code.size) {places start : Nat}
    (hplaces : start + places ≤ p.text.size + 1) (hseen : p.Explored [] seen) :
    (p.searchFrom places start seen).isSome = true ↔
      ∃ place, start ≤ place ∧ place < start + places ∧ p.Accepts (0, place) := by
  induction places generalizing start seen with
  | zero =>
    simp only [searchFrom, Option.isSome_none, Bool.false_eq_true, false_iff, not_exists]
    omega
  | succ places ih =>
    have hstart : p.InRange (0, start) := ⟨hcode, by omega⟩
    rw [searchFrom]
    split
    · next found seen' hrun =>
      obtain ⟨t, ht, haccepts⟩ := accepts_of_run_eq_some hrun
      obtain rfl := List.mem_singleton.1 ht
      simp only [Option.isSome_some, true_iff]
      exact ⟨start, Nat.le_refl start, by omega, haccepts⟩
    · next seen' hrun =>
      obtain ⟨hseen', hall⟩ := explored_of_run_eq_none hp hseen.one_thread_le_fuel
        (hseen.add (t := ⟨0, start, []⟩) hstart) hrun
      have hnot : ¬p.Accepts (0, start) :=
        hseen'.not_accepts hp hstart (hall _ hstart (.inr List.mem_cons_self))
      rw [ih (by omega) hseen']
      constructor
      · rintro ⟨place, hle, hlt, haccepts⟩
        exact ⟨place, by omega, by omega, haccepts⟩
      · rintro ⟨place, hle, hlt, haccepts⟩
        refine ⟨place, Nat.lt_of_le_of_ne hle ?_, by omega, haccepts⟩
        rintro rfl
        exact hnot haccepts

/-- A search finds a match exactly if a run from some place accepts. -/
theorem search?_isSome_iff (hp : p.IsClosed) (hcode : 0 < p.code.size) :
    p.search?.isSome = true ↔ ∃ place ≤ p.text.size, p.Accepts (0, place) := by
  have hblank : ∀ spot, p.InRange spot →
      ¬p.Tried (Array.replicate (p.code.size * (p.text.size + 1)) false) spot := by
    intro spot hspot
    simp [Tried, key_lt hspot]
  rw [search?, searchFrom_isSome_iff hp hcode (Nat.le_of_eq (Nat.zero_add _))]
  · refine exists_congr fun place => ?_
    rw [Nat.zero_add, Nat.lt_succ_iff]
    exact ⟨fun ⟨_, h⟩ => h, fun h => ⟨Nat.zero_le place, h⟩⟩
  · exact ⟨by simp, by simp, fun spot hspot h => absurd h (hblank spot hspot),
      fun spot hspot h => absurd h (hblank spot hspot)⟩

end runs

end Program

end RequestDispatch.Regex
