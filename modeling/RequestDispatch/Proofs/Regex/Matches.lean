import RequestDispatch.Proofs.Regex.Search

/-! # What an expression matches

An expression is a relation between places of a text. Its code moves a run along the relation, so
a search finds a match if and only if there is one. -/
namespace RequestDispatch.Regex

/-! ### The code of an expression leads nowhere else -/

def Instruction.targets (pc : Nat) : Instruction → List Nat
  | .take _ | .check _ | .note _ => [pc + 1]
  | .jump target => [target]
  | .fork first second => [first, second]
  | .accept => []

def StaysWithin (start : Nat) (block : List Instruction) : Prop :=
  ∀ i ins, block[i]? = some ins → ∀ target ∈ Instruction.targets (start + i) ins,
    target ≤ start + block.length

namespace StaysWithin

variable {start : Nat} {a b : List Instruction} {ins : Instruction}

theorem append (ha : StaysWithin start a) (hb : StaysWithin (start + a.length) b) :
    StaysWithin start (a ++ b) := by
  intro i ins hi target ht
  rw [List.length_append]
  rcases Nat.lt_or_ge i a.length with hlt | hge
  · rw [List.getElem?_append_left hlt] at hi
    have := ha i ins hi target ht
    omega
  · rw [List.getElem?_append_right hge] at hi
    rw [show start + i = start + a.length + (i - a.length) by omega] at ht
    have := hb _ ins hi target ht
    omega

theorem cons (hhead : ∀ target ∈ ins.targets start, target ≤ start + 1 + b.length)
    (hb : StaysWithin (start + 1) b) : StaysWithin start (ins :: b) := by
  intro i other hi target ht
  rw [List.length_cons]
  cases i with
  | zero =>
    cases hi
    have := hhead target ht
    omega
  | succ i =>
    rw [show start + (i + 1) = start + 1 + i by omega] at ht
    have := hb i other hi target ht
    omega

theorem nil : StaysWithin start [] := by
  intro i ins hi
  simp at hi

end StaysWithin

theorem mem_targets_preferring {greedy : Bool} {pc more stop target : Nat} :
    target ∈ (preferring greedy more stop).targets pc ↔ target = more ∨ target = stop := by
  cases greedy <;> simp [preferring, Instruction.targets, or_comm]

structure IsBlock (size : Nat) (code : Nat → List Instruction) : Prop where
  length : ∀ start, (code start).length = size
  stays : ∀ start, StaysWithin start (code start)

namespace IsBlock

variable {body : Nat → List Instruction} {size : Nat}

theorem copies (h : IsBlock size body) (count : Nat) :
    IsBlock (count * size) (Regex.copies body count) := by
  induction count with
  | zero => exact ⟨fun _ => by simp [Regex.copies], fun _ => .nil⟩
  | succ count ih =>
    constructor
    · intro start
      rw [Regex.copies, List.length_append, ih.length, h.length, Nat.succ_mul, Nat.add_comm]
    · intro start
      exact (h.stays start).append (ih.stays _)

theorem oneOrMore (h : IsBlock size body) (greedy : Bool) :
    IsBlock (size + 1) (Regex.oneOrMore body greedy) := by
  constructor
  · intro start
    rw [Regex.oneOrMore, List.length_append, h.length, List.length_singleton]
  · intro start
    refine (h.stays start).append (.cons ?_ .nil)
    intro target ht
    have := mem_targets_preferring.1 ht
    simp only [List.length_nil]
    omega

theorem length_optional (h : IsBlock size body) (greedy : Bool) (stop count start : Nat) :
    (optional body greedy stop count start).length = count * (size + 1) := by
  induction count generalizing start with
  | zero => simp [optional]
  | succ count ih =>
    rw [optional, List.cons_append, List.length_cons, List.length_append, ih, h.length,
      Nat.succ_mul]
    omega

theorem stays_optional (h : IsBlock size body) (greedy : Bool) {stop count start : Nat}
    (hstop : stop = start + count * (size + 1)) :
    StaysWithin start (optional body greedy stop count start) := by
  induction count generalizing start with
  | zero => exact .nil
  | succ count ih =>
    rw [Nat.succ_mul] at hstop
    rw [optional, List.cons_append]
    refine .cons ?_ ((h.stays _).append (ih ?_))
    · intro target ht
      have := mem_targets_preferring.1 ht
      rw [List.length_append, h.length, h.length_optional]
      omega
    · rw [h.length]
      omega

end IsBlock

theorem Node.isBlock_code (n : Node) : ∃ size, IsBlock size n.code := by
  induction n with
  | empty => exact ⟨0, fun _ => rfl, fun _ => .nil⟩
  | set s => exact ⟨1, fun _ => rfl, fun _ => .cons (by simp [Instruction.targets]) .nil⟩
  | look l => exact ⟨1, fun _ => rfl, fun _ => .cons (by simp [Instruction.targets]) .nil⟩
  | group g body ih =>
    obtain ⟨size, h⟩ := ih
    refine ⟨size + 2, fun start => by simp [Node.code, h.length], fun start => ?_⟩
    refine .append (.cons ?_ (h.stays _)) (.cons (by simp [Instruction.targets]) .nil)
    simp [Instruction.targets]
  | seq a b iha ihb =>
    obtain ⟨sizeA, ha⟩ := iha
    obtain ⟨sizeB, hb⟩ := ihb
    refine ⟨sizeA + sizeB, fun start => by simp [Node.code, ha.length, hb.length], fun start => ?_⟩
    exact (ha.stays start).append (hb.stays _)
  | alt a b iha ihb =>
    obtain ⟨sizeA, ha⟩ := iha
    obtain ⟨sizeB, hb⟩ := ihb
    refine ⟨sizeA + sizeB + 2, fun start => ?_, fun start => ?_⟩
    · simp only [Node.code, List.length_append, List.length_cons, ha.length, hb.length]
      omega
    · rw [Node.code, List.cons_append]
      refine .cons ?_ ((ha.stays _).append (.cons ?_ (hb.stays _)))
      · simp only [Instruction.targets, List.mem_cons, List.not_mem_nil, or_false,
          forall_eq_or_imp, forall_eq, List.length_append, List.length_cons]
        omega
      · simp only [Instruction.targets, List.mem_singleton, forall_eq]
        omega
  | rep min max greedy body ih =>
    obtain ⟨size, h⟩ := ih
    match min, max with
    | 0, none =>
      refine ⟨size + 2, fun start => ?_, fun start => ?_⟩
      · simp [Node.code, (h.oneOrMore greedy).length]
      · refine .cons ?_ ((h.oneOrMore greedy).stays _)
        intro target ht
        have := mem_targets_preferring.1 ht
        rw [(h.oneOrMore greedy).length] at this ⊢
        omega
    | min + 1, none =>
      refine ⟨min * size + (size + 1), fun start => ?_, fun start => ?_⟩
      · simp [Node.code, (h.oneOrMore greedy).length, (h.copies min).length]
      · exact ((h.copies min).stays start).append ((h.oneOrMore greedy).stays _)
    | min, some max =>
      refine ⟨min * size + (max - min) * (size + 1), fun start => ?_, fun start => ?_⟩
      · simp [Node.code, (h.copies min).length, h.length_optional]
      · rw [Node.code]
        refine ((h.copies min).stays start).append (h.stays_optional greedy ?_)
        rw [h.length]

theorem Program.mem_nexts {p : Program} {spot next : Nat × Nat} (h : next ∈ p.nexts spot) :
    ∃ ins, p.code[spot.1]? = some ins ∧ next.1 ∈ ins.targets spot.1 ∧
      (spot.2 ≤ p.text.size → next.2 ≤ p.text.size) := by
  obtain ⟨pc, place⟩ := spot
  cases hcode : p.code[pc]? with
  | none => simp [nexts_none hcode] at h
  | some ins =>
    refine ⟨ins, rfl, ?_⟩
    cases ins with
    | take s =>
      rw [nexts_take hcode, List.mem_ite_nil_right, List.mem_singleton] at h
      obtain ⟨hany, rfl⟩ := h
      have hlt : place < p.text.size := by
        refine Nat.lt_of_not_le fun hle => ?_
        rw [Array.getElem?_eq_none hle] at hany
        cases hany
      exact ⟨List.mem_cons_self, fun _ => hlt⟩
    | check l =>
      rw [nexts_check hcode, List.mem_ite_nil_right, List.mem_singleton] at h
      obtain ⟨-, rfl⟩ := h
      exact ⟨List.mem_cons_self, id⟩
    | note slot =>
      rw [nexts_note hcode, List.mem_singleton] at h
      subst h
      exact ⟨List.mem_cons_self, id⟩
    | jump target =>
      rw [nexts_jump hcode, List.mem_singleton] at h
      subst h
      exact ⟨List.mem_cons_self, id⟩
    | fork first second =>
      rw [nexts_fork hcode, List.mem_cons, List.mem_singleton] at h
      rcases h with rfl | rfl <;> simp [Instruction.targets]
    | accept => simp [nexts_accept hcode] at h

def Node.program (n : Node) (s : List Char) : Program :=
  ⟨(n.code 0 ++ [Instruction.accept]).toArray, s.toArray⟩

theorem Node.isClosed_program (n : Node) (s : List Char) : (n.program s).IsClosed := by
  obtain ⟨size, h⟩ := n.isBlock_code
  intro spot hspot next hnext
  obtain ⟨ins, hcode, htarget, hplace⟩ := Program.mem_nexts hnext
  refine ⟨?_, hplace hspot.2⟩
  simp only [program, List.getElem?_toArray, List.size_toArray, List.length_append,
    List.length_singleton] at hcode ⊢
  rcases Nat.lt_or_ge spot.1 (n.code 0).length with hlt | hge
  · rw [List.getElem?_append_left hlt] at hcode
    have := h.stays 0 spot.1 ins hcode next.1 (by rwa [Nat.zero_add])
    omega
  · rw [List.getElem?_append_right hge] at hcode
    obtain rfl := List.mem_singleton.1 (List.mem_of_getElem? hcode)
    cases htarget

/-! ### Expressions as relations between places -/

def Times (R : Nat → Nat → Prop) : Nat → Nat → Nat → Prop
  | 0, i, j => i = j
  | count + 1, i, j => ∃ k, R i k ∧ Times R count k j

theorem times_add {R : Nat → Nat → Prop} {a b i j : Nat} :
    Times R (a + b) i j ↔ ∃ k, Times R a i k ∧ Times R b k j := by
  induction a generalizing i with
  | zero => simp [Times]
  | succ a ih =>
    rw [Nat.succ_add]
    constructor
    · rintro ⟨k, hR, h⟩
      obtain ⟨l, ha, hb⟩ := ih.1 h
      exact ⟨l, ⟨k, hR, ha⟩, hb⟩
    · rintro ⟨l, ⟨k, hR, ha⟩, hb⟩
      exact ⟨k, hR, ih.2 ⟨l, ha, hb⟩⟩

theorem exists_times_add {R : Nat → Nat → Prop} {P : Nat → Prop} {a i j : Nat} :
    (∃ k, Times R a i k ∧ ∃ c, P c ∧ Times R c k j) ↔
      ∃ count, a ≤ count ∧ P (count - a) ∧ Times R count i j := by
  constructor
  · rintro ⟨k, ha, c, hP, hc⟩
    refine ⟨a + c, Nat.le_add_right a c, ?_, times_add.2 ⟨k, ha, hc⟩⟩
    rwa [Nat.add_sub_cancel_left]
  · rintro ⟨count, hle, hP, hcount⟩
    rw [← Nat.add_sub_cancel' hle, times_add] at hcount
    obtain ⟨k, ha, hc⟩ := hcount
    exact ⟨k, ha, count - a, hP, hc⟩

def Node.Matches (s : List Char) : Node → Nat → Nat → Prop
  | .empty, i, j => i = j
  | .set cs, i, j => s[i]?.any cs.contains = true ∧ i + 1 = j
  | .look l, i, j => l.holds (if i = 0 then none else s[i - 1]?) s[i]? = true ∧ i = j
  | .group _ body, i, j => body.Matches s i j
  | .seq a b, i, j => ∃ k, a.Matches s i k ∧ b.Matches s k j
  | .alt a b, i, j => a.Matches s i j ∨ b.Matches s i j
  | .rep min max _ body, i, j =>
    ∃ count, min ≤ count ∧ (∀ m ∈ max, count - min ≤ m - min) ∧ Times (body.Matches s) count i j

/-- The code between the two instructions moves a run along the relation. A run that leaves it has
not become longer, which is what carries the proofs about loops. -/
structure Moves (p : Program) (R : Nat → Nat → Prop) (start stop : Nat) : Prop where
  enter : ∀ {i j}, R i j → p.Accepts (stop, j) → p.Accepts (start, i)
  leave : ∀ {steps i}, p.AcceptsIn steps (start, i) →
    ∃ j, R i j ∧ ∃ fewer ≤ steps, p.AcceptsIn fewer (stop, j)

namespace Moves

variable {p : Program} {R S : Nat → Nat → Prop} {a b c : Nat}

theorem congr (h : Moves p R a b) (hiff : ∀ i j, R i j ↔ S i j) : Moves p S a b where
  enter hS haccepts := h.enter ((hiff _ _).2 hS) haccepts
  leave haccepts := by
    obtain ⟨j, hR, hfewer⟩ := h.leave haccepts
    exact ⟨j, (hiff _ _).1 hR, hfewer⟩

theorem refl (p : Program) (a : Nat) : Moves p Eq a a where
  enter := by
    rintro i j rfl haccepts
    exact haccepts
  leave haccepts := ⟨_, rfl, _, Nat.le_refl _, haccepts⟩

theorem trans (hR : Moves p R a b) (hS : Moves p S b c) :
    Moves p (fun i j => ∃ k, R i k ∧ S k j) a c where
  enter := by
    rintro i j ⟨k, hik, hkj⟩ haccepts
    exact hR.enter hik (hS.enter hkj haccepts)
  leave haccepts := by
    obtain ⟨k, hik, n, hn, haccepts⟩ := hR.leave haccepts
    obtain ⟨j, hkj, m, hm, haccepts⟩ := hS.leave haccepts
    exact ⟨j, ⟨k, hik, hkj⟩, m, Nat.le_trans hm hn, haccepts⟩

theorem of_nexts {ins : Instruction} (cond : Nat → Bool) (place : Nat → Nat)
    (hcode : p.code[a]? = some ins) (hins : ins ≠ .accept)
    (hnexts : ∀ i, p.nexts (a, i) = if cond i then [(b, place i)] else []) :
    Moves p (fun i j => cond i = true ∧ place i = j) a b where
  enter := by
    rintro i j ⟨hcond, rfl⟩ haccepts
    refine haccepts.step ?_
    rw [hnexts, if_pos hcond]
    exact List.mem_singleton_self _
  leave {steps i} haccepts := by
    obtain ⟨next, hnext, fewer, hlt, haccepts⟩ := haccepts.next (by simpa [hcode] using hins)
    rw [hnexts, List.mem_ite_nil_right, List.mem_singleton] at hnext
    obtain ⟨hcond, rfl⟩ := hnext
    exact ⟨_, ⟨hcond, rfl⟩, fewer, Nat.le_of_lt hlt, haccepts⟩

theorem note {slot : Nat} (hcode : p.code[a]? = some (.note slot)) : Moves p Eq a (a + 1) := by
  refine (of_nexts (fun _ => true) id hcode nofun ?_).congr ?_
  · exact fun _ => p.nexts_note hcode
  · simp

theorem jump {target : Nat} (hcode : p.code[a]? = some (.jump target)) (htarget : target = b) :
    Moves p Eq a b := by
  subst htarget
  refine (of_nexts (fun _ => true) id hcode nofun ?_).congr ?_
  · exact fun _ => p.nexts_jump hcode
  · simp

/-- The places to go to from a fork. -/
def Forks (p : Program) (a b c : Nat) : Prop :=
  ∀ i next, next ∈ p.nexts (a, i) ↔ next = (b, i) ∨ next = (c, i)

theorem forks_of_fork (h : p.code[a]? = some (.fork b c)) : Forks p a b c := by
  intro i next
  simp [p.nexts_fork h]

theorem forks_of_preferring {greedy : Bool} (h : p.code[a]? = some (preferring greedy b c)) :
    Forks p a b c := by
  cases greedy with
  | true => exact forks_of_fork h
  | false => exact fun i next => (forks_of_fork h i next).trans or_comm

theorem Forks.ne_accept (h : Forks p a b c) : p.code[a]? ≠ some .accept := by
  intro haccept
  have := (h 0 (b, 0)).2 (.inl rfl)
  simp [p.nexts_accept haccept] at this

theorem fork {d : Nat} (h : Forks p a b c) (hR : Moves p R b d) (hS : Moves p S c d) :
    Moves p (fun i j => R i j ∨ S i j) a d where
  enter := by
    rintro i j (h' | h') haccepts
    · exact (hR.enter h' haccepts).step ((h i _).2 (.inl rfl))
    · exact (hS.enter h' haccepts).step ((h i _).2 (.inr rfl))
  leave {steps i} haccepts := by
    obtain ⟨next, hnext, n, hn, haccepts⟩ := haccepts.next h.ne_accept
    rcases (h i next).1 hnext with rfl | rfl
    · obtain ⟨j, h', m, hm, haccepts⟩ := hR.leave haccepts
      exact ⟨j, .inl h', m, by omega, haccepts⟩
    · obtain ⟨j, h', m, hm, haccepts⟩ := hS.leave haccepts
      exact ⟨j, .inr h', m, by omega, haccepts⟩

theorem loop (hR : Moves p R a b) (h : Forks p b a c) :
    Moves p (fun i j => ∃ count, 0 < count ∧ Times R count i j) a c where
  enter := by
    rintro i j ⟨count, hpos, hcount⟩ haccepts
    induction count generalizing i with
    | zero => cases hpos
    | succ count ih =>
      obtain ⟨k, hik, hcount⟩ := hcount
      refine hR.enter hik ?_
      rcases Nat.eq_zero_or_pos count with rfl | hpos
      · obtain rfl := hcount
        exact haccepts.step ((h k _).2 (.inr rfl))
      · exact (ih hpos hcount).step ((h k _).2 (.inl rfl))
  leave {steps i} haccepts := by
    -- on the number of steps, since a body that matches the empty text comes back to its place
    induction steps using Nat.strongRecOn generalizing i with
    | ind steps ih =>
      obtain ⟨k, hik, n, hn, haccepts⟩ := hR.leave haccepts
      obtain ⟨next, hnext, m, hm, haccepts⟩ := haccepts.next h.ne_accept
      rcases (h k next).1 hnext with rfl | rfl
      · obtain ⟨j, ⟨count, -, hcount⟩, l, hl, haccepts⟩ := ih m (by omega) haccepts
        exact ⟨j, ⟨count + 1, Nat.succ_pos count, k, hik, hcount⟩, l, by omega, haccepts⟩
      · exact ⟨k, ⟨1, Nat.one_pos, k, hik, rfl⟩, m, by omega, haccepts⟩

end Moves

def Program.Holds (p : Program) (start : Nat) (block : List Instruction) : Prop :=
  ∀ i ins, block[i]? = some ins → p.code[start + i]? = some ins

namespace Program.Holds

variable {p : Program} {start : Nat} {a b : List Instruction} {ins : Instruction}

theorem left (h : p.Holds start (a ++ b)) : p.Holds start a := by
  intro i ins hi
  have hlt : i < a.length := (List.getElem?_eq_some_iff.1 hi).1
  exact h i ins (by rwa [List.getElem?_append_left hlt])

theorem right (h : p.Holds start (a ++ b)) : p.Holds (start + a.length) b := by
  intro i ins hi
  rw [Nat.add_assoc]
  refine h (a.length + i) ins ?_
  rwa [List.getElem?_append_right (Nat.le_add_right _ _), Nat.add_sub_cancel_left]

theorem head (h : p.Holds start (ins :: b)) : p.code[start]? = some ins :=
  h 0 ins rfl

theorem tail (h : p.Holds start (ins :: b)) : p.Holds (start + 1) b :=
  right (a := [ins]) h

end Program.Holds

namespace Moves

variable {p : Program} {R : Nat → Nat → Prop} {body : Nat → List Instruction} {size : Nat}

def Everywhere (p : Program) (R : Nat → Nat → Prop) (body : Nat → List Instruction)
    (size : Nat) : Prop :=
  ∀ start, p.Holds start (body start) → Moves p R start (start + size)

theorem copies (hb : IsBlock size body) (hR : Everywhere p R body size) (count : Nat) :
    Everywhere p (Times R count) (Regex.copies body count) (count * size) := by
  induction count with
  | zero =>
    intro start _
    simpa [Times] using refl p start
  | succ count ih =>
    intro start h
    rw [Regex.copies] at h
    have hrest := ih _ h.right
    rw [hb.length, Nat.add_assoc, ← Nat.add_comm (count * size), ← Nat.succ_mul] at hrest
    exact (hR start h.left).trans hrest

theorem oneOrMore (hb : IsBlock size body) (hR : Everywhere p R body size) (greedy : Bool) :
    Everywhere p (fun i j => ∃ count, 0 < count ∧ Times R count i j)
      (Regex.oneOrMore body greedy) (size + 1) := by
  intro start h
  have hfork := h.right.head
  rw [hb.length] at hfork
  exact (hR start h.left).loop (forks_of_preferring hfork)

theorem optional (hb : IsBlock size body) (hR : Everywhere p R body size) (greedy : Bool)
    {stop count start : Nat} (hstop : stop = start + count * (size + 1))
    (h : p.Holds start (Regex.optional body greedy stop count start)) :
    Moves p (fun i j => ∃ c ≤ count, Times R c i j) start stop := by
  induction count generalizing start with
  | zero =>
    obtain rfl : stop = start := by simpa using hstop
    exact (refl p stop).congr fun i j => by simp [Times]
  | succ count ih =>
    rw [Nat.succ_mul] at hstop
    have hrest := h.tail.right
    rw [hb.length] at hrest
    have hmore := (hR _ h.tail.left).trans (ih (by omega) hrest)
    refine (fork (forks_of_preferring h.head) hmore (refl p stop)).congr fun i j => ?_
    constructor
    · rintro (⟨k, hik, c, hc, hcount⟩ | rfl)
      · exact ⟨c + 1, Nat.succ_le_succ hc, k, hik, hcount⟩
      · exact ⟨0, Nat.zero_le _, rfl⟩
    · rintro ⟨_ | c, hc, hcount⟩
      · exact .inr hcount
      · obtain ⟨k, hik, hcount⟩ := hcount
        exact .inl ⟨k, hik, c, Nat.le_of_succ_le_succ hc, hcount⟩

end Moves

theorem moves_code {code : Array Instruction} {s : List Char} (n : Node) {start stop : Nat}
    (h : Program.Holds ⟨code, s.toArray⟩ start (n.code start))
    (hstop : stop = start + (n.code start).length) :
    Moves ⟨code, s.toArray⟩ (n.Matches s) start stop := by
  induction n generalizing start stop with
  | empty =>
    obtain rfl : stop = start := hstop
    exact .refl _ stop
  | set cs =>
    subst hstop
    refine .of_nexts (fun i => s[i]?.any cs.contains) (· + 1) h.head nofun fun i => ?_
    rw [Program.nexts_take h.head, List.getElem?_toArray]
    rfl
  | look l =>
    subst hstop
    refine .of_nexts (fun i => l.holds (if i = 0 then none else s[i - 1]?) s[i]?) id h.head nofun
      fun i => ?_
    rw [Program.nexts_check h.head, List.getElem?_toArray, List.getElem?_toArray]
    rfl
  | group g body ih =>
    have hclose := Moves.note h.right.head
    obtain rfl : stop = start + (body.code (start + 1)).length + 1 + 1 := by
      simp only [Node.code, List.length_append, List.length_cons, List.length_nil] at hstop
      omega
    refine (((Moves.note h.head).trans (ih h.left.tail (by simp; omega))).trans hclose).congr ?_
    intro i j
    simp [Node.Matches]
  | seq a b iha ihb =>
    refine (iha h.left rfl).trans (ihb h.right ?_)
    rw [hstop, Node.code, List.length_append, Nat.add_assoc]
  | alt a b iha ihb =>
    rw [Node.code, List.cons_append] at h hstop
    simp only [List.length_append, List.length_cons] at hstop
    have hfork : Moves.Forks ⟨code, s.toArray⟩ start _ _ :=
      Moves.forks_of_fork h.head
    have hjump : Moves ⟨code, s.toArray⟩ Eq _ stop := .jump h.tail.right.head (by omega)
    have hb : Moves ⟨code, s.toArray⟩ (b.Matches s) _ stop := ihb h.tail.right.tail (by omega)
    refine (Moves.fork hfork ((iha h.tail.left rfl).trans hjump) hb).congr fun i j => ?_
    simp [Node.Matches]
  | rep min max greedy body ih =>
    obtain ⟨size, hblock⟩ := body.isBlock_code
    have hbody : Moves.Everywhere ⟨code, s.toArray⟩ (body.Matches s) body.code size := by
      intro start hstart
      exact ih hstart (by rw [hblock.length])
    match min, max with
    | 0, none =>
      have hloop := Moves.oneOrMore hblock hbody greedy _ h.tail
      have hlength := (hblock.oneOrMore greedy).length (start + 1)
      have hfork := h.head
      simp only [Node.code, List.length_cons, hlength] at hstop hfork
      obtain rfl : stop = start + 1 + (size + 1) := by omega
      refine (Moves.fork (Moves.forks_of_preferring hfork) hloop (.refl _ _)).congr fun i j => ?_
      constructor
      · rintro (⟨count, -, hcount⟩ | rfl)
        · exact ⟨count, Nat.zero_le count, nofun, hcount⟩
        · exact ⟨0, Nat.le_refl 0, nofun, rfl⟩
      · rintro ⟨_ | count, -, -, hcount⟩
        · exact .inr hcount
        · exact .inl ⟨count + 1, Nat.succ_pos count, hcount⟩
    | min + 1, none =>
      have hcopies := Moves.copies hblock hbody min _ h.left
      have hloop := Moves.oneOrMore hblock hbody greedy _ h.right
      rw [(hblock.copies min).length] at hloop
      simp only [Node.code, List.length_append, (hblock.copies min).length,
        (hblock.oneOrMore greedy).length] at hstop
      obtain rfl : stop = start + min * size + (size + 1) := by omega
      refine (hcopies.trans hloop).congr fun i j => exists_times_add.trans ?_
      refine exists_congr fun count => ?_
      simp only [Option.not_mem_none, false_imp_iff, implies_true, true_and, ← and_assoc]
      exact and_congr_left fun _ => by omega
    | min, some max =>
      rw [Node.code] at h hstop
      have hright := h.right
      simp only [(hblock.copies min).length, hblock.length] at hright
      simp only [List.length_append, (hblock.copies min).length, hblock.length_optional] at hstop
      obtain rfl : stop = start + min * size + (max - min) * (size + 1) := by omega
      refine (Moves.trans (Moves.copies hblock hbody min _ h.left)
        (.optional hblock hbody greedy rfl hright)).congr fun i j => exists_times_add.trans ?_
      simp [Node.Matches]

/-- A search finds a match if and only if the expression matches somewhere in the text. -/
theorem Node.search?_isSome_iff (n : Node) (s : List Char) :
    (n.search? s).isSome = true ↔ ∃ i ≤ s.length, ∃ j, n.Matches s i j := by
  have hcode : 0 < (n.program s).code.size := by simp [program]
  have hholds : (n.program s).Holds 0 (n.code 0) := by
    intro i ins hi
    have hlt : i < (n.code 0).length := (List.getElem?_eq_some_iff.1 hi).1
    simpa [program, List.getElem?_append_left hlt] using hi
  have haccept : ∀ j, (n.program s).Accepts ((n.code 0).length, j) :=
    fun j => ⟨0, .here (by simp [program])⟩
  have hmoves := moves_code n hholds rfl
  rw [Nat.zero_add] at hmoves
  refine (Program.search?_isSome_iff (n.isClosed_program s) hcode).trans ?_
  refine exists_congr fun i => and_congr_right fun _ => ?_
  constructor
  · rintro ⟨steps, haccepts⟩
    obtain ⟨j, hmatches, -⟩ := hmoves.leave haccepts
    exact ⟨j, hmatches⟩
  · rintro ⟨j, hmatches⟩
    exact hmoves.enter hmatches (haccept j)

end RequestDispatch.Regex
