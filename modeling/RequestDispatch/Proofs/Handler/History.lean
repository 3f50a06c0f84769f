import Mathlib.Data.List.Induction
import RequestDispatch.Proofs.Handler.Shadowing

/-! # Histories of a chain of containers

Calls may come in any order and go to any container of a chain: declarations, removals, and
questions. What a container has under a name is what was declared there last, unless it was removed
since; questions change nothing but whether the bean is created. -/
namespace RequestDispatch

def Slot.serial? : Slot → Option Nat
  | .ready _ => none
  | .lazy serial _ _ => some serial

/-- The definition as it was before its bean was created. -/
def Definition.asDeclared (d : Definition) : Definition :=
  match d.slot with
  | .ready _ => d
  | .lazy serial factory _ => { d with slot := .lazy serial factory none }

theorem Definition.serial?_asDeclared (d : Definition) :
    d.asDeclared.slot.serial? = d.slot.serial? := by
  obtain ⟨type?, slot⟩ := d
  cases slot <;> rfl

namespace Containers

variable {depth : Nat} {c : Containers} {level owner : Nat} {name : String} {d : Definition}

inductive Call (depth : Nat) where
  | declare (level : Fin (depth + 1)) (d : Declaration)
  | remove (level : Fin (depth + 1)) (name : String)
  | names (level : Fin (depth + 1)) (ancestors : Bool)
  | typeOf (level : Fin (depth + 1)) (name : String)
  | bean (level : Fin (depth + 1)) (name : String)

def chain : Nat → Containers
  | 0 => single
  | depth + 1 => (chain depth).child

def perform (c : Containers) : Call depth → Containers
  | .declare level d => c.declare level d
  | .remove level name => c.remove level name
  | .names _ _ => c
  | .typeOf _ _ => c
  | .bean level name => (c.bean level name).2

def run (c : Containers) (calls : List (Call depth)) : Containers :=
  calls.foldl perform c

theorem run_concat (c : Containers) (calls : List (Call depth)) (call : Call depth) :
    c.run (calls ++ [call]) = (c.run calls).perform call := by
  rw [run, List.foldl_append]
  rfl

/-- The call declares the name anew in the container at `owner`, or removes it there. -/
def Call.redefines (owner : Fin (depth + 1)) (name : String) : Call depth → Bool
  | .declare level d => level = owner && d.name = name
  | .remove level n => level = owner && n = name
  | _ => false

/-! ### The definitions of a chain -/

/-- What is declared at `level` under `name`, whether the bean has been created or not. -/
def declaredAt? (c : Containers) (level : Nat) (name : String) : Option Definition :=
  (c.definition? level name).map (·.asDeclared)

def serialAt? (c : Containers) (level : Nat) (name : String) : Option Nat :=
  (c.definition? level name).bind (·.slot.serial?)

theorem serialAt?_of_definition? (h : c.definition? level name = some d) :
    c.serialAt? level name = d.slot.serial? := by
  rw [serialAt?, h, Option.bind_some]

theorem serialAt?_eq (c : Containers) (level : Nat) (name : String) :
    c.serialAt? level name = (c.declaredAt? level name).bind (·.slot.serial?) := by
  rw [serialAt?, declaredAt?]
  cases c.definition? level name with
  | none => rfl
  | some d => exact d.serial?_asDeclared.symm

/-- The serials of all lazy definitions that there ever were. -/
def serials (c : Containers) : List Nat :=
  c.records.map (·.serial)

def declared (c : Containers) (d : Declaration) : Definition :=
  match d.supply with
  | .ready type label => ⟨some type, .ready (.created c.nextSerial label)⟩
  | .lazy type? factory => ⟨type?, .lazy c.nextSerial factory none⟩

def newRecord (c : Containers) (d : Declaration) : List FactoryRecord :=
  match d.supply with
  | .ready _ _ => []
  | .lazy _ _ => [⟨c.nextSerial, d.name, 0⟩]

theorem declare_eq (c : Containers) (level : Nat) (d : Declaration) :
    c.declare level d =
      { c.keep level d.name (c.declared d) with records := c.records ++ c.newRecord d } := by
  obtain ⟨n, supply⟩ := d
  cases supply with
  | ready type label => simp [declare, keep, declared, newRecord, setLayer]
  | lazy type? factory => rfl

theorem nextSerial_declare (c : Containers) (level : Nat) (d : Declaration) :
    (c.declare level d).nextSerial = c.nextSerial + 1 := by
  rw [declare_eq]
  rfl

theorem definition?_declare (h : level < c.layers.length) (d : Declaration) (k : Nat) (n : String) :
    (c.declare level d).definition? k n =
      if k = level ∧ n = d.name then some (c.declared d) else c.definition? k n := by
  rw [declare_eq]
  exact definition?_keep h _ k n

theorem definition?_remove (h : level < c.layers.length) (k : Nat) (n : String) :
    (c.remove level name).definition? k n =
      if k = level ∧ n = name then none else c.definition? k n :=
  definition?_setLayer h (fun l n => Assoc.find?_remove l name n) k n

theorem asDeclared_declared (c : Containers) (d : Declaration) :
    (c.declared d).asDeclared = c.declared d := by
  obtain ⟨n, supply⟩ := d
  cases supply <;> rfl

theorem declaredAt?_declare (h : level < c.layers.length) (d : Declaration) (k : Nat) (n : String) :
    (c.declare level d).declaredAt? k n =
      if k = level ∧ n = d.name then some (c.declared d) else c.declaredAt? k n := by
  rw [declaredAt?, definition?_declare h]
  split
  · exact congrArg some (c.asDeclared_declared d)
  · rfl

theorem declaredAt?_remove (h : level < c.layers.length) (k : Nat) (n : String) :
    (c.remove level name).declaredAt? k n =
      if k = level ∧ n = name then none else c.declaredAt? k n := by
  rw [declaredAt?, definition?_remove h]
  split <;> rfl

theorem serialAt?_declare (h : level < c.layers.length) (d : Declaration) (k : Nat) (n : String) :
    (c.declare level d).serialAt? k n =
      if k = level ∧ n = d.name then (c.declared d).slot.serial? else c.serialAt? k n := by
  rw [serialAt?_eq, declaredAt?_declare h, serialAt?_eq]
  split <;> rfl

theorem serialAt?_remove (h : level < c.layers.length) (k : Nat) (n : String) :
    (c.remove level name).serialAt? k n =
      if k = level ∧ n = name then none else c.serialAt? k n := by
  rw [serialAt?_eq, declaredAt?_remove h, serialAt?_eq]
  split <;> rfl

theorem eq_nextSerial_of_declared {d : Declaration} {serial : Nat}
    (h : (c.declared d).slot.serial? = some serial) : serial = c.nextSerial := by
  obtain ⟨n, supply⟩ := d
  cases supply with
  | ready type label => cases h
  | lazy type? factory =>
    cases h
    rfl

theorem serials_declare (c : Containers) (level : Nat) (d : Declaration) :
    (c.declare level d).serials = c.serials ++ (c.declared d).slot.serial?.toList := by
  rw [declare_eq]
  refine List.map_append.trans (congrArg _ ?_)
  obtain ⟨n, supply⟩ := d
  cases supply <;> rfl

/-! ### Counting calls -/

theorem serials_countCall (c : Containers) (serial : Nat) :
    (c.countCall serial).serials = c.serials := by
  simp only [serials, countCall, List.map_map]
  refine List.map_congr_left fun r _ => ?_
  dsimp only [Function.comp_apply]
  split <;> rfl

theorem callsOf_of_notMem {serial : Nat} (h : serial ∉ c.serials) : c.callsOf serial = 0 := by
  have hnone : c.records.find? (fun r => r.serial = serial) = none := by
    refine List.find?_eq_none.2 fun r hr hs => h ?_
    exact List.mem_map.2 ⟨r, hr, of_decide_eq_true hs⟩
  rw [callsOf, hnone]
  rfl

theorem callsOf_declare (c : Containers) (level : Nat) (d : Declaration) (serial : Nat) :
    (c.declare level d).callsOf serial = c.callsOf serial := by
  rw [declare_eq, callsOf, callsOf, List.find?_append]
  cases c.records.find? fun r => r.serial = serial with
  | some r => rfl
  | none =>
    obtain ⟨n, supply⟩ := d
    cases supply with
    | ready type label => rfl
    | lazy type? factory => by_cases h : c.nextSerial = serial <;> simp [newRecord, h]

theorem find?_countCall (c : Containers) (serial other : Nat) :
    ((c.countCall serial).records.find? fun r => r.serial = other) =
      (c.records.find? fun r => r.serial = other).map fun r =>
        if r.serial = serial then { r with calls := r.calls + 1 } else r := by
  rw [countCall, List.find?_map]
  congr 2
  funext r
  dsimp only [Function.comp_apply]
  split <;> rfl

theorem callsOf_countCall_self {serial : Nat} (h : serial ∈ c.serials) :
    (c.countCall serial).callsOf serial = c.callsOf serial + 1 := by
  obtain ⟨r, hr, hs⟩ := List.mem_map.1 h
  rw [callsOf, callsOf, find?_countCall]
  cases hfound : c.records.find? fun r => r.serial = serial with
  | none =>
    have := List.find?_eq_none.1 hfound r hr
    simp [hs] at this
  | some found =>
    have hserial : found.serial = serial := by simpa using List.find?_some hfound
    simp [hserial]

theorem callsOf_countCall_of_ne {serial other : Nat} (h : other ≠ serial) :
    (c.countCall serial).callsOf other = c.callsOf other := by
  rw [callsOf, callsOf, find?_countCall]
  cases hfound : c.records.find? fun r => r.serial = other with
  | none => rfl
  | some found =>
    have hserial : found.serial = other := by simpa using List.find?_some hfound
    simp [hserial, h]

/-! ### What all calls preserve -/

/-- Every lazy definition has a serial of its own, and its factory is on record. -/
structure Sound (depth : Nat) (c : Containers) : Prop where
  deep : c.layers.length = depth + 1
  keys_nodup : ∀ k, (Assoc.keys (c.layer k)).Nodup
  recorded : ∀ k n serial, c.serialAt? k n = some serial → serial ∈ c.serials
  old : ∀ serial ∈ c.serials, serial < c.nextSerial
  own : ∀ k n k' n' serial, c.serialAt? k n = some serial → c.serialAt? k' n' = some serial →
    k = k' ∧ n = n'

theorem layers_chain (depth : Nat) : (chain depth).layers = List.replicate (depth + 1) [] := by
  induction depth with
  | zero => rfl
  | succ depth ih => rw [chain, child, ih, ← List.replicate_succ]

theorem layer_chain (depth k : Nat) : (chain depth).layer k = [] := by
  rw [layer, layers_chain, List.getElem?_replicate]
  split <;> rfl

theorem serials_chain (depth : Nat) : (chain depth).serials = [] := by
  induction depth with
  | zero => rfl
  | succ depth ih => exact ih

theorem sound_chain (depth : Nat) : Sound depth (chain depth) := by
  have hnone : ∀ k n, (chain depth).serialAt? k n = none := by
    intro k n
    rw [serialAt?, definition?, layer_chain]
    rfl
  constructor
  case deep => rw [layers_chain, List.length_replicate]
  case keys_nodup =>
    intro k
    rw [layer_chain]
    exact List.nodup_nil
  case recorded =>
    intro k n serial h
    rw [hnone] at h
    cases h
  case old =>
    intro serial h
    rw [serials_chain] at h
    cases h
  case own =>
    intro k n k' n' serial h
    rw [hnone] at h
    cases h

theorem nodup_keys_setLayer (hkeys : ∀ k, (Assoc.keys (c.layer k)).Nodup)
    (hlt : level < c.layers.length) {f : Layer → Layer}
    (hf : ∀ l, (Assoc.keys l).Nodup → (Assoc.keys (f l)).Nodup) (k : Nat) :
    (Assoc.keys ((c.setLayer level f).layer k)).Nodup := by
  rw [layer_setLayer c level k f hlt]
  split
  · exact hf _ (hkeys k)
  · exact hkeys k

theorem Sound.lt (hc : Sound depth c) (level : Fin (depth + 1)) : level < c.layers.length := by
  rw [hc.deep]
  exact level.isLt

theorem Sound.declare (hc : Sound depth c) (level : Fin (depth + 1)) (d : Declaration) :
    Sound depth (c.declare level d) := by
  have hlt := hc.lt level
  -- The new serial is none of those on record.
  have hnew : ∀ k n, c.serialAt? k n ≠ some c.nextSerial := fun k n h =>
    Nat.lt_irrefl _ (hc.old _ (hc.recorded k n _ h))
  constructor
  case deep =>
    rw [declare_eq]
    exact (List.length_modify ..).trans hc.deep
  case keys_nodup =>
    rw [declare_eq]
    exact nodup_keys_setLayer hc.keys_nodup hlt fun l hl => Assoc.nodup_keys_put hl d.name _
  case recorded =>
    intro k n serial h
    rw [serials_declare, List.mem_append, Option.mem_toList]
    rw [serialAt?_declare hlt] at h
    split at h
    · exact .inr h
    · exact .inl (hc.recorded k n serial h)
  case old =>
    intro serial h
    rw [serials_declare, List.mem_append, Option.mem_toList] at h
    rw [nextSerial_declare]
    rcases h with h | h
    · exact Nat.lt_succ_of_lt (hc.old serial h)
    · exact Nat.lt_succ_of_le (Nat.le_of_eq (eq_nextSerial_of_declared h))
  case own =>
    intro k n k' n' serial h h'
    rw [serialAt?_declare hlt] at h h'
    split at h
    · next hhere =>
      obtain rfl := eq_nextSerial_of_declared h
      split at h'
      · next hhere' => exact ⟨hhere.1.trans hhere'.1.symm, hhere.2.trans hhere'.2.symm⟩
      · exact absurd h' (hnew k' n')
    · split at h'
      · obtain rfl := eq_nextSerial_of_declared h'
        exact absurd h (hnew k n)
      · exact hc.own k n k' n' serial h h'

theorem Sound.remove (hc : Sound depth c) (level : Fin (depth + 1)) (name : String) :
    Sound depth (c.remove level name) := by
  have hlt := hc.lt level
  have hstill : ∀ k n serial, (c.remove level name).serialAt? k n = some serial →
      c.serialAt? k n = some serial := by
    intro k n serial h
    rw [serialAt?_remove hlt] at h
    split at h
    · cases h
    · exact h
  exact ⟨(List.length_modify ..).trans hc.deep,
    nodup_keys_setLayer hc.keys_nodup hlt fun l hl => Assoc.nodup_keys_remove hl name,
    fun k n serial h => hc.recorded k n serial (hstill k n serial h), hc.old,
    fun k n k' n' serial h h' => hc.own k n k' n' serial (hstill k n serial h)
      (hstill k' n' serial h')⟩

theorem Sound.countCall (hc : Sound depth c) (serial : Nat) : Sound depth (c.countCall serial) :=
  ⟨hc.deep, hc.keys_nodup,
    fun k n s h => (serials_countCall c serial).symm ▸ hc.recorded k n s h,
    fun s h => hc.old s (serials_countCall c serial ▸ h), hc.own⟩

theorem declaredAt?_keep {d' : Definition} (hdefined : c.definition? owner name = some d)
    (hsame : d'.asDeclared = d.asDeclared) (k : Nat) (n : String) :
    (c.keep owner name d').declaredAt? k n = c.declaredAt? k n := by
  rw [declaredAt?, definition?_keep (lt_of_definition? hdefined)]
  split
  · next hhere =>
    rw [declaredAt?, hhere.1, hhere.2, hdefined]
    exact congrArg some hsame
  · rfl

theorem Sound.keep (hc : Sound depth c) {d' : Definition}
    (hdefined : c.definition? owner name = some d)
    (hdeclared : d'.asDeclared = d.asDeclared) : Sound depth (c.keep owner name d') := by
  have hsame : ∀ k n, (c.keep owner name d').serialAt? k n = c.serialAt? k n := by
    intro k n
    rw [serialAt?_eq, serialAt?_eq, declaredAt?_keep hdefined hdeclared]
  exact ⟨(List.length_modify ..).trans hc.deep,
    nodup_keys_setLayer hc.keys_nodup (lt_of_definition? hdefined)
      fun l hl => Assoc.nodup_keys_put hl name d',
    fun k n serial h => hc.recorded k n serial (hsame k n ▸ h),
    fun serial h => Nat.lt_succ_of_lt (hc.old serial h),
    fun k n k' n' serial h h' => hc.own k n k' n' serial (hsame k n ▸ h) (hsame k' n' ▸ h')⟩

theorem Sound.bean (hc : Sound depth c) (level : Nat) (name : String) :
    Sound depth (c.bean level name).2 := by
  rcases bean_cases c level name with ⟨-, hmissing⟩ | ⟨owner, d, hnearest, hsupplied⟩
  · rw [hmissing]
    exact hc
  · generalize c.bean level name = answer at hsupplied
    cases hsupplied with
    | held hheld => exact hc
    | failed hcall => exact hc.countCall _
    | created hcall => exact (hc.countCall _).keep hnearest.defined rfl

theorem declaredAt?_bean (c : Containers) (level : Nat) (name : String) (k : Nat) (n : String) :
    (c.bean level name).2.declaredAt? k n = c.declaredAt? k n := by
  rcases bean_cases c level name with ⟨-, hmissing⟩ | ⟨owner, d, hnearest, hsupplied⟩
  · rw [hmissing]
  · generalize c.bean level name = answer at hsupplied
    cases hsupplied with
    | held hheld => rfl
    | failed hcall => rfl
    | created hcall =>
      refine (declaredAt?_keep (hnearest.countCall _).defined ?_ k n).trans rfl
      rfl

theorem serialAt?_bean (c : Containers) (level : Nat) (name : String) (k : Nat) (n : String) :
    (c.bean level name).2.serialAt? k n = c.serialAt? k n := by
  rw [serialAt?_eq, declaredAt?_bean, serialAt?_eq]

theorem nextSerial_le_bean (c : Containers) (level : Nat) (name : String) :
    c.nextSerial ≤ (c.bean level name).2.nextSerial := by
  rcases bean_cases c level name with ⟨-, hmissing⟩ | ⟨owner, d, hnearest, hsupplied⟩
  · exact Nat.le_of_eq (by rw [hmissing])
  · generalize c.bean level name = answer at hsupplied
    cases hsupplied with
    | held hheld => exact Nat.le_refl _
    | failed hcall => exact Nat.le_refl _
    | created hcall => exact Nat.le_succ _

theorem Sound.perform (hc : Sound depth c) (call : Call depth) : Sound depth (c.perform call) := by
  cases call with
  | declare level d => exact hc.declare level d
  | remove level name => exact hc.remove level name
  | names => exact hc
  | typeOf => exact hc
  | bean level name => exact hc.bean level name

theorem Sound.run (hc : Sound depth c) (calls : List (Call depth)) : Sound depth (c.run calls) := by
  induction calls generalizing c with
  | nil => exact hc
  | cons call rest ih => exact ih (hc.perform call)

/-! ### What was declared last -/

variable {calls before : List (Call depth)} {call : Call depth} {supply : Supply}

/-- After `before` the name was declared at `level`, and it was not declared anew or removed there
since. -/
def DeclaredLast (calls : List (Call depth)) (level : Fin (depth + 1)) (name : String)
    (before : List (Call depth)) (supply : Supply) : Prop :=
  ∃ after, calls = before ++ .declare level ⟨name, supply⟩ :: after ∧
    ∀ call ∈ after, call.redefines level name = false

theorem declaredLast_concat_iff {level : Fin (depth + 1)} :
    DeclaredLast (calls ++ [call]) level name before supply ↔
      (before = calls ∧ call = .declare level ⟨name, supply⟩) ∨
        (call.redefines level name = false ∧ DeclaredLast calls level name before supply) := by
  constructor
  · rintro ⟨after, hcalls, hafter⟩
    rcases List.eq_nil_or_concat after with rfl | ⟨early, last, rfl⟩
    · obtain ⟨rfl, hlast⟩ := List.append_inj' hcalls rfl
      exact .inl ⟨rfl, by simpa using hlast⟩
    · rw [List.concat_eq_append, ← List.cons_append, ← List.append_assoc] at hcalls
      obtain ⟨rfl, hlast⟩ := List.append_inj' hcalls rfl
      obtain rfl : call = last := by simpa using hlast
      exact .inr ⟨hafter call (by simp), early, rfl, fun other hother =>
        hafter other (by simp [hother])⟩
  · rintro (⟨rfl, rfl⟩ | ⟨hkept, after, rfl, hafter⟩)
    · exact ⟨[], rfl, fun _ h => nomatch h⟩
    · refine ⟨after ++ [call], by simp, fun other hother => ?_⟩
      rcases List.mem_append.1 hother with hearlier | hlast
      · exact hafter other hearlier
      · rwa [List.mem_singleton.1 hlast]

theorem ne_of_declare_keeps {k level : Fin (depth + 1)} {d : Declaration}
    (h : (Call.declare k d).redefines level name = false) :
    ¬(level.val = k.val ∧ name = d.name) := by
  rintro ⟨hlevel, hname⟩
  simp [Call.redefines, Fin.ext hlevel, hname] at h

theorem ne_of_remove_keeps {k level : Fin (depth + 1)} {n : String}
    (h : (Call.remove k n).redefines level name = false) : ¬(level.val = k.val ∧ name = n) := by
  rintro ⟨hlevel, hname⟩
  simp [Call.redefines, Fin.ext hlevel, hname] at h

theorem declaredAt?_perform (hc : Sound depth c) {level : Fin (depth + 1)}
    (hkept : call.redefines level name = false) :
    (c.perform call).declaredAt? level name = c.declaredAt? level name := by
  cases call with
  | declare k d => rw [perform, declaredAt?_declare (hc.lt k), if_neg (ne_of_declare_keeps hkept)]
  | remove k n => rw [perform, declaredAt?_remove (hc.lt k), if_neg (ne_of_remove_keeps hkept)]
  | names => rfl
  | typeOf => rfl
  | bean k n => exact declaredAt?_bean c k n level name

/-- What is declared is what was declared last. -/
theorem declaredAt?_run_iff (calls : List (Call depth)) (level : Fin (depth + 1)) (name : String)
    (d : Definition) :
    ((chain depth).run calls).declaredAt? level name = some d ↔
      ∃ before supply, DeclaredLast calls level name before supply ∧
        d = ((chain depth).run before).declared ⟨name, supply⟩ := by
  induction calls using List.reverseRecOn with
  | nil =>
    have hnone : (chain depth).declaredAt? level name = none := by
      rw [declaredAt?, definition?, layer_chain]
      rfl
    refine iff_of_false (by simp [run, hnone]) ?_
    rintro ⟨before, supply, ⟨after, hcalls, -⟩, -⟩
    simp at hcalls
  | append_singleton calls call ih =>
    have hc : Sound depth ((chain depth).run calls) := (sound_chain depth).run calls
    simp only [run_concat, declaredLast_concat_iff]
    cases hredefined : call.redefines level name with
    | false =>
      rw [declaredAt?_perform hc hredefined, ih]
      constructor
      · rintro ⟨before, supply, hlast, hd⟩
        exact ⟨before, supply, .inr ⟨rfl, hlast⟩, hd⟩
      · rintro ⟨before, supply, ⟨-, rfl⟩ | ⟨-, hlast⟩, hd⟩
        · simp [Call.redefines] at hredefined
        · exact ⟨before, supply, hlast, hd⟩
    | true =>
      cases call with
      | declare k declaration =>
        obtain ⟨n, supply⟩ := declaration
        obtain ⟨rfl, rfl⟩ : k = level ∧ n = name := by simpa [Call.redefines] using hredefined
        rw [perform, declaredAt?_declare (hc.lt k), if_pos ⟨rfl, rfl⟩]
        constructor
        · intro hd
          exact ⟨calls, supply, .inl ⟨rfl, rfl⟩, (Option.some.inj hd).symm⟩
        · rintro ⟨before, supply', ⟨rfl, hdeclared⟩ | ⟨hkept, -⟩, rfl⟩
          · cases hdeclared
            rfl
          · cases hkept
      | remove k n =>
        obtain ⟨rfl, rfl⟩ : k = level ∧ n = name := by simpa [Call.redefines] using hredefined
        rw [perform, declaredAt?_remove (hc.lt k), if_pos ⟨rfl, rfl⟩]
        refine iff_of_false (by simp) ?_
        rintro ⟨before, supply, ⟨-, hdeclared⟩ | ⟨hkept, -⟩, -⟩
        · cases hdeclared
        · cases hkept
      | names | typeOf | bean => cases hredefined

end Containers

end RequestDispatch
