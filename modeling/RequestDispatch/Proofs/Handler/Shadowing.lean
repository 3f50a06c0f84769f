import Mathlib.Logic.Function.Basic
import RequestDispatch.Handler.Container

/-! # Shadowing

The nearest container that has a name answers for it, whatever the containers behind it define
under that name. -/
namespace RequestDispatch

def Slot.held? : Slot → Option Bean
  | .ready b => some b
  | .lazy _ _ created? => created?

def Definition.typeFor (d : Definition) (name : String) : Except DispatchError BeanType :=
  match d.type? with
  | some type => .ok type
  | none => .error (.unresolvableType name)

theorem Definition.typeFor_ne_notFound {d : Definition} {name : String} (n : String) :
    d.typeFor name ≠ .error (.beanNotFound n) := by
  unfold typeFor
  split <;> nofun

namespace Containers

variable {c : Containers} {level owner : Nat} {name : String} {d : Definition}

def definition? (c : Containers) (level : Nat) (name : String) : Option Definition :=
  Assoc.find? (c.layer level) name

/-- From `level` on, the container at `owner` is the first one that has `name`. -/
structure Nearest (c : Containers) (level : Nat) (name : String) (owner : Nat)
    (d : Definition) : Prop where
  reached : level ≤ owner
  defined : c.definition? owner name = some d
  passed : ∀ k, level ≤ k → k < owner → c.definition? k name = none

/-- A request for `name` at `level` gets to the container at `owner`: none before it has the name. -/
def Reaches (c : Containers) (level owner : Nat) (name : String) : Prop :=
  level ≤ owner ∧ ∀ k < owner, level ≤ k → (c.definition? k name).isNone = true

instance (c : Containers) (level owner : Nat) (name : String) :
    Decidable (c.Reaches level owner name) :=
  inferInstanceAs (Decidable (_ ∧ _))

theorem nearest_iff : Nearest c level name owner d ↔
    c.Reaches level owner name ∧ c.definition? owner name = some d := by
  constructor
  · rintro ⟨hreached, hdefined, hpassed⟩
    refine ⟨⟨hreached, fun k hlt hle => ?_⟩, hdefined⟩
    rw [hpassed k hle hlt]
    rfl
  · rintro ⟨⟨hreached, hpassed⟩, hdefined⟩
    exact ⟨hreached, hdefined, fun k hle hlt => Option.isNone_iff_eq_none.1 (hpassed k hlt hle)⟩

/-! ### Writing -/

def keep (c : Containers) (owner : Nat) (name : String) (d : Definition) : Containers :=
  { c.setLayer owner fun l => Assoc.put l name d with nextSerial := c.nextSerial + 1 }

theorem layer_of_le (h : c.layers.length ≤ level) : c.layer level = [] := by
  rw [layer, List.getElem?_eq_none h, Option.getD_none]

theorem lt_of_definition? (h : c.definition? level name = some d) : level < c.layers.length := by
  by_contra hge
  rw [definition?, layer_of_le (Nat.le_of_not_lt hge)] at h
  cases h

theorem layer_setLayer (c : Containers) (level k : Nat) (f : Layer → Layer)
    (h : level < c.layers.length) :
    (c.setLayer level f).layer k = if k = level then f (c.layer k) else c.layer k := by
  rw [setLayer, layer, List.getElem?_modify, layer]
  by_cases hk : k = level
  · subst hk
    rw [if_pos rfl, List.getElem?_eq_getElem h]
    simp
  · simp [hk, Ne.symm hk]

theorem definition?_setLayer (h : level < c.layers.length) {f : Layer → Layer}
    {d? : Option Definition}
    (hf : ∀ l n, Assoc.find? (f l) n = if n = name then d? else Assoc.find? l n) (k : Nat)
    (n : String) : (c.setLayer level f).definition? k n =
      if k = level ∧ n = name then d? else c.definition? k n := by
  rw [definition?, layer_setLayer c level k f h]
  by_cases hk : k = level
  · rw [if_pos hk, hf, definition?]
    simp [hk]
  · rw [if_neg hk, if_neg fun hkn => hk hkn.1, definition?]

theorem definition?_keep (h : level < c.layers.length) (d : Definition) (k : Nat) (n : String) :
    (c.keep level name d).definition? k n =
      if k = level ∧ n = name then some d else c.definition? k n :=
  definition?_setLayer h (fun l n => Assoc.find?_put l name n d) k n

theorem Nearest.countCall (h : Nearest c level name owner d) (serial : Nat) :
    Nearest (c.countCall serial) level name owner d :=
  ⟨h.reached, h.defined, h.passed⟩

/-- Where a name was found, another definition of it is found as well. -/
theorem Nearest.keep (h : Nearest c level name owner d) (d' : Definition) :
    Nearest (c.keep owner name d') level name owner d' := by
  have hlt : owner < c.layers.length := lt_of_definition? h.defined
  refine ⟨h.reached, ?_, fun k hle hk => ?_⟩
  · rw [definition?_keep hlt, if_pos ⟨rfl, rfl⟩]
  · rw [definition?_keep hlt, if_neg fun hkn => Nat.ne_of_lt hk hkn.1]
    exact h.passed k hle hk

/-! ### From a container to its parent -/

theorem drop_layers_of_lt (h : level < c.layers.length) :
    c.layers.drop level = c.layer level :: c.layers.drop (level + 1) := by
  rw [List.drop_eq_getElem_cons h, layer, List.getElem?_eq_getElem h, Option.getD_some]

theorem locate?_parent (c : Containers) (level : Nat) (name : String) :
    c.locate? level name =
      match c.definition? level name with
      | some d => some (level, d)
      | none => c.locate? (level + 1) name := by
  by_cases h : level < c.layers.length
  · rw [locate?, drop_layers_of_lt h, locateFrom?]
    rfl
  · have hle : c.layers.length ≤ level := Nat.le_of_not_lt h
    rw [definition?, layer_of_le hle, locate?, locate?, List.drop_of_length_le hle,
      List.drop_of_length_le (Nat.le_succ_of_le hle)]
    rfl

theorem names_parent (c : Containers) (level : Nat) :
    c.names level true = Assoc.keys (c.layer level) ++
      (c.names (level + 1) true).filter fun n => !(Assoc.keys (c.layer level)).contains n := by
  by_cases h : level < c.layers.length
  · rw [names, if_pos rfl, drop_layers_of_lt h, namesFrom]
    rfl
  · have hle : c.layers.length ≤ level := Nat.le_of_not_lt h
    rw [names, if_pos rfl, names, if_pos rfl, layer_of_le hle, List.drop_of_length_le hle,
      List.drop_of_length_le (Nat.le_succ_of_le hle)]
    rfl

/-- What passes from a parent to its child, and holds behind the last container, holds of every
container. -/
@[elab_as_elim]
theorem parent_induction {motive : Nat → Prop} (c : Containers)
    (behind : ∀ level, c.layers.length ≤ level → motive level)
    (child : ∀ level, motive (level + 1) → motive level) (level : Nat) : motive level := by
  by_cases h : level < c.layers.length
  · exact child level (parent_induction c behind child (level + 1))
  · exact behind level (Nat.le_of_not_lt h)
termination_by c.layers.length - level

/-! ### The nearest container -/

theorem Nearest.here (h : c.definition? level name = some d) : Nearest c level name level d :=
  ⟨Nat.le_refl _, h, fun _ hle hlt => absurd hlt (Nat.not_lt.2 hle)⟩

theorem Nearest.behind (hnone : c.definition? level name = none)
    (h : Nearest c (level + 1) name owner d) : Nearest c level name owner d := by
  refine ⟨Nat.le_of_succ_le h.reached, h.defined, fun k hle hlt => ?_⟩
  rcases Nat.eq_or_lt_of_le hle with rfl | hbehind
  · exact hnone
  · exact h.passed k hbehind hlt

theorem nearest_of_locate? (h : c.locate? level name = some (owner, d)) :
    Nearest c level name owner d := by
  induction level using parent_induction c with
  | behind level hle =>
    rw [locate?, List.drop_of_length_le hle] at h
    cases h
  | child level ih =>
    rw [locate?_parent] at h
    split at h
    · next hhere =>
      cases h
      exact .here hhere
    · next hnone => exact .behind hnone (ih h)

theorem locate?_eq_none_iff :
    c.locate? level name = none ↔ ∀ k, level ≤ k → c.definition? k name = none := by
  induction level using parent_induction c with
  | behind level hle =>
    rw [locate?, List.drop_of_length_le hle]
    refine ⟨fun _ k hk => ?_, fun _ => rfl⟩
    rw [definition?, layer_of_le (Nat.le_trans hle hk)]
    rfl
  | child level ih =>
    rw [locate?_parent]
    cases hhere : c.definition? level name with
    | some d =>
      refine ⟨nofun, fun h => ?_⟩
      rw [h level (Nat.le_refl _)] at hhere
      cases hhere
    | none =>
      refine ih.trans ⟨fun h k hk => ?_, fun h k hk => h k (Nat.le_of_succ_le hk)⟩
      rcases Nat.eq_or_lt_of_le hk with rfl | hlt
      · exact hhere
      · exact h k hlt

theorem Nearest.unique {owner' : Nat} {d' : Definition} (h : Nearest c level name owner d)
    (h' : Nearest c level name owner' d') : owner = owner' ∧ d = d' := by
  have hle : ¬ owner < owner' := fun hlt => by
    have := h'.passed owner h.reached hlt
    rw [h.defined] at this
    cases this
  have hge : ¬ owner' < owner := fun hlt => by
    have := h.passed owner' h'.reached hlt
    rw [h'.defined] at this
    cases this
  obtain rfl : owner = owner' := by omega
  exact ⟨rfl, Option.some.inj (h.defined.symm.trans h'.defined)⟩

theorem locate?_eq_some_iff :
    c.locate? level name = some (owner, d) ↔ Nearest c level name owner d := by
  refine ⟨nearest_of_locate?, fun h => ?_⟩
  cases hfound : c.locate? level name with
  | none =>
    have := locate?_eq_none_iff.1 hfound owner h.reached
    rw [h.defined] at this
    cases this
  | some found =>
    obtain ⟨rfl, rfl⟩ := h.unique (nearest_of_locate? hfound)
    rfl

/-! ### Names -/

theorem mem_names_iff : name ∈ c.names level true ↔ c.locate? level name ≠ none := by
  induction level using parent_induction c with
  | behind level hle =>
    rw [names, if_pos rfl, locate?, List.drop_of_length_le hle]
    simp [namesFrom, locateFrom?]
  | child level ih =>
    rw [names_parent, locate?_parent, List.mem_append, List.mem_filter, ih]
    cases hhere : c.definition? level name with
    | some d =>
      have hmem : name ∈ Assoc.keys (c.layer level) := by
        rw [← Assoc.contains_iff_mem_keys, Assoc.contains, ← definition?, hhere, Option.isSome_some]
      simp [hmem]
    | none =>
      have hmem : name ∉ Assoc.keys (c.layer level) := Assoc.find?_eq_none_iff.1 hhere
      simp [hmem]

theorem nodup_names (hkeys : ∀ k, (Assoc.keys (c.layer k)).Nodup) :
    (c.names level true).Nodup := by
  induction level using parent_induction c with
  | behind level hle =>
    rw [names, if_pos rfl, List.drop_of_length_le hle]
    exact List.nodup_nil
  | child level ih =>
    rw [names_parent]
    refine List.nodup_append.2 ⟨hkeys level, ih.filter _, fun n hn m hm => ?_⟩
    rintro rfl
    have := (List.mem_filter.1 hm).2
    simp [hn] at this

/-! ### Answers -/

theorem typeOf_of_locate?_eq_none (h : c.locate? level name = none) :
    c.typeOf level name = .error (.beanNotFound name) := by
  rw [typeOf, h]

theorem bean_of_locate?_eq_none (h : c.locate? level name = none) :
    c.bean level name = (.error (.beanNotFound name), c) := by
  rw [bean, h]

/-- How the definition of `name` at `owner` supplies the bean: the answer, and the chain
afterwards. -/
inductive Supplied (c : Containers) (owner : Nat) (name : String) :
    Definition → Except DispatchError Bean × Containers → Prop
  | held {d : Definition} {b : Bean} (held : d.slot.held? = some b) :
      Supplied c owner name d (.ok b, c)
  | failed {type? : Option BeanType} {serial : Nat}
      {factory : Nat → Except DispatchError String} {e : DispatchError}
      (called : factory ((c.countCall serial).callsOf serial) = .error e) :
      Supplied c owner name ⟨type?, .lazy serial factory none⟩
        (.error (.beanCreation name e.message), c.countCall serial)
  | created {type? : Option BeanType} {serial : Nat}
      {factory : Nat → Except DispatchError String} {label : String}
      (called : factory ((c.countCall serial).callsOf serial) = .ok label) :
      Supplied c owner name ⟨type?, .lazy serial factory none⟩
        (.ok (.created c.nextSerial label), (c.countCall serial).keep owner name
          ⟨type?, .lazy serial factory (some (.created c.nextSerial label))⟩)

theorem Nearest.typeOf (h : Nearest c level name owner d) :
    c.typeOf level name = d.typeFor name := by
  rw [Containers.typeOf, locate?_eq_some_iff.2 h]
  rfl

theorem Nearest.supplied (h : Nearest c level name owner d) :
    Supplied c owner name d (c.bean level name) := by
  rw [bean, locate?_eq_some_iff.2 h]
  obtain ⟨type?, slot⟩ := d
  cases slot with
  | ready b => exact .held rfl
  | lazy serial factory created? =>
    cases created? with
    | some b => exact .held rfl
    | none =>
      dsimp only
      split
      · next e hcall => exact .failed hcall
      · next label hcall => exact .created hcall

theorem Nearest.bean_of_held {b : Bean} (h : Nearest c level name owner d)
    (hheld : d.slot.held? = some b) : c.bean level name = (.ok b, c) := by
  have hsupplied := h.supplied
  generalize c.bean level name = answer at hsupplied
  cases hsupplied with
  | held hheld' =>
    rw [hheld] at hheld'
    cases hheld'
    rfl
  | failed | created => cases hheld

/-- Asking for a bean fails at once, or its nearest definition supplies it. -/
theorem bean_cases (c : Containers) (level : Nat) (name : String) :
    (c.locate? level name = none ∧ c.bean level name = (.error (.beanNotFound name), c)) ∨
      ∃ owner d, Nearest c level name owner d ∧ Supplied c owner name d (c.bean level name) := by
  cases hfound : c.locate? level name with
  | none => exact .inl ⟨rfl, bean_of_locate?_eq_none hfound⟩
  | some found =>
    have hnearest := nearest_of_locate? hfound
    exact .inr ⟨found.1, found.2, hnearest, hnearest.supplied⟩

theorem Supplied.ne_notFound {answer : Except DispatchError Bean × Containers}
    (h : Supplied c owner name d answer) (n : String) : answer.1 ≠ .error (.beanNotFound n) := by
  cases h <;> nofun

structure Shadowing (c : Containers) (level : Nat) : Prop where
  nodup : (c.names level true).Nodup
  listed : ∀ name, name ∈ c.names level true ↔
    ∃ owner, level ≤ owner ∧ c.definition? owner name ≠ none
  bean_found : ∀ name, name ∈ c.names level true ↔
    ∀ n, (c.bean level name).1 ≠ .error (.beanNotFound n)
  type_found : ∀ name, name ∈ c.names level true ↔
    ∀ n, c.typeOf level name ≠ .error (.beanNotFound n)
  reached : ∀ name ∈ c.names level true, ∃ owner d, Nearest c level name owner d
  nearest : ∀ name owner d, Nearest c level name owner d →
    c.typeOf level name = d.typeFor name ∧ Supplied c owner name d (c.bean level name)

theorem shadowing (hkeys : ∀ k, (Assoc.keys (c.layer k)).Nodup) (level : Nat) :
    Shadowing c level := by
  have hnearest : ∀ name ∈ c.names level true, ∃ owner d, Nearest c level name owner d := by
    intro name hmem
    obtain ⟨⟨owner, d⟩, hfound⟩ := Option.ne_none_iff_exists'.1 (mem_names_iff.1 hmem)
    exact ⟨owner, d, nearest_of_locate? hfound⟩
  have hmissing : ∀ name, name ∉ c.names level true → c.locate? level name = none :=
    fun name hmem => not_not.1 fun hne => hmem (mem_names_iff.2 hne)
  constructor
  case nodup => exact nodup_names hkeys
  case listed =>
    intro name
    rw [mem_names_iff, Ne, locate?_eq_none_iff]
    simp only [not_forall, exists_prop, Ne]
  case bean_found =>
    intro name
    constructor
    · intro hmem
      obtain ⟨owner, d, h⟩ := hnearest name hmem
      exact h.supplied.ne_notFound
    · intro h
      by_contra hmem
      apply h name
      rw [bean_of_locate?_eq_none (hmissing name hmem)]
  case type_found =>
    intro name
    constructor
    · intro hmem
      obtain ⟨owner, d, h⟩ := hnearest name hmem
      rw [h.typeOf]
      exact Definition.typeFor_ne_notFound
    · intro h
      by_contra hmem
      exact h name (typeOf_of_locate?_eq_none (hmissing name hmem))
  case reached => exact hnearest
  case nearest => exact fun _ _ _ h => ⟨h.typeOf, h.supplied⟩

end Containers

end RequestDispatch
