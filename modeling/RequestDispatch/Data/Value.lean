import RequestDispatch.Number.Binary64

/-!
# Structured values

The values that configuration is made of. The fields of an object are in the order of their keys,
each key once.
-/
namespace RequestDispatch

inductive Value where
  | null
  | bool (b : Bool)
  | int (n : Int)
  | float (x : Binary64)
  | text (s : String)
  | list (items : List Value)
  | object (fields : List (String × Value))
  deriving Inhabited

namespace Value

/-- Writes a field, replacing the value that the key has, and keeps the keys ordered. -/
def putField {α : Type} (fields : List (String × α)) (key : String) (v : α) : List (String × α) :=
  match fields with
  | [] => [(key, v)]
  | (k, w) :: rest =>
    if key = k then (k, v) :: rest
    else if key < k then (key, v) :: (k, w) :: rest
    else (k, w) :: putField rest key v

def field? {α : Type} (fields : List (String × α)) (key : String) : Option α :=
  (fields.find? fun e => e.1 = key).map (·.2)

theorem field?_putField_self {α : Type} (fields : List (String × α)) (key : String) (v : α) :
    field? (putField fields key v) key = some v := by
  induction fields with
  | nil => simp [putField, field?]
  | cons e rest ih =>
    rw [putField]
    split
    · next h => simp [field?, ← h]
    · next h =>
      split
      · simp [field?]
      · simpa [field?, Ne.symm h] using ih

theorem field?_putField_of_ne {α : Type} (fields : List (String × α)) {key other : String} (v : α)
    (h : other ≠ key) : field? (putField fields key v) other = field? fields other := by
  induction fields with
  | nil => simp [putField, field?, Ne.symm h]
  | cons e rest ih =>
    rw [putField]
    split
    · next he => simp [field?, ← he, Ne.symm h]
    · split
      · simp [field?, Ne.symm h]
      · by_cases hk : e.1 = other
        · simp [field?, hk]
        · simpa [field?, hk] using ih

def ofFields (entries : List (String × Value)) : List (String × Value) :=
  entries.foldl (fun acc e => putField acc e.1 e.2) []

def Ordered {α : Type} (fields : List (String × α)) : Prop :=
  fields.Pairwise fun e d => e.1 < d.1

theorem mem_putField {α : Type} {fields : List (String × α)} {key : String} {v : α}
    {e : String × α} (h : e ∈ putField fields key v) : e = (key, v) ∨ e ∈ fields := by
  induction fields with
  | nil => exact .inl (List.mem_singleton.1 h)
  | cons d rest ih =>
    rw [putField] at h
    split at h
    · next hkey =>
      subst hkey
      rcases List.mem_cons.1 h with rfl | h
      · exact .inl rfl
      · exact .inr (List.mem_cons_of_mem d h)
    · split at h
      · exact List.mem_cons.1 h
      · rcases List.mem_cons.1 h with rfl | h
        · exact .inr List.mem_cons_self
        · exact (ih h).imp_right (List.mem_cons_of_mem d)

theorem Ordered.putField {α : Type} {fields : List (String × α)} (h : Ordered fields)
    (key : String) (v : α) : Ordered (putField fields key v) := by
  induction fields with
  | nil => exact List.pairwise_singleton _ _
  | cons d rest ih =>
    obtain ⟨hfirst, hrest⟩ := List.pairwise_cons.1 h
    rw [Value.putField]
    split
    · next hkey =>
      subst hkey
      exact List.pairwise_cons.2 ⟨hfirst, hrest⟩
    · next hne =>
      split
      · next hlt =>
        refine List.pairwise_cons.2 ⟨fun e he => ?_, h⟩
        rcases List.mem_cons.1 he with rfl | he
        · exact hlt
        · exact String.lt_trans hlt (hfirst e he)
      · next hlt =>
        have hgt : d.1 < key := by
          refine Decidable.byContradiction fun hnot => hne ?_
          exact String.le_antisymm (String.not_lt.1 hnot) (String.not_lt.1 hlt)
        refine List.pairwise_cons.2 ⟨fun e he => ?_, ih hrest⟩
        rcases mem_putField he with rfl | he
        · exact hgt
        · exact hfirst e he

theorem Ordered.nodup_keys {α : Type} {fields : List (String × α)} (h : Ordered fields) :
    (fields.map (·.1)).Nodup := by
  refine List.pairwise_map.2 (List.Pairwise.imp (fun {e d} hlt heq => ?_) h)
  rw [heq] at hlt
  exact String.lt_irrefl d.1 hlt

theorem ofFields_concat (entries : List (String × Value)) (key : String) (v : Value) :
    ofFields (entries ++ [(key, v)]) = putField (ofFields entries) key v := by
  simp [ofFields]

theorem field?_cons {α : Type} (k : String) (v : α) (rest : List (String × α)) (key : String) :
    field? ((k, v) :: rest) key = if k = key then some v else field? rest key := by
  by_cases h : k = key <;> simp [field?, h]

theorem field?_map {α β : Type} (f : α → β) (fields : List (String × α)) (key : String) :
    field? (fields.map fun e => (e.1, f e.2)) key = (field? fields key).map f := by
  simp [field?, List.find?_map, Function.comp_def]

theorem field?_append {α : Type} (fields more : List (String × α)) (key : String) :
    field? (fields ++ more) key = (field? fields key).or (field? more key) := by
  rw [field?, List.find?_append, Option.map_or]
  rfl

theorem field?_eq_none_of_notMem {α : Type} {fields : List (String × α)} {key : String}
    (h : key ∉ fields.map (·.1)) : field? fields key = none := by
  rw [field?, Option.map_eq_none_iff, List.find?_eq_none]
  intro e he hkey
  exact h (List.mem_map.2 ⟨e, he, of_decide_eq_true hkey⟩)

theorem field?_reverse {α : Type} {fields : List (String × α)} (h : (fields.map (·.1)).Nodup)
    (key : String) : field? fields.reverse key = field? fields key := by
  induction fields with
  | nil => rfl
  | cons e rest ih =>
    obtain ⟨k, v⟩ := e
    obtain ⟨hnew, hrest⟩ := List.nodup_cons.1 h
    rw [List.reverse_cons, field?_append, ih hrest, field?_cons, field?_cons]
    split
    · next hkey =>
      rw [← hkey, field?_eq_none_of_notMem hnew]
      rfl
    · exact Option.or_none

theorem field?_ofFields (entries : List (String × Value)) (key : String) :
    field? (ofFields entries) key = field? entries.reverse key := by
  rw [← entries.reverse_reverse]
  induction entries.reverse with
  | nil => rfl
  | cons e rest ih =>
    obtain ⟨k, v⟩ := e
    rw [List.reverse_reverse] at ih ⊢
    rw [List.reverse_cons, ofFields_concat, field?_cons]
    split
    · next hkey => rw [hkey, field?_putField_self]
    · next hkey => rw [field?_putField_of_ne _ _ (Ne.symm hkey), ih]

/-- The induction takes the entries from the last one on. -/
theorem ordered_ofFields (entries : List (String × Value)) : Ordered (ofFields entries) := by
  rw [← entries.reverse_reverse]
  induction entries.reverse with
  | nil => exact List.Pairwise.nil
  | cons e rest ih =>
    rw [List.reverse_cons, ofFields_concat]
    exact ih.putField e.1 e.2

theorem field?_eq_none_of_lt {α : Type} {fields : List (String × α)} {key : String}
    (h : ∀ e ∈ fields, key < e.1) : field? fields key = none := by
  refine field?_eq_none_of_notMem fun hmem => ?_
  obtain ⟨e, he, rfl⟩ := List.mem_map.1 hmem
  exact String.lt_irrefl e.1 (h e he)

/-- Ordered fields are determined by the values of the keys. -/
theorem Ordered.ext {α : Type} {fields others : List (String × α)} (hf : Ordered fields)
    (ho : Ordered others) (h : ∀ key, field? fields key = field? others key) :
    fields = others := by
  induction fields generalizing others with
  | nil =>
    cases others with
    | nil => rfl
    | cons d others => simpa [field?] using h d.1
  | cons e fields ih =>
    cases others with
    | nil => simpa [field?] using h e.1
    | cons d others =>
      obtain ⟨k, v⟩ := e
      obtain ⟨l, w⟩ := d
      obtain ⟨hk, hfields⟩ := List.pairwise_cons.1 hf
      obtain ⟨hl, hothers⟩ := List.pairwise_cons.1 ho
      -- a key below the first one of the other side would be missing there
      have hnot : ∀ {a b : String} {x y : α} {rest more : List (String × α)},
          (∀ e ∈ more, b < e.1) →
          field? ((a, x) :: rest) a = field? ((b, y) :: more) a → ¬a < b := by
        intro a b x y rest more hmore hsame hlt
        rw [field?_cons, if_pos rfl, field?_eq_none_of_lt] at hsame
        · cases hsame
        · intro e he
          rcases List.mem_cons.1 he with rfl | he
          · exact hlt
          · exact String.lt_trans hlt (hmore e he)
      obtain rfl : k = l := String.le_antisymm
        (String.not_lt.1 (hnot hk (h l).symm)) (String.not_lt.1 (hnot hl (h k)))
      have hvalue := h k
      rw [field?_cons, field?_cons, if_pos rfl, if_pos rfl] at hvalue
      rw [Option.some.inj hvalue, ih hfields hothers fun key => ?_]
      have hkey := h key
      rw [field?_cons, field?_cons] at hkey
      split at hkey
      · next hsame =>
        subst hsame
        rw [field?_eq_none_of_lt hk, field?_eq_none_of_lt hl]
      · exact hkey

/-- The same value: numbers by their bits, all else by content. -/
def same : Value → Value → Bool
  | null, null => true
  | bool a, bool b => a = b
  | int a, int b => a = b
  | float a, float b => a = b
  | text a, text b => a = b
  | list a, list b => sameList a b
  | object a, object b => sameFields a b
  | _, _ => false
where
  sameList : List Value → List Value → Bool
    | [], [] => true
    | a :: as, b :: bs => same a b && sameList as bs
    | _, _ => false
  sameFields : List (String × Value) → List (String × Value) → Bool
    | [], [] => true
    | (k, a) :: as, (l, b) :: bs => k = l && same a b && sameFields as bs
    | _, _ => false

end Value

end RequestDispatch
