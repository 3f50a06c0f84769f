/-!
# Insertion-ordered maps

A map is a list of pairs. Writing a key that is there keeps its place, a new key goes to the end,
and removing one keeps the order of the rest.
-/
namespace RequestDispatch.Assoc

variable {κ α β : Type} [DecidableEq κ]

def find? (m : List (κ × α)) (k : κ) : Option α :=
  match m with
  | [] => none
  | (k', v) :: rest => if k' = k then some v else find? rest k

def contains (m : List (κ × α)) (k : κ) : Bool :=
  (find? m k).isSome

def put (m : List (κ × α)) (k : κ) (v : α) : List (κ × α) :=
  match m with
  | [] => [(k, v)]
  | (k', v') :: rest => if k' = k then (k', v) :: rest else (k', v') :: put rest k v

def remove (m : List (κ × α)) (k : κ) : List (κ × α) :=
  m.filter fun e => e.1 ≠ k

def keys (m : List (κ × α)) : List κ :=
  m.map (·.1)

def putAll (m more : List (κ × α)) : List (κ × α) :=
  more.foldl (fun acc e => put acc e.1 e.2) m

def ofList (entries : List (κ × α)) : List (κ × α) :=
  putAll [] entries

def table (f : κ → α) (ks : List κ) : List (κ × α) :=
  ks.map fun k => (k, f k)

@[simp] theorem find?_nil (k : κ) : find? ([] : List (κ × α)) k = none := rfl

theorem find?_put_self (m : List (κ × α)) (k : κ) (v : α) : find? (put m k v) k = some v := by
  induction m with
  | nil => simp [put, find?]
  | cons e rest ih =>
    by_cases h : e.1 = k
    · simp [put, find?, h]
    · simp [put, find?, h, ih]

theorem find?_put_of_ne (m : List (κ × α)) {k k' : κ} (v : α) (h : k' ≠ k) :
    find? (put m k v) k' = find? m k' := by
  induction m with
  | nil => simp [put, find?, Ne.symm h]
  | cons e rest ih =>
    by_cases he : e.1 = k
    · simp [put, find?, he, Ne.symm h]
    · simp only [put, he, if_false, find?, ih]

theorem find?_remove_self (m : List (κ × α)) (k : κ) : find? (remove m k) k = none := by
  induction m with
  | nil => rfl
  | cons e rest ih =>
    by_cases h : e.1 = k
    · simpa [remove, h] using ih
    · simpa [remove, h, find?] using ih

theorem find?_remove_of_ne (m : List (κ × α)) {k k' : κ} (h : k' ≠ k) :
    find? (remove m k) k' = find? m k' := by
  induction m with
  | nil => rfl
  | cons e rest ih =>
    by_cases he : e.1 = k
    · simpa [remove, he, find?, Ne.symm h] using ih
    · by_cases hk : e.1 = k'
      · simp [remove, find?, hk, h]
      · simpa [remove, he, find?, hk] using ih

theorem find?_put (m : List (κ × α)) (k k' : κ) (v : α) :
    find? (put m k v) k' = if k' = k then some v else find? m k' := by
  split
  · next h => rw [h, find?_put_self]
  · next h => exact find?_put_of_ne m v h

theorem find?_remove (m : List (κ × α)) (k k' : κ) :
    find? (remove m k) k' = if k' = k then none else find? m k' := by
  split
  · next h => rw [h, find?_remove_self]
  · next h => exact find?_remove_of_ne m h

theorem contains_iff_mem_keys {m : List (κ × α)} {k : κ} : contains m k = true ↔ k ∈ keys m := by
  induction m with
  | nil => simp [contains, keys]
  | cons e rest ih =>
    by_cases h : e.1 = k
    · simp [contains, keys, find?, h]
    · simpa [contains, keys, find?, h, Ne.symm h] using ih

/-- Writing a key adds it behind the others unless it is there. -/
theorem keys_put (m : List (κ × α)) (k : κ) (v : α) :
    keys (put m k v) = if k ∈ keys m then keys m else keys m ++ [k] := by
  induction m with
  | nil => rfl
  | cons e rest ih =>
    by_cases h : e.1 = k
    · simp [put, keys, h]
    · have ih' : (put rest k v).map (·.1) = _ := ih
      simp only [put, h, if_false, keys, List.map_cons, ih', List.mem_cons, Ne.symm h, false_or]
      split <;> simp_all [keys]

theorem nodup_keys_put {m : List (κ × α)} (h : (keys m).Nodup) (k : κ) (v : α) :
    (keys (put m k v)).Nodup := by
  rw [keys_put]
  split
  · exact h
  · next hk =>
    rw [List.nodup_append]
    exact ⟨h, by simp, by simp; intro a ha he; exact hk (he ▸ ha)⟩

theorem find?_eq_none_iff {m : List (κ × α)} {k : κ} : find? m k = none ↔ k ∉ keys m := by
  rw [← contains_iff_mem_keys, contains, Option.not_isSome_iff_eq_none]

theorem keys_remove (m : List (κ × α)) (k : κ) :
    keys (remove m k) = (keys m).filter (· ≠ k) := by
  simp [keys, remove, List.filter_map, Function.comp_def]

theorem nodup_keys_remove {m : List (κ × α)} (h : (keys m).Nodup) (k : κ) :
    (keys (remove m k)).Nodup := by
  rw [keys_remove]
  exact h.filter _

theorem mem_iff_find? {m : List (κ × α)} (h : (keys m).Nodup) {k : κ} {v : α} :
    (k, v) ∈ m ↔ find? m k = some v := by
  induction m with
  | nil => simp
  | cons e rest ih =>
    obtain ⟨hk, hrest⟩ := List.nodup_cons.1 h
    have ih := ih hrest
    by_cases he : e.1 = k
    · have hn : (k, v) ∉ rest := fun hm => hk (List.mem_map.2 ⟨_, hm, he.symm⟩)
      subst he
      simp only [List.mem_cons, hn, or_false, find?, if_true, Option.some.injEq]
      exact ⟨fun h => (Prod.mk.inj h).2.symm, fun h => Prod.ext rfl h.symm⟩
    · have hne : (k, v) ≠ e := fun h => he (h ▸ rfl)
      simp [find?, he, hne, ih]

/-- What is read after many writes is the last one for the key, or what was there before. -/
theorem find?_putAll (m more : List (κ × α)) (k : κ) :
    find? (putAll m more) k = ((more.reverse.find? fun e => e.1 = k).map (·.2)).or (find? m k) := by
  induction more generalizing m with
  | nil => rfl
  | cons e rest ih =>
    have step : putAll m (e :: rest) = putAll (put m e.1 e.2) rest := rfl
    rw [step, ih, find?_put, List.reverse_cons, List.find?_append]
    cases rest.reverse.find? fun e => e.1 = k with
    | some found => rfl
    | none =>
      by_cases h : k = e.1
      · simp [h]
      · simp [h, Ne.symm h]

theorem nodup_keys_putAll {m : List (κ × α)} (h : (keys m).Nodup) (more : List (κ × α)) :
    (keys (putAll m more)).Nodup := by
  induction more generalizing m with
  | nil => exact h
  | cons e rest ih => exact ih (nodup_keys_put h e.1 e.2)

theorem putAll_append (m more rest : List (κ × α)) :
    putAll m (more ++ rest) = putAll (putAll m more) rest :=
  List.foldl_append

/-! ### Writes that cancel -/

theorem remove_of_find?_eq_none {m : List (κ × α)} {k : κ} (h : find? m k = none) :
    remove m k = m := by
  refine List.filter_eq_self.2 fun e he => ?_
  have hk : e.1 ≠ k := fun hek => find?_eq_none_iff.1 h (hek ▸ List.mem_map_of_mem he)
  simpa using hk

theorem put_of_find?_eq_none {m : List (κ × α)} {k : κ} (h : find? m k = none) (v : α) :
    put m k v = m ++ [(k, v)] := by
  induction m with
  | nil => rfl
  | cons e rest ih =>
    by_cases he : e.1 = k
    · simp [find?, he] at h
    · simp only [find?, he, if_false] at h
      simp [put, he, ih h]

theorem remove_put_of_find?_eq_none {m : List (κ × α)} {k : κ} (h : find? m k = none) (v : α) :
    remove (put m k v) k = m := by
  have hm : m.filter (fun e => e.1 ≠ k) = m := remove_of_find?_eq_none h
  simp only [put_of_find?_eq_none h, remove, List.filter_append, hm]
  simp

omit [DecidableEq κ] in
theorem keys_table (f : κ → α) (ks : List κ) : keys (table f ks) = ks := by
  rw [table, keys, List.map_map]
  exact List.map_id ks

omit [DecidableEq κ] in
theorem mem_table {f : κ → α} {ks : List κ} {k : κ} {v : α} :
    (k, v) ∈ table f ks ↔ k ∈ ks ∧ f k = v := by
  rw [table, List.mem_map]
  constructor
  · rintro ⟨_, hk, h⟩
    obtain ⟨rfl, rfl⟩ := Prod.mk.inj h
    exact ⟨hk, rfl⟩
  · rintro ⟨hk, rfl⟩
    exact ⟨k, hk, rfl⟩

omit [DecidableEq κ] in
theorem table_congr {f g : κ → α} {ks : List κ} (h : ∀ k ∈ ks, f k = g k) :
    table f ks = table g ks :=
  List.map_congr_left fun k hk => by rw [h k hk]

end RequestDispatch.Assoc
