import RequestDispatch.Assoc

/-!
# Maps of lists

The list under a key is its bucket. No bucket is empty: whoever takes out the last element takes
the bucket out as well.
-/
namespace RequestDispatch.Assoc

variable {κ β : Type} [DecidableEq κ]

def bucket (m : List (κ × List β)) (k : κ) : List β :=
  (find? m k).getD []

def push (m : List (κ × List β)) (k : κ) (v : β) : List (κ × List β) :=
  put m k (bucket m k ++ [v])

def sieve (m : List (κ × List β)) (k : κ) (keep : β → Bool) : List (κ × List β) :=
  match find? m k with
  | none => m
  | some vs =>
    match vs.filter keep with
    | [] => remove m k
    | rest => put m k rest

/-- Each key stands once, and no bucket is empty. -/
structure Proper (m : List (κ × List β)) : Prop where
  keys_nodup : (keys m).Nodup
  filled : ∀ k, find? m k ≠ some []

theorem Proper.nil : Proper ([] : List (κ × List β)) :=
  ⟨List.nodup_nil, fun _ h => nomatch h⟩

@[simp] theorem bucket_nil (k : κ) : bucket ([] : List (κ × List β)) k = [] := rfl

theorem Proper.find?_eq_some_iff {m : List (κ × List β)} (h : Proper m) {k : κ} {vs : List β} :
    find? m k = some vs ↔ vs ≠ [] ∧ bucket m k = vs := by
  have hf := h.filled k
  cases hk : find? m k with
  | none => simp [bucket, hk, eq_comm]
  | some ws =>
    rw [hk] at hf
    simp only [bucket, hk, Option.getD_some, Option.some.injEq, ne_eq] at hf ⊢
    exact ⟨fun he => ⟨he ▸ hf, he⟩, And.right⟩

theorem Proper.contains_iff {m : List (κ × List β)} (h : Proper m) {k : κ} :
    contains m k = true ↔ ∃ v, v ∈ bucket m k := by
  rw [contains, Option.isSome_iff_exists]
  constructor
  · rintro ⟨vs, hvs⟩
    obtain ⟨hne, hb⟩ := h.find?_eq_some_iff.1 hvs
    exact hb ▸ List.exists_mem_of_ne_nil vs hne
  · rintro ⟨v, hv⟩
    exact ⟨bucket m k, h.find?_eq_some_iff.2 ⟨List.ne_nil_of_mem hv, rfl⟩⟩

theorem bucket_push (m : List (κ × List β)) (k k' : κ) (v : β) :
    bucket (push m k v) k' = if k' = k then bucket m k ++ [v] else bucket m k' := by
  unfold push bucket
  rw [find?_put]
  split <;> rfl

theorem bucket_sieve (m : List (κ × List β)) (k k' : κ) (keep : β → Bool) :
    bucket (sieve m k keep) k' = if k' = k then (bucket m k).filter keep else bucket m k' := by
  unfold sieve
  split
  · next hk =>
    split
    · next h => simp [h, bucket, hk]
    · rfl
  · next vs hk =>
    have hb : bucket m k = vs := by simp [bucket, hk]
    split
    · next hvs =>
      rw [hb, hvs]
      simp only [bucket, find?_remove]
      split <;> rfl
    · rw [hb]
      simp only [bucket, find?_put]
      split <;> rfl

theorem Proper.push {m : List (κ × List β)} (h : Proper m) (k : κ) (v : β) :
    Proper (push m k v) := by
  refine ⟨nodup_keys_put h.keys_nodup k _, fun k' => ?_⟩
  unfold Assoc.push
  rw [find?_put]
  split
  · simp
  · exact h.filled k'

theorem Proper.sieve {m : List (κ × List β)} (h : Proper m) (k : κ) (keep : β → Bool) :
    Proper (sieve m k keep) := by
  unfold Assoc.sieve
  split
  · exact h
  split
  · refine ⟨nodup_keys_remove h.keys_nodup k, fun k' => ?_⟩
    rw [find?_remove]
    split
    · simp
    · exact h.filled k'
  · next vs hk hne =>
    refine ⟨nodup_keys_put h.keys_nodup k _, fun k' => ?_⟩
    rw [find?_put]
    split
    · exact fun he => hne (Option.some.inj he)
    · exact h.filled k'

theorem Proper.find?_congr {m m' : List (κ × List β)} (h : Proper m) (h' : Proper m') {k : κ}
    (hb : bucket m k = bucket m' k) : find? m k = find? m' k := by
  ext vs
  rw [h.find?_eq_some_iff, h'.find?_eq_some_iff, hb]

end RequestDispatch.Assoc
