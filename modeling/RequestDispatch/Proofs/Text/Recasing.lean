import RequestDispatch.Text.Case

/-! # Texts that keep their case

Upper and lower case put an image for each character. They leave a text as it is, up to the case of
ASCII letters, exactly if each of its characters beyond ASCII is its own image: no image is empty,
so a longer one is not made up for elsewhere. -/
namespace RequestDispatch.Text

def KeptBy (image : Char → List Char) (c : Char) : Prop :=
  c.toNat < 128 ∨ image c = [c]

instance (image : Char → List Char) (c : Char) : Decidable (KeptBy image c) :=
  inferInstanceAs (Decidable (_ ∨ _))

/-- What may stand for a character: it is the same letter exactly if the character is kept, and no
star unless the character is kept. -/
structure IsImage (kept : Char → Prop) (c : Char) (image : List Char) : Prop where
  ne_nil : image ≠ []
  kept_iff : kept c ↔ image.map Char.toLower = [c.toLower]
  kept_of_star : image = ['*'] → kept c

/-- The second text is made of images of the characters of the first one. -/
inductive Recased (kept : Char → Prop) : (text made : List Char) → Prop where
  | nil : Recased kept [] []
  | cons {c : Char} {image text made : List Char} : IsImage kept c image →
      Recased kept text made → Recased kept (c :: text) (image ++ made)

/-! ### Whole texts -/

namespace Recased

variable {kept : Char → Prop} {text made : List Char}

theorem length_le (h : Recased kept text made) : text.length ≤ made.length := by
  induction h with
  | nil => exact Nat.le_refl _
  | cons himage _ ih =>
    have hpos := List.length_pos_iff.2 himage.ne_nil
    rw [List.length_cons, List.length_append]
    omega

theorem map_toLower_iff (h : Recased kept text made) :
    made.map Char.toLower = text.map Char.toLower ↔ ∀ c ∈ text, kept c := by
  induction h with
  | nil => simp
  | @cons c image text made himage hrest ih =>
    rw [List.forall_mem_cons, himage.kept_iff, ← ih]
    constructor
    · intro heq
      obtain ⟨d, more, rfl⟩ := List.exists_cons_of_ne_nil himage.ne_nil
      -- a second character of the image would make the text longer
      have hlength := hrest.length_le
      have hcount := congrArg List.length heq
      simp only [List.length_map, List.length_append, List.length_cons] at hcount
      obtain rfl : more = [] := List.eq_nil_of_length_eq_zero (by omega)
      obtain ⟨hfirst, hmade⟩ := List.cons.inj heq
      exact ⟨congrArg ([·]) hfirst, hmade⟩
    · rintro ⟨hfirst, hmade⟩
      rw [List.map_append, hfirst, hmade]
      rfl

theorem sameIgnoringAsciiCase_iff {s t : String} (h : Recased kept s.toList t.toList) :
    sameIgnoringAsciiCase t s = true ↔ ∀ c ∈ s.toList, kept c := by
  rw [← h.map_toLower_iff, sameIgnoringAsciiCase, decide_eq_true_iff]

theorem kept_of_star (h : Recased kept text ['*']) : ∀ c ∈ text, kept c := by
  generalize hmade : ['*'] = made at h
  cases h with
  | nil => cases hmade
  | @cons c image text made himage hrest =>
    obtain ⟨d, more, rfl⟩ := List.exists_cons_of_ne_nil himage.ne_nil
    obtain ⟨rfl, hempty⟩ := List.cons.inj hmade
    obtain ⟨rfl, rfl⟩ := List.append_eq_nil_iff.1 hempty.symm
    obtain rfl : text = [] := List.eq_nil_of_length_eq_zero (Nat.le_zero.1 hrest.length_le)
    exact List.forall_mem_singleton.2 (himage.kept_of_star rfl)

end Recased

/-! ### Images of characters -/

theorem keptBy_iff {image : Char → List Char} {c : Char}
    (hascii : c.toNat < 128 → (image c).map Char.toLower = [c.toLower]) :
    KeptBy image c ↔ (image c).map Char.toLower = [c.toLower] := by
  by_cases hc : c.toNat < 128
  · exact iff_of_true (.inl hc) (hascii hc)
  · have hbeyond : 128 ≤ c.toNat := by omega
    have hself : c.toLower = c := (toLower_eq_iff_of_beyond hbeyond).2 rfl
    rw [KeptBy, or_iff_right hc, hself, List.map_eq_singleton_iff]
    constructor
    · intro h
      exact ⟨c, h, hself⟩
    · rintro ⟨d, h, hd⟩
      rw [h, (toLower_eq_iff_of_beyond hbeyond).1 hd]

theorem mapCase_ne_star {runs : List CaseRun} {c : Char}
    (hruns : runs.all (fun run => run.last < 128 || 65 ≤ run.target) = true)
    (hc : 128 ≤ c.toNat) : mapCase runs c ≠ '*' := by
  intro hstar
  have hnat : (mapCase runs c).toNat = 42 := congrArg Char.toNat hstar
  rw [mapCase] at hnat
  split at hnat
  · next n hfound =>
    obtain ⟨run, hmem, hmap⟩ := List.exists_of_findSome?_eq_some hfound
    have hentry := List.all_eq_true.1 hruns run hmem
    simp only [Bool.or_eq_true, decide_eq_true_eq] at hentry
    rw [CaseRun.map?] at hmap
    split at hmap
    · next hrange =>
      obtain ⟨-, hlast, -⟩ := hrange
      obtain rfl := Option.some.inj hmap
      rcases toNat_ofNat_cases (run.target + (c.toNat - run.first)) with h | h <;> omega
    · cases hmap
  · omega

theorem upperChar_isImage (c : Char) : IsImage (KeptBy upperChar) c (upperChar c) where
  ne_nil := by
    have htable : upperExpansions.all (fun e => !e.2.isEmpty) = true := by decide
    rw [upperChar]
    split
    · exact List.cons_ne_nil _ _
    · split
      · next hfound =>
        simpa using List.all_eq_true.1 htable _ (List.mem_of_find?_eq_some hfound)
      · exact List.cons_ne_nil _ _
  kept_iff := by
    refine keptBy_iff fun hc => ?_
    rw [upperChar, if_pos hc, List.map_singleton, toLower_toUpper]
  kept_of_star hstar := by
    have htable : upperExpansions.all (fun e => e.2.map Char.ofNat ≠ ['*']) = true := by
      decide +kernel
    rw [upperChar] at hstar
    split at hstar
    · next hc => exact .inl hc
    · split at hstar
      · next hfound =>
        have hentry := List.all_eq_true.1 htable _ (List.mem_of_find?_eq_some hfound)
        exact absurd hstar (of_decide_eq_true hentry)
      · exact absurd (List.singleton_inj.1 hstar) (mapCase_ne_star (by decide) (by omega))

theorem lowerChar_isImage (c : Char) : IsImage (KeptBy lowerChar) c (lowerChar c) where
  ne_nil := by
    rw [lowerChar]
    split
    · exact List.cons_ne_nil _ _
    · split <;> exact List.cons_ne_nil _ _
  kept_iff := by
    refine keptBy_iff fun hc => ?_
    rw [lowerChar, if_pos hc, List.map_singleton, toLower_toLower]
  kept_of_star hstar := by
    rw [lowerChar] at hstar
    split at hstar
    · next hc => exact .inl hc
    · split at hstar
      · cases hstar
      · exact absurd (List.singleton_inj.1 hstar) (mapCase_ne_star (by decide) (by omega))

/-- A capital sigma becomes one of two small ones, and is kept by neither. -/
theorem sigma_isImage {small : Nat} (h : small = 0x3C2 ∨ small = 0x3C3) :
    IsImage (KeptBy lowerChar) (Char.ofNat 0x3A3) [Char.ofNat small] := by
  rcases h with rfl | rfl <;> exact ⟨by decide, by decide +kernel, by decide⟩

/-! ### Upper and lower case -/

theorem recased_toUpper (s : String) :
    Recased (KeptBy upperChar) s.toList (toUpper s).toList := by
  rw [toUpper, String.toList_ofList]
  induction s.toList with
  | nil => exact .nil
  | cons c text ih => exact .cons (upperChar_isImage c) ih

theorem recased_lowerFrom (inWord : Bool) (text : List Char) :
    Recased (KeptBy lowerChar) text (lowerFrom inWord text) := by
  induction text generalizing inWord with
  | nil => exact .nil
  | cons c text ih =>
    rw [lowerFrom]
    refine .cons ?_ (ih _)
    split
    · next hsigma =>
      rw [← Char.ofNat_toNat c, hsigma]
      refine sigma_isImage ?_
      split
      · exact .inl rfl
      · exact .inr rfl
    · exact lowerChar_isImage c

theorem recased_toLower (s : String) :
    Recased (KeptBy lowerChar) s.toList (toLower s).toList := by
  rw [toLower, String.toList_ofList]
  exact recased_lowerFrom false s.toList

end RequestDispatch.Text
