import RequestDispatch.Proofs.Path.Counting
import RequestDispatch.Proofs.Path.Specificity

/-! # Lengths of patterns

A rank counts no more than the bytes of a pattern, and all of them where the pattern is written
plainly. So of two patterns the longer one is no less specific, unless the other one has fewer
wildcards of some kind. -/
namespace RequestDispatch

/-! ### Bytes of texts -/

namespace Text

def byteSize (s : List Char) : Nat :=
  (s.map Char.utf8Size).sum

theorem byteSize_cons (c : Char) (s : List Char) : byteSize (c :: s) = c.utf8Size + byteSize s :=
  rfl

theorem utf8ByteSize_ofList (s : List Char) : (String.ofList s).utf8ByteSize = byteSize s := by
  induction s with
  | nil => rfl
  | cons c s ih =>
    rw [String.ofList_cons, String.utf8ByteSize_append, String.utf8ByteSize_singleton, ih,
      byteSize_cons]

theorem utf8ByteSize_eq (s : String) : s.utf8ByteSize = byteSize s.toList := by
  rw [← utf8ByteSize_ofList, String.ofList_toList]

theorem byteSize_append (s t : List Char) : byteSize (s ++ t) = byteSize s + byteSize t := by
  rw [byteSize, List.map_append, List.sum_append]
  rfl

theorem length_le_byteSize (s : List Char) : s.length ≤ byteSize s := by
  induction s with
  | nil => exact Nat.le_refl 0
  | cons c s ih =>
    have hc := Char.utf8Size_pos c
    rw [List.length_cons, byteSize_cons]
    omega

theorem utf8Size_of_ascii {c : Char} (h : c.toNat < 0x80) : c.utf8Size = 1 := by
  have hle : c.val ≤ 127 := UInt32.le_iff_toNat_le.2 (Nat.le_of_lt_succ h)
  simp [Char.utf8Size, hle]

theorem byteSize_of_ascii {s : List Char} (h : ∀ c ∈ s, c.toNat < 0x80) :
    byteSize s = s.length := by
  induction s with
  | nil => rfl
  | cons c s ih =>
    obtain ⟨hc, hs⟩ := List.forall_mem_cons.1 h
    rw [byteSize_cons, utf8Size_of_ascii hc, ih hs, List.length_cons, Nat.add_comm]

theorem sum_byteSize_intercalate {sep : Char} (hsep : sep.utf8Size = 1) {pieces : List (List Char)}
    (h : pieces ≠ []) :
    (pieces.map fun piece => byteSize piece + 1).sum = byteSize ([sep].intercalate pieces) + 1 := by
  induction pieces with
  | nil => exact absurd rfl h
  | cons piece rest ih =>
    cases rest with
    | nil => simp
    | cons next rest =>
      have hone : byteSize [sep] = 1 := by simp [byteSize, hsep]
      rw [List.map_cons, List.sum_cons, ih (List.cons_ne_nil next rest),
        List.intercalate_cons_cons, byteSize_append, byteSize_append, hone]
      omega

theorem sum_byteSize_split {sep : Char} (hsep : sep.utf8Size = 1) (s : List Char) :
    ((split sep s).map fun piece => byteSize piece + 1).sum = byteSize s + 1 := by
  rw [sum_byteSize_intercalate hsep (split_ne_nil sep s), intercalate_split]

end Text

/-! ### What a rank counts -/

namespace Path

namespace Rank

/-- Characters and slashes, and one more for each `**`, of which only one character counts. -/
def size (r : Rank) : Nat :=
  r.length + r.anyRuns

theorem ofChars_cons (depth : Int) (c : Char) (s : List Char) (r : Rank) :
    ∃ depth' counted, ofChars depth (c :: s) r = ofChars depth' s counted ∧
      counted.length ≤ r.length + 1 ∧ counted.anyRuns = r.anyRuns := by
  rw [ofChars]
  by_cases hopen : c = '\x7b'
  · rw [if_pos hopen]
    refine ⟨_, _, rfl, ?_⟩
    split
    · exact ⟨Nat.le_refl _, rfl⟩
    · exact ⟨Nat.le_succ _, rfl⟩
  · rw [if_neg hopen]
    split
    · exact ⟨_, r, rfl, Nat.le_succ _, rfl⟩
    · split
      · exact ⟨_, _, rfl, Nat.le_refl _, rfl⟩
      · exact ⟨_, r, rfl, Nat.le_succ _, rfl⟩

theorem ofChars_length_le (depth : Int) (s : List Char) (r : Rank) :
    (ofChars depth s r).length ≤ r.length + s.length ∧
      (ofChars depth s r).anyRuns = r.anyRuns := by
  induction s generalizing depth r with
  | nil => exact ⟨Nat.le_refl r.length, rfl⟩
  | cons c s ih =>
    obtain ⟨depth', counted, heq, hlength, hany⟩ := ofChars_cons depth c s r
    obtain ⟨hrest, hrestAny⟩ := ih depth' counted
    rw [heq, List.length_cons]
    exact ⟨by omega, hrestAny.trans hany⟩

theorem ofChars_unbraced {s : List Char} (h : ∀ c ∈ s, c ≠ '\x7b' ∧ c ≠ '\x7d') (r : Rank) :
    (ofChars 0 s r).length = r.length + s.length ∧ (ofChars 0 s r).captures = r.captures := by
  induction s generalizing r with
  | nil => exact ⟨rfl, rfl⟩
  | cons c s ih =>
    obtain ⟨hc, hs⟩ := List.forall_mem_cons.1 h
    rw [ofChars_outside s r hc.2 hc.1, List.length_cons, (ih hs _).1, (ih hs _).2]
    exact ⟨Nat.add_right_comm .., rfl⟩

theorem addSegment_cases (r : Rank) (text : String) :
    (text = "**" ∧
      r.addSegment text = { r with anyRuns := r.anyRuns + 1, length := r.length + 1 + 1 }) ∨
    (text.toList.head? = some ':' ∧
      r.addSegment text = { r with captures := r.captures + 1, length := r.length + 1 + 1 }) ∨
    text ≠ "**" ∧ text.toList.head? ≠ some ':' ∧
      r.addSegment text = { ofChars 0 text.toList r with
        length := (ofChars 0 text.toList r).length + 1 } := by
  unfold addSegment
  rcases ofText_cases text with ⟨hany, hkind⟩ | ⟨hcolon, name, hkind⟩ |
    ⟨hany, hcolon, ⟨-, hkind⟩ | hkind⟩
  · exact .inl ⟨hany, by rw [hkind]⟩
  · exact .inr (.inl ⟨hcolon, by rw [hkind]⟩)
  · exact .inr (.inr ⟨hany, hcolon, by rw [hkind]⟩)
  · exact .inr (.inr ⟨hany, hcolon, by rw [hkind]⟩)

theorem addSegment_size_le (r : Rank) (text : String) :
    (r.addSegment text).size ≤ r.size + (text.utf8ByteSize + 1) := by
  have hbytes : text.toList.length ≤ text.utf8ByteSize := by
    rw [Text.utf8ByteSize_eq]
    exact Text.length_le_byteSize text.toList
  unfold size
  rcases addSegment_cases r text with ⟨rfl, heq⟩ | ⟨hcolon, heq⟩ | ⟨-, -, heq⟩
  · have hstars : "**".utf8ByteSize = 2 := by decide
    simp only [heq, hstars]
    omega
  · obtain ⟨rest, hrest⟩ := List.head?_eq_some_iff.1 hcolon
    rw [hrest, List.length_cons] at hbytes
    simp only [heq]
    omega
  · obtain ⟨hlength, hany⟩ := ofChars_length_le 0 text.toList r
    simp only [heq]
    omega

theorem addSegment_unbraced {text : String} (hcolon : text.toList.head? ≠ some ':')
    (h : ∀ c ∈ text.toList, c ≠ '\x7b' ∧ c ≠ '\x7d') (r : Rank) :
    (r.addSegment text).size = r.size + (text.toList.length + 1) ∧
      (r.addSegment text).captures = r.captures := by
  unfold size
  rcases addSegment_cases r text with ⟨rfl, heq⟩ | ⟨hcapture, -⟩ | ⟨-, -, heq⟩
  · have hstars : "**".toList.length = 2 := by decide
    rw [heq, hstars]
    exact ⟨by simp only; omega, rfl⟩
  · exact absurd hcapture hcolon
  · obtain ⟨hlength, hcaptures⟩ := ofChars_unbraced h r
    have hany := (ofChars_length_le 0 text.toList r).2
    rw [heq]
    exact ⟨by simp only; omega, hcaptures⟩

theorem foldl_addSegment_size_le (texts : List String) (r : Rank) :
    (texts.foldl addSegment r).size ≤
      r.size + (texts.map fun text => text.utf8ByteSize + 1).sum := by
  induction texts generalizing r with
  | nil => exact Nat.le_refl r.size
  | cons text texts ih =>
    have hstep := addSegment_size_le r text
    have hrest := ih (r.addSegment text)
    rw [List.foldl_cons, List.map_cons, List.sum_cons]
    omega

theorem foldl_addSegment_unbraced {texts : List String}
    (hcolon : ∀ text ∈ texts, text.toList.head? ≠ some ':')
    (h : ∀ text ∈ texts, ∀ c ∈ text.toList, c ≠ '\x7b' ∧ c ≠ '\x7d') (r : Rank) :
    (texts.foldl addSegment r).size =
        r.size + (texts.map fun text => text.toList.length + 1).sum ∧
      (texts.foldl addSegment r).captures = r.captures := by
  induction texts generalizing r with
  | nil => exact ⟨rfl, rfl⟩
  | cons text texts ih =>
    obtain ⟨hcolonText, hcolonTexts⟩ := List.forall_mem_cons.1 hcolon
    obtain ⟨htext, htexts⟩ := List.forall_mem_cons.1 h
    obtain ⟨hsize, hcaptures⟩ := addSegment_unbraced hcolonText htext r
    obtain ⟨hrest, hrestCaptures⟩ := ih hcolonTexts htexts (r.addSegment text)
    rw [List.foldl_cons, List.map_cons, List.sum_cons]
    exact ⟨by omega, hrestCaptures.trans hcaptures⟩

theorem foldl_addSegment_anyRuns {texts : List String} (h : "**" ∉ texts) (r : Rank) :
    (texts.foldl addSegment r).anyRuns = r.anyRuns := by
  induction texts generalizing r with
  | nil => rfl
  | cons text texts ih =>
    obtain ⟨hne, hrest⟩ := not_or.1 fun hmem => h (List.mem_cons.2 hmem)
    have hstep : (r.addSegment text).anyRuns = r.anyRuns := by
      rcases addSegment_cases r text with ⟨hany, -⟩ | ⟨-, heq⟩ | ⟨-, -, heq⟩
      · exact absurd hany.symm hne
      · rw [heq]
      · rw [heq]
        exact (ofChars_length_le 0 text.toList r).2
    rw [List.foldl_cons, ih hrest, hstep]

end Rank

theorem sum_filter_le {α : Type} (p : α → Bool) (f : α → Nat) (l : List α) :
    ((l.filter p).map f).sum ≤ (l.map f).sum := by
  induction l with
  | nil => exact Nat.le_refl 0
  | cons a l ih =>
    rw [List.filter_cons]
    split
    · exact Nat.add_le_add_left ih (f a)
    · exact Nat.le_trans ih (Nat.le_add_left _ (f a))

theorem sum_segments_le {pattern : String} (h : Text.startsWithText "/" pattern = true) :
    ((segments pattern).map fun text => text.utf8ByteSize + 1).sum ≤ pattern.utf8ByteSize := by
  obtain ⟨rest, hrest⟩ := Text.startsWith_iff.1 h
  have hslash : '/'.utf8Size = 1 := by decide
  have hpattern : pattern.toList = '/' :: rest := hrest.symm
  have hsplit : Text.split '/' pattern.toList = [] :: Text.split '/' rest := by
    rw [hpattern, Text.split, if_pos rfl]
  have hsegments : segments pattern =
      ((Text.split '/' rest).map String.ofList).filter (· ≠ "") := by
    rw [segments, Text.splitText, hsplit, List.map_cons, List.filter_cons_of_neg]
    decide
  calc ((segments pattern).map fun text => text.utf8ByteSize + 1).sum
    _ ≤ (((Text.split '/' rest).map String.ofList).map fun text => text.utf8ByteSize + 1).sum := by
      rw [hsegments]
      exact sum_filter_le ..
    _ = ((Text.split '/' rest).map fun piece => Text.byteSize piece + 1).sum := by
      rw [List.map_map]
      refine congrArg List.sum (List.map_congr_left fun piece _ => ?_)
      rw [Function.comp_apply, Text.utf8ByteSize_ofList]
    _ = Text.byteSize rest + 1 := Text.sum_byteSize_split hslash rest
    _ = pattern.utf8ByteSize := by
      rw [Text.utf8ByteSize_eq, hpattern, Text.byteSize_cons, hslash, Nat.add_comm]

/-- A pattern written out plainly: rooted, without empty segments, variables, braces and
characters of more than one byte. -/
structure PlainPattern (pattern : String) : Prop where
  joined : pattern.toList = (segments pattern).flatMap fun text => '/' :: text.toList
  ascii : ∀ c ∈ pattern.toList, c.toNat < 0x80
  unbraced : ∀ c ∈ pattern.toList, c ≠ '\x7b' ∧ c ≠ '\x7d'
  unnamed : ∀ text ∈ segments pattern, text.toList.head? ≠ some ':'

theorem Rank.ofPattern_size_le {pattern : String} (h : Text.startsWithText "/" pattern = true) :
    (ofPattern pattern).size ≤ pattern.utf8ByteSize := by
  have hsize := foldl_addSegment_size_le (segments pattern) {}
  have hempty : ({} : Rank).size = 0 := rfl
  have hsum := sum_segments_le h
  rw [ofPattern]
  omega

theorem Rank.ofPattern_plain {pattern : String} (h : PlainPattern pattern) :
    (ofPattern pattern).size = pattern.utf8ByteSize ∧ (ofPattern pattern).captures = 0 := by
  have hunbraced : ∀ text ∈ segments pattern, ∀ c ∈ text.toList, c ≠ '\x7b' ∧ c ≠ '\x7d' := by
    intro text htext c hc
    refine h.unbraced c ?_
    rw [h.joined]
    exact List.mem_flatMap.2 ⟨text, htext, List.mem_cons_of_mem '/' hc⟩
  obtain ⟨hsize, hcaptures⟩ := foldl_addSegment_unbraced h.unnamed hunbraced {}
  refine ⟨?_, hcaptures⟩
  calc (ofPattern pattern).size
    _ = 0 + ((segments pattern).map fun text => text.toList.length + 1).sum := hsize
    _ = pattern.toList.length := by
      rw [Nat.zero_add, h.joined, List.length_flatMap]
      rfl
    _ = pattern.utf8ByteSize := by rw [Text.utf8ByteSize_eq, Text.byteSize_of_ascii h.ascii]

/-! ### Longer patterns are no less specific -/

theorem then_ne_lt {a b : Ordering} (ha : a ≠ .lt) (hb : a = .eq → b ≠ .lt) : a.then b ≠ .lt := by
  cases a with
  | lt => exact absurd rfl ha
  | eq => exact hb rfl
  | gt => exact Ordering.noConfusion

theorem compareRanks_ne_lt {a b : Rank} (hany : b.anyRuns ≤ a.anyRuns) (hruns : b.runs ≤ a.runs)
    (hcaptures : b.captures = 0) (hsize : a.size ≤ b.size) : compareRanks a b ≠ .lt := by
  unfold compareRanks Rank.size Rank.wildcards at *
  refine then_ne_lt ?_ fun _ => then_ne_lt ?_ fun hwildcards => then_ne_lt ?_ fun _ =>
    then_ne_lt ?_ fun _ => ?_
  · by_cases hb : 0 < b.anyRuns
    · simp [hb, Nat.lt_of_lt_of_le hb hany]
    · cases ha : decide (0 < a.anyRuns) <;> simp [hb]
  · exact Nat.compare_ne_lt.2 (by omega)
  · -- with the same wildcards of each kind, what is no larger is no longer either
    have heq := Nat.compare_eq_eq.1 hwildcards
    exact Nat.compare_ne_lt.2 (by omega)
  · exact Nat.compare_ne_lt.2 hruns
  · exact Nat.compare_ne_lt.2 (by omega)

/-- A rooted pattern with `**` is at least as long as the catch-all, and only the catch-all is no
longer. -/
theorem eq_catchAll {pattern : String} (hrooted : Text.startsWithText "/" pattern = true)
    (hbytes : pattern.utf8ByteSize ≤ 3) (hany : 0 < (Rank.ofPattern pattern).anyRuns) :
    pattern = "/**" := by
  obtain ⟨rest, hrest⟩ := Text.startsWith_iff.1 hrooted
  have hpattern : pattern.toList = '/' :: rest := hrest.symm
  have hstars : "**" ∈ segments pattern := by
    refine Decidable.byContradiction fun hnone => ?_
    rw [Rank.ofPattern, Rank.foldl_addSegment_anyRuns hnone] at hany
    exact absurd hany (Nat.lt_irrefl 0)
  have hsegment : ['*', '*'] ∈ Text.split '/' ('/' :: rest) := by
    have hmem := (List.mem_filter.1 hstars).1
    rw [Text.splitText, hpattern] at hmem
    obtain ⟨piece, hpiece, heq⟩ := List.mem_map.1 hmem
    have hchars : piece = ['*', '*'] := by
      rw [← @String.toList_ofList piece, heq]
      decide
    rwa [← hchars]
  have hwithin : ['*', '*'] <:+: rest := by
    rw [Text.split, if_pos rfl] at hsegment
    rcases List.mem_cons.1 hsegment with hnil | hmem
    · cases hnil
    · exact Text.isInfix_of_mem_split hmem
  have hlength : rest.length ≤ 2 := by
    have hle := Text.length_le_byteSize pattern.toList
    rw [← Text.utf8ByteSize_eq, hpattern, List.length_cons] at hle
    omega
  have heq : rest = ['*', '*'] := (hwithin.eq_of_length_le hlength).symm
  rw [← @String.ofList_toList pattern, hpattern, heq]

/-- Of two rooted patterns that are not the path the longer one is no less specific, if it is
written out plainly and has no more wildcards of either kind. -/
theorem comparePatterns_ne_lt_of_longer {path longer other : String} (hplain : PlainPattern longer)
    (hrooted : Text.startsWithText "/" other = true) (hpath : other ≠ path)
    (hbytes : other.utf8ByteSize ≤ longer.utf8ByteSize)
    (hany : (Rank.ofPattern longer).anyRuns ≤ (Rank.ofPattern other).anyRuns)
    (hruns : (Rank.ofPattern longer).runs ≤ (Rank.ofPattern other).runs) :
    comparePatterns path other longer ≠ .lt := by
  obtain ⟨hsize, hcaptures⟩ := Rank.ofPattern_plain hplain
  have hranks : compareRanks (Rank.ofPattern other) (Rank.ofPattern longer) ≠ .lt := by
    refine compareRanks_ne_lt hany hruns hcaptures ?_
    rw [hsize]
    exact Nat.le_trans (Rank.ofPattern_size_le hrooted) hbytes
  refine then_ne_lt ?_ fun _ => then_ne_lt ?_ fun _ => hranks
  · cases hlonger : decide (longer ≠ path) <;> simp [hpath]
  · by_cases hall : longer = "/**"
    · subst hall
      have hcounted : (Rank.ofPattern "/**").anyRuns = 1 := by decide +kernel
      have hthree : "/**".utf8ByteSize = 3 := by decide
      have hother := eq_catchAll hrooted (hthree ▸ hbytes) (by omega)
      rw [hother]
      decide
    · have hunrooted : longer ≠ "**" := by
        rintro rfl
        exact absurd hplain.joined (by decide +kernel)
      have hcatchAll : isCatchAll longer = false := by simp [isCatchAll, hall, hunrooted]
      rw [hcatchAll]
      cases isCatchAll other <;> decide

end Path

end RequestDispatch
