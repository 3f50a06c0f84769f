/-!
# Cutting text at separators

The functions work on lists of characters; the versions on `String` end in `Text`.
-/
namespace RequestDispatch.Text

/-- The pieces between the occurrences of `sep`. There is always at least one. -/
def split (sep : Char) : List Char → List (List Char)
  | [] => [[]]
  | c :: rest =>
    if c = sep then [] :: split sep rest
    else
      match split sep rest with
      | [] => [[c]]
      | piece :: pieces => (c :: piece) :: pieces

theorem split_ne_nil (sep : Char) (s : List Char) : split sep s ≠ [] := by
  cases s with
  | nil => simp [split]
  | cons c rest =>
    rw [split]
    split
    · simp
    · split <;> simp

theorem intercalate_split (sep : Char) (s : List Char) : [sep].intercalate (split sep s) = s := by
  induction s with
  | nil => rfl
  | cons c rest ih =>
    rw [split]
    split
    · next h =>
      obtain ⟨piece, pieces, hp⟩ := List.exists_cons_of_ne_nil (split_ne_nil sep rest)
      rw [hp] at ih ⊢
      rw [List.intercalate_cons_cons, ih, h]
      rfl
    · split
      · next h => exact absurd h (split_ne_nil sep rest)
      · next piece pieces hp =>
        rw [hp] at ih
        rw [← ih]
        cases pieces <;> simp [List.intercalate_cons_cons]

theorem not_mem_of_mem_split {sep : Char} {s piece : List Char} (h : piece ∈ split sep s) :
    sep ∉ piece := by
  induction s generalizing piece with
  | nil => simp_all [split]
  | cons c rest ih =>
    rw [split] at h
    split at h
    · rcases List.mem_cons.1 h with rfl | h
      · simp
      · exact ih h
    · next hc =>
      split at h
      · obtain rfl : piece = [c] := by simpa using h
        simpa using Ne.symm hc
      · next first pieces hp =>
        rcases List.mem_cons.1 h with rfl | h
        · have hf : first ∈ split sep rest := hp ▸ List.mem_cons_self
          simpa using ⟨Ne.symm hc, ih hf⟩
        · exact ih (hp ▸ List.mem_cons_of_mem first h)

theorem split_of_notMem {sep : Char} {s : List Char} (h : sep ∉ s) : split sep s = [s] := by
  induction s with
  | nil => rfl
  | cons c rest ih =>
    rw [List.mem_cons, not_or] at h
    rw [split, if_neg (Ne.symm h.1), ih h.2]

/-- A separator ends the last piece before it and begins the first behind it. -/
theorem split_append_cons (sep : Char) (s rest : List Char) :
    split sep (s ++ sep :: rest) = split sep s ++ split sep rest := by
  induction s with
  | nil => simp [split]
  | cons c s ih =>
    rw [List.cons_append, split, split, ih]
    split
    · rfl
    · obtain ⟨piece, pieces, hp⟩ := List.exists_cons_of_ne_nil (split_ne_nil sep s)
      rw [hp]
      rfl

theorem split_intercalate {sep : Char} {pieces : List (List Char)} (hne : pieces ≠ [])
    (h : ∀ piece ∈ pieces, sep ∉ piece) : split sep ([sep].intercalate pieces) = pieces := by
  induction pieces with
  | nil => exact absurd rfl hne
  | cons piece rest ih =>
    obtain ⟨hpiece, hrest⟩ := List.forall_mem_cons.1 h
    cases rest with
    | nil => rw [List.intercalate_singleton, split_of_notMem hpiece]
    | cons next rest =>
      rw [List.intercalate_cons_cons, List.append_assoc, List.singleton_append, split_append_cons,
        split_of_notMem hpiece, ih (List.cons_ne_nil next rest) hrest]
      rfl

theorem isInfix_intercalate {sep piece : List Char} {pieces : List (List Char)}
    (h : piece ∈ pieces) : piece <:+: sep.intercalate pieces := by
  induction pieces with
  | nil => cases h
  | cons first rest ih =>
    cases rest with
    | nil =>
      obtain rfl := List.mem_singleton.1 h
      simp
    | cons next rest =>
      rw [List.intercalate_cons_cons]
      rcases List.mem_cons.1 h with rfl | hrest
      · exact ⟨[], sep ++ sep.intercalate (next :: rest), by simp⟩
      · exact (ih hrest).trans (List.suffix_append _ _).isInfix

theorem isInfix_of_mem_split {sep : Char} {s piece : List Char} (h : piece ∈ split sep s) :
    piece <:+: s := by
  rw [← intercalate_split sep s]
  exact isInfix_intercalate h

def splitText (sep : Char) (s : String) : List String :=
  (split sep s.toList).map String.ofList

def splitOnce? (sep : Char) : List Char → Option (List Char × List Char)
  | [] => none
  | c :: rest =>
    if c = sep then some ([], rest)
    else (splitOnce? sep rest).map fun (before, after) => (c :: before, after)

theorem splitOnce?_eq_none_iff {sep : Char} {s : List Char} :
    splitOnce? sep s = none ↔ sep ∉ s := by
  induction s with
  | nil => simp [splitOnce?]
  | cons c rest ih =>
    by_cases h : c = sep
    · simp [splitOnce?, h]
    · simp [splitOnce?, h, ih, Ne.symm h]

theorem splitOnce?_eq_some_iff {sep : Char} {s before after : List Char} :
    splitOnce? sep s = some (before, after) ↔ s = before ++ sep :: after ∧ sep ∉ before := by
  induction s generalizing before with
  | nil => simp [splitOnce?]
  | cons c rest ih =>
    rw [splitOnce?]
    split
    · next h =>
      subst h
      cases before with
      | nil => simp
      | cons b before => simp only [Option.some.injEq, Prod.mk.injEq]; grind
    · next h =>
      cases before with
      | nil => simp [h]
      | cons b before =>
        simp only [Option.map_eq_some_iff, Prod.mk.injEq, List.cons_append, List.cons.injEq,
          List.mem_cons, not_or]
        constructor
        · rintro ⟨⟨b', a'⟩, hs, ⟨rfl, rfl⟩, rfl⟩
          have := ih.1 hs
          exact ⟨⟨rfl, this.1⟩, Ne.symm h, this.2⟩
        · rintro ⟨⟨rfl, hs⟩, -, hb⟩
          exact ⟨(before, after), ih.2 ⟨hs, hb⟩, ⟨rfl, rfl⟩, rfl⟩

def upTo (sep : Char) (s : List Char) : List Char :=
  s.takeWhile (· ≠ sep)

theorem notMem_upTo (sep : Char) (s : List Char) : sep ∉ upTo sep s := by
  intro h
  simpa using List.all_eq_true.1 List.all_takeWhile sep h

theorem upTo_of_notMem {sep : Char} {s : List Char} (h : sep ∉ s) : upTo sep s = s := by
  induction s with
  | nil => rfl
  | cons c s ih =>
    rw [List.mem_cons, not_or] at h
    rw [upTo, List.takeWhile_cons_of_pos (by simpa using Ne.symm h.1)]
    exact congrArg (c :: ·) (ih h.2)

/-- What follows `front`, if the text starts with it. -/
def after? : (front s : List Char) → Option (List Char)
  | [], s => some s
  | _ :: _, [] => none
  | f :: front, c :: s => if f = c then after? front s else none

theorem after?_eq_some_iff {front s rest : List Char} :
    after? front s = some rest ↔ s = front ++ rest := by
  induction front generalizing s with
  | nil => simp [after?]
  | cons f front ih =>
    cases s with
    | nil => simp [after?]
    | cons c s =>
      by_cases h : f = c
      · simp [after?, h, ih]
      · simp [after?, h, Ne.symm h]

def startsWith (front s : List Char) : Bool :=
  (after? front s).isSome

theorem startsWith_iff {front s : List Char} : startsWith front s = true ↔ front <+: s := by
  rw [startsWith, Option.isSome_iff_exists]
  exact exists_congr fun rest => after?_eq_some_iff.trans eq_comm

def startsWithText (front s : String) : Bool :=
  startsWith front.toList s.toList

def endsWith (back s : List Char) : Bool :=
  startsWith back.reverse s.reverse

theorem endsWith_iff {back s : List Char} : endsWith back s = true ↔ back <:+ s := by
  rw [endsWith, startsWith_iff, List.reverse_prefix]

/-- What follows the first occurrence of `part`. The empty part occurs at the front. -/
def afterFirst? (part : List Char) : List Char → Option (List Char)
  | [] => after? part []
  | c :: s =>
    match after? part (c :: s) with
    | some rest => some rest
    | none => afterFirst? part s

/-- The text without the characters of `drop` at its end. -/
def dropEndWhile (drop : Char → Bool) (s : List Char) : List Char :=
  (s.reverse.dropWhile drop).reverse

/-- Lines end at a line feed, and a carriage return before it belongs to the line end. A line end
at the end of the text opens no further line. -/
def lines (s : List Char) : List (List Char) :=
  let pieces := split '\n' s
  let bodies := if pieces.getLast? = some [] then pieces.dropLast else pieces
  let last := pieces.length - 1
  bodies.zipIdx.map fun (line, i) =>
    if i < last ∧ line.getLast? = some '\r' then line.dropLast else line

/-- A byte order mark at the front of a text is no part of it. -/
def skipMark : List Char → List Char
  | '\uFEFF' :: rest => rest
  | s => s

def joinText (sep : String) (parts : List String) : String :=
  sep.intercalate parts

end RequestDispatch.Text
