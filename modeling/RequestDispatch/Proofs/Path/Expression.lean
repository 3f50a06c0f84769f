import RequestDispatch.Proofs.Path.Wildcards
import RequestDispatch.Proofs.Regex.Matches
import RequestDispatch.Proofs.Regex.Reading

/-! # Segments as regular expressions

The text of the expression is read as the tree that the pieces stand for, and a search for that
tree succeeds in the values that split along the pieces with no line feed for a wildcard to take. -/
namespace RequestDispatch.Path

open Regex (Node Item dotStar concatenation)

/-! ### Names of groups -/

theorem toList_groupName (index : Nat) :
    (groupName index).toList = 'v' :: Nat.toDigits 10 index := by
  simp [groupName, Nat.repr_eq_ofList_toDigits]

theorem groupName_inj {a b : Nat} (h : groupName a = groupName b) : a = b := by
  have hdigits : Nat.toDigits 10 a = Nat.toDigits 10 b := by
    have hlist := congrArg String.toList h
    rw [toList_groupName, toList_groupName] at hlist
    exact (List.cons.inj hlist).2
  have hread : ∀ n, Nat.ofDigitChars 10 (Nat.toDigits 10 n) 0 = n := fun n =>
    Nat.ofDigitChars_toDigits (by decide) (by decide)
  rw [← hread a, ← hread b, hdigits]

theorem isNameChar_v : Regex.isNameChar true 'v' = true := by
  have hletter : (Text.category 'v').isLetter = true := by
    rw [Text.category_of_isLower (by decide)]
    rfl
  simp [Regex.isNameChar, Text.isAlphabetic, hletter]

theorem isNameChar_of_isDigit {c : Char} (h : c.isDigit = true) :
    Regex.isNameChar false c = true := by
  have hnumber : Text.isNumeric c = true := by
    rw [Text.isNumeric, Text.category_of_isDigit h]
    rfl
  simp [Regex.isNameChar, Text.isAlphanumeric, hnumber]

def groupNames (count : Nat) : List (String × Nat) :=
  (List.range count).map fun index => (groupName index, index + 1)

theorem groupNames_succ (count : Nat) :
    groupNames (count + 1) = groupNames count ++ [(groupName count, count + 1)] := by
  simp [groupNames, List.range_succ]

theorem ne_groupName_of_mem {count : Nat} {e : String × Nat} (h : e ∈ groupNames count) :
    e.1 ≠ groupName count := by
  obtain ⟨index, hindex, rfl⟩ := List.mem_map.1 h
  intro heq
  have hlt := List.mem_range.1 hindex
  exact Nat.ne_of_lt hlt (groupName_inj heq)

/-! ### Reading the expression -/

def Piece.item (group : Nat) (p : Piece) : Item where
  node := p.node group
  depth :=
    match p with
    | .literal _ | .one => 0
    | .run => 1
    | .variable _ _ => 2

def Piece.fuel : Piece → Nat
  | .run => 2
  | _ => 1

def itemsOf (groups : Nat) : List Piece → List Item
  | [] => []
  | p :: ps => p.item (groups + 1) :: itemsOf (p.groupsAfter groups) ps

theorem map_node_itemsOf (groups : Nat) (ps : List Piece) :
    (itemsOf groups ps).map (·.node) ++ [.look .textEnd] = nodes groups ps := by
  induction ps generalizing groups with
  | nil => rfl
  | cons p ps ih =>
    rw [itemsOf, List.map_cons, List.cons_append, ih]
    rfl

def groupsOf (groups : Nat) (ps : List Piece) : Nat :=
  ps.foldl Piece.groupsAfter groups

def fuelFor : List Piece → Nat
  | [] => 0
  | p :: ps => p.fuel + fuelFor ps

theorem toList_escaped (c : Char) :
    (escaped c).toList = if c ∈ Regex.metaCharacters then ['\\', c] else [c] := by
  rw [escaped]
  split
  · next h => simp [List.contains_iff_mem.1 h]
  · next h =>
    have hc : c ∉ Regex.metaCharacters := fun hmem => h (List.contains_iff_mem.2 hmem)
    simp [hc]

/-- No piece begins with a question mark, which would belong to the repetition before it. -/
theorem head?_expression {ps : List Piece} {next : Nat} {s : List Char}
    (hs : s.head? ≠ some '?') : ((expression next ps).toList ++ s).head? ≠ some '?' := by
  match ps with
  | [] => simpa [expression] using hs
  | .literal c :: ps =>
    rw [expression, String.toList_append, toList_escaped]
    split
    · simp
    · next hc =>
      have hne : c ≠ '?' := by
        rintro rfl
        exact hc (by decide)
      simpa using hne
  | .one :: ps | .run :: ps | .variable _ _ :: ps => simp [expression]

theorem concatenation_piece {p : Piece} (hp : p.IsPlain) {ps : List Piece} {fuel next : Nat}
    (hfuel : 4 ≤ fuel) {s : List Char} (hs : s.head? ≠ some '?') (items : List Item) :
    concatenation (fuel + p.fuel) items
        ⟨(expression next (p :: ps)).toList ++ s, {}, next, groupNames next⟩ =
      concatenation fuel (p.item (next + 1) :: items)
        ⟨(expression (p.groupsAfter next) ps).toList ++ s, {}, p.groupsAfter next,
          groupNames (p.groupsAfter next)⟩ := by
  match p, hp with
  | .literal c, _ =>
    rw [expression, String.toList_append, toList_escaped]
    split
    · next hc => exact Regex.concatenation_escaped rfl hc
    · next hc => exact Regex.concatenation_plain hc
  | .one, _ =>
    rw [expression, String.toList_append]
    exact Regex.concatenation_dot
  | .run, _ =>
    rw [expression, String.toList_append]
    exact Regex.concatenation_dotStar (head?_expression hs)
  | .variable name _, ⟨rfl, _⟩ =>
    have hdigits : ∀ c ∈ Nat.toDigits 10 next, c.isDigit = true :=
      fun c hc => Nat.isDigit_of_mem_toDigits (by decide) (by decide) hc
    have htext : (expression next (.variable name none :: ps)).toList ++ s =
        "(?P<".toList ++ ('v' :: Nat.toDigits 10 next ++
          '>' :: '.' :: '*' :: ')' :: ((expression (next + 1) ps).toList ++ s)) := by
      simp [expression, toList_groupName]
    have hname : String.ofList ('v' :: Nat.toDigits 10 next) = groupName next := by
      rw [← toList_groupName, String.ofList_toList]
    have hclose : ∀ c ∈ 'v' :: Nat.toDigits 10 next, c ≠ '>' := by
      refine List.forall_mem_cons.2 ⟨by decide, ?_⟩
      rintro c hc rfl
      exact absurd (hdigits '>' hc) (by decide)
    rw [htext]
    refine (Regex.concatenation_capture hfuel isNameChar_v
      (fun c hc => isNameChar_of_isDigit (hdigits c hc)) hclose ?_).trans ?_
    · rw [hname]
      exact fun e he => ne_groupName_of_mem he
    · rw [hname, ← groupNames_succ]
      rfl

theorem concatenation_pieces {ps : List Piece} (hps : ∀ p ∈ ps, p.IsPlain) {fuel next : Nat}
    (hfuel : 4 ≤ fuel) {s : List Char} (hs : s.head? ≠ some '?') (items : List Item) :
    concatenation (fuel + fuelFor ps) items
        ⟨(expression next ps).toList ++ s, {}, next, groupNames next⟩ =
      concatenation fuel ((itemsOf next ps).reverse ++ items)
        ⟨s, {}, groupsOf next ps, groupNames (groupsOf next ps)⟩ := by
  induction ps generalizing next items with
  | nil => simp [fuelFor, expression, itemsOf, groupsOf]
  | cons p ps ih =>
    obtain ⟨hp, hps⟩ := List.forall_mem_cons.1 hps
    have hmore : fuel + fuelFor (p :: ps) = fuel + fuelFor ps + p.fuel := by
      rw [fuelFor]
      omega
    rw [hmore, concatenation_piece hp (by omega) hs, ih hps, itemsOf, List.reverse_cons,
      List.append_assoc]
    rfl

/-! ### The whole expression -/

theorem fuelFor_le_length (ps : List Piece) (next : Nat) :
    fuelFor ps ≤ (expression next ps).toList.length := by
  induction ps generalizing next with
  | nil => exact Nat.zero_le _
  | cons p ps ih =>
    rw [fuelFor]
    match p with
    | .literal c =>
      have hescaped : 0 < (escaped c).toList.length := by
        rw [toList_escaped]
        split <;> exact Nat.succ_pos _
      have := ih next
      rw [expression, String.toList_append, List.length_append]
      simp only [Piece.fuel]
      omega
    | .one | .run =>
      have := ih next
      rw [expression, String.toList_append, List.length_append]
      exact Nat.add_le_add (Nat.le_refl _) this
    | .variable _ _ =>
      have := ih (next + 1)
      rw [expression, String.toList_append, List.length_append]
      refine Nat.add_le_add ?_ this
      simp [Piece.fuel]

theorem depth_le_of_mem {ps : List Piece} {groups : Nat} {item : Item}
    (h : item ∈ itemsOf groups ps) : item.depth ≤ 2 := by
  induction ps generalizing groups with
  | nil => cases h
  | cons p ps ih =>
    rcases List.mem_cons.1 h with rfl | h
    · cases p <;> simp [Piece.item]
    · exact ih h

theorem foldl_max_le {depths : List Nat} {bound start : Nat} (hstart : start ≤ bound)
    (h : ∀ d ∈ depths, d ≤ bound) : depths.foldl Nat.max start ≤ bound := by
  induction depths generalizing start with
  | nil => exact hstart
  | cons d depths ih =>
    obtain ⟨hd, hdepths⟩ := List.forall_mem_cons.1 h
    exact ih (Nat.max_le.2 ⟨hstart, hd⟩) hdepths

/-- The items of a segment, the end of the text first. -/
def readItems (ps : List Piece) : List Item :=
  { node := .look .textEnd } :: ((itemsOf 0 ps).reverse ++ [{ node := .look .textStart }])

theorem sequence_readItems (ps : List Piece) :
    (Regex.sequence (readItems ps)).node = tree ps ∧
      (Regex.sequence (readItems ps)).depth ≤ Regex.maxDepth := by
  have hdepth : ∀ d ∈ (readItems ps).map (·.depth), d ≤ 2 := by
    intro d hd
    obtain ⟨item, hitem, rfl⟩ := List.mem_map.1 hd
    simp only [readItems, List.mem_cons, List.mem_append, List.mem_reverse, List.not_mem_nil,
      or_false] at hitem
    rcases hitem with rfl | hitem | rfl
    · exact Nat.zero_le 2
    · exact depth_le_of_mem hitem
    · exact Nat.zero_le 2
  have hnode : Node.seqAll ((readItems ps).reverse.map (·.node)) = tree ps := by
    rw [tree, ← map_node_itemsOf]
    simp [readItems]
  obtain ⟨second, more, hitems⟩ : ∃ second more,
      readItems ps = { node := .look .textEnd } :: second :: more := by
    cases hrest : (itemsOf 0 ps).reverse ++ [{ node := .look .textStart }] with
    | nil => simp at hrest
    | cons second more => exact ⟨second, more, by rw [readItems, hrest]⟩
  have hsequence : Regex.sequence (readItems ps) =
      { node := .seqAll ((readItems ps).reverse.map (·.node))
        depth := ((readItems ps).map (·.depth)).foldl Nat.max 0 + 1 } := by
    rw [hitems]
    rfl
  rw [hsequence]
  refine ⟨hnode, ?_⟩
  calc ((readItems ps).map (·.depth)).foldl Nat.max 0 + 1
    _ ≤ 2 + 1 := Nat.succ_le_succ (foldl_max_le (Nat.zero_le 2) hdepth)
    _ ≤ Regex.maxDepth := by decide

theorem ofText?_expression {ps : List Piece} (hps : ∀ p ∈ ps, p.IsPlain) :
    Regex.Pattern.ofText? ("^" ++ expression 0 ps ++ "$") =
      if (tree ps).weight ≤ Node.maxWeight then
        some ⟨"^" ++ expression 0 ps ++ "$", tree ps, groupNames (groupsOf 0 ps)⟩
      else none := by
  have hchars : ("^" ++ expression 0 ps ++ "$").toList =
      '^' :: ((expression 0 ps).toList ++ ['$']) := by
    simp
  obtain ⟨spare, hspare⟩ : ∃ spare,
      2 * ('^' :: ((expression 0 ps).toList ++ ['$'])).length + 4 =
        spare + 4 + fuelFor ps + 1 + 1 := by
    -- four for the group of a variable, one for the start and one for the alternatives around it
    have := fuelFor_le_length ps 0
    refine ⟨2 * (expression 0 ps).toList.length + 2 - fuelFor ps, ?_⟩
    simp only [List.length_cons, List.length_append, List.length_nil]
    omega
  have hconcatenation : concatenation (spare + 4 + fuelFor ps + 1) []
      ⟨'^' :: ((expression 0 ps).toList ++ ['$']), {}, 0, []⟩ =
        some (Regex.sequence (readItems ps),
          ⟨[], {}, groupsOf 0 ps, groupNames (groupsOf 0 ps)⟩) := by
    refine Regex.concatenation_caret.trans ?_
    refine (concatenation_pieces hps (Nat.le_add_left 4 spare) (by simp) _).trans ?_
    exact Regex.concatenation_dollar.trans Regex.concatenation_nil
  have hread : Regex.alternatives (spare + 4 + fuelFor ps + 1 + 1)
      ⟨'^' :: ((expression 0 ps).toList ++ ['$']), {}, 0, []⟩ =
        some (Regex.sequence (readItems ps),
          ⟨[], {}, groupsOf 0 ps, groupNames (groupsOf 0 ps)⟩) := by
    rw [Regex.alternatives]
    exact Regex.Scan.bind_of_eq_some hconcatenation
  obtain ⟨hnode, hdepth⟩ := sequence_readItems ps
  rw [Regex.Pattern.ofText?, hchars]
  simp only [hspare, StateT.run, hread, hnode, hdepth, true_and]

/-! ### What the expression matches -/

theorem seqAll_cons_matches {s : List Char} {n : Node} {rest : List Node} {i j : Nat} :
    (Node.seqAll (n :: rest)).Matches s i j ↔
      ∃ k, n.Matches s i k ∧ (Node.seqAll rest).Matches s k j := by
  cases rest with
  | nil => simp [Node.seqAll, Node.Matches]
  | cons _ _ => rfl

section matching

variable {s : List Char} {i : Nat} {p : Piece} {ps : List Piece} {P : Nat → Prop}

theorem single_contains {c d : Char} : (Regex.CharSet.single c).contains d = true ↔ d = c := by
  simp only [Regex.CharSet.single, Regex.CharSet.contains, Bool.and_eq_true, decide_eq_true_eq]
  constructor
  · exact fun ⟨hle, hge⟩ => Char.le_antisymm hge hle
  · rintro rfl
    exact ⟨Char.le_refl d, Char.le_refl d⟩

theorem notNewline_contains {c : Char} : Regex.CharSet.notNewline.contains c = true ↔ c ≠ '\n' := by
  rw [Regex.CharSet.notNewline, Regex.CharSet.contains, Bool.not_eq_true', ← Bool.not_eq_true,
    single_contains]

theorem exists_set_matches (cs : Regex.CharSet) (P : Nat → Prop) :
    (∃ k, (Node.set cs).Matches s i k ∧ P k) ↔
      (s.drop i).head?.any cs.contains = true ∧ P (i + 1) := by
  rw [List.head?_drop]
  simp [Node.Matches, and_assoc]

theorem exists_anyRun_matches :
    (∃ k, Node.anyRun.Matches s i k ∧ P k) ↔
      P i ∨ (s.drop i).head?.any Regex.CharSet.notNewline.contains = true ∧
        ∃ k, Node.anyRun.Matches s (i + 1) k ∧ P k := by
  have hmatches : ∀ i k, Node.anyRun.Matches s i k ↔
      ∃ count, Regex.Times (Node.Matches s (.set .notNewline)) count i k := by
    intro i k
    simp [Node.anyRun, Node.Matches]
  have hstep := exists_set_matches (s := s) (i := i) .notNewline
    fun l => ∃ k, (∃ count, Regex.Times (Node.Matches s (.set .notNewline)) count l k) ∧ P k
  simp only [hmatches]
  rw [← hstep]
  constructor
  · rintro ⟨k, ⟨_ | count, htimes⟩, hP⟩
    · exact .inl (htimes ▸ hP)
    · obtain ⟨l, hset, htimes⟩ := htimes
      exact .inr ⟨l, hset, k, ⟨count, htimes⟩, hP⟩
  · rintro (hP | ⟨l, hset, k, ⟨count, htimes⟩, hP⟩)
    · exact ⟨i, ⟨0, rfl⟩, hP⟩
    · exact ⟨k, ⟨count + 1, l, hset, htimes⟩, hP⟩

theorem drop_succ_of_drop {c : Char} {rest : List Char} (h : s.drop i = c :: rest) :
    i + 1 ≤ s.length ∧ s.drop (i + 1) = rest := by
  constructor
  · refine Nat.lt_of_not_le fun hle => ?_
    rw [List.drop_of_length_le hle] at h
    cases h
  · rw [← List.tail_drop, h, List.tail_cons]

theorem exists_set_iff_splits {cs : Regex.CharSet} (hp : p.takesRun = false)
    (hcs : ∀ c rest, Splits (· ≠ '\n') (p :: ps) (c :: rest) ↔
      cs.contains c = true ∧ Splits (· ≠ '\n') ps rest)
    (hP : ∀ k ≤ s.length, P k ↔ Splits (· ≠ '\n') ps (s.drop k)) :
    (∃ k, (Node.set cs).Matches s i k ∧ P k) ↔ Splits (· ≠ '\n') (p :: ps) (s.drop i) := by
  rw [exists_set_matches]
  cases hrest : s.drop i with
  | nil => simp [Splits.nil_text_iff, hp]
  | cons c rest =>
    obtain ⟨hle, hdrop⟩ := drop_succ_of_drop hrest
    rw [hP (i + 1) hle, hdrop, List.head?_cons, Option.any_some, hcs]

theorem exists_anyRun_iff_splits (hp : p.takesRun = true)
    (hP : ∀ k ≤ s.length, P k ↔ Splits (· ≠ '\n') ps (s.drop k)) (hi : i ≤ s.length) :
    (∃ k, Node.anyRun.Matches s i k ∧ P k) ↔ Splits (· ≠ '\n') (p :: ps) (s.drop i) := by
  induction hrest : s.drop i generalizing i with
  | nil =>
    rw [exists_anyRun_matches, hP i hi, hrest, Splits.nil_text_iff]
    simp [hp]
  | cons c rest ih =>
    obtain ⟨hle, hdrop⟩ := drop_succ_of_drop hrest
    rw [exists_anyRun_matches, hP i hi, ih hle hdrop, hrest, List.head?_cons, Option.any_some,
      notNewline_contains, Splits.run_cons_iff hp]

theorem nodes_matches {groups : Nat} (hi : i ≤ s.length) :
    (∃ j, (Node.seqAll (nodes groups ps)).Matches s i j) ↔
      Splits (· ≠ '\n') ps (s.drop i) := by
  induction ps generalizing groups i with
  | nil => simp [nodes, Node.seqAll, Node.Matches, Regex.Look.holds, Splits.nil_iff]
  | cons p ps ih =>
    simp only [nodes, seqAll_cons_matches]
    rw [exists_comm]
    simp only [exists_and_left]
    have hrest : ∀ k ≤ s.length, (∃ j, (Node.seqAll
        (nodes (p.groupsAfter groups) ps)).Matches s k j) ↔
          Splits (· ≠ '\n') ps (s.drop k) := fun k hk => ih hk
    cases p with
    | literal c =>
      refine exists_set_iff_splits rfl (fun d rest => ?_) hrest
      rw [single_contains, Splits.literal_cons_iff]
    | one =>
      refine exists_set_iff_splits rfl (fun d rest => ?_) hrest
      rw [notNewline_contains, Splits.one_cons_iff]
    | _ => exact exists_anyRun_iff_splits rfl hrest hi

/-- The two ends are those of the text. -/
theorem tree_matches :
    (∃ i ≤ s.length, ∃ j, (tree ps).Matches s i j) ↔ Splits (· ≠ '\n') ps s := by
  have hstart : ∀ i ≤ s.length, ((if i = 0 then none else s[i - 1]?) = none ↔ i = 0) := by
    intro i hi
    constructor
    · intro h
      by_contra hne
      rw [if_neg hne, List.getElem?_eq_none_iff] at h
      omega
    · rintro rfl
      rfl
  have hend : (∃ j, (Node.seqAll (nodes 0 ps)).Matches s 0 j) ↔
      Splits (· ≠ '\n') ps (s.drop 0) := nodes_matches (Nat.zero_le _)
  rw [List.drop_zero] at hend
  rw [← hend]
  constructor
  · rintro ⟨i, hi, j, hmatches⟩
    obtain ⟨k, ⟨hlook, rfl⟩, hmatches⟩ := seqAll_cons_matches.1 hmatches
    obtain rfl := (hstart i hi).1 (of_decide_eq_true hlook)
    exact ⟨j, hmatches⟩
  · rintro ⟨j, hmatches⟩
    exact ⟨0, Nat.zero_le _, j, seqAll_cons_matches.2 ⟨0, ⟨rfl, rfl⟩, hmatches⟩⟩

end matching

theorem exists_ofConstrained?_eq {ps : List Piece} (hps : ∀ p ∈ ps, p.IsPlain) :
    ∃ slots, SegmentPattern.ofConstrained? ps =
      if (tree ps).weight ≤ Node.maxWeight then
        some (.constrained (tree ps) slots)
      else none := by
  unfold SegmentPattern.ofConstrained?
  rw [ofText?_expression hps]
  split
  · exact ⟨_, rfl⟩
  · exact ⟨[], rfl⟩

theorem constrained_bind?_isSome_iff {ps : List Piece} {slots : List (String × Nat)}
    {value : String} :
    ((SegmentPattern.constrained (tree ps) slots).bind? value).isSome = true ↔
      Splits (· ≠ '\n') ps value.toList := by
  rw [SegmentPattern.bind?, Option.isSome_map, Node.search?_isSome_iff, tree_matches]

/-! ### What a segment matches -/

/-- A segment that can be compiled matches the values that split along its pieces with no line feed
for a wildcard or variable to take, and so does the expression it stands for. A value without line
feeds is matched if and only if it splits. -/
theorem segment_matches_iff_splits {ps : List Piece} {text : String} (h : Spells ps text)
    (value : String) :
    (((Segment.ofText text).bind? value).isSome = true ↔
        Compiles ps ∧ Splits (· ≠ '\n') ps value.toList) ∧
      (Compiles ps → '\n' ∉ value.toList →
        (((Segment.ofText text).bind? value).isSome = true ↔
          Splits (fun _ => True) ps value.toList)) ∧
      ∀ compiled, SegmentPattern.ofConstrained? ps = some compiled →
        ((compiled.bind? value).isSome = true ↔
          ((Segment.ofText text).bind? value).isSome = true) := by
  have hsplits := h.bind?_isSome_iff value
  refine ⟨hsplits, ?_, ?_⟩
  · intro hcompiles hvalue
    rw [hsplits, and_iff_right hcompiles]
    constructor
    · exact fun hs => hs.mono fun _ _ _ => trivial
    · exact fun hs => hs.mono fun c hc _ hnewline => hvalue (hnewline ▸ hc)
  · intro compiled hcompiled
    obtain ⟨slots, heq⟩ := exists_ofConstrained?_eq h.isPlain
    rw [hcompiled] at heq
    split at heq
    · next hweight =>
      cases heq
      rw [hsplits, constrained_bind?_isSome_iff, and_iff_right (.inr hweight)]
    · cases heq

def reportPieces : List Piece :=
  [.variable "name" none, .literal '-', .one, .literal '.', .run]

theorem report_matches :
    Spells reportPieces "{name}-?.*" ∧ Compiles reportPieces ∧ '\n' ∉ "q1-a.tar.gz".toList ∧
      ((Segment.ofText "{name}-?.*").bind? "q1-a.tar.gz").isSome = true ∧
      Splits (fun _ => True) reportPieces "q1-a.tar.gz".toList ∧
      ∃ compiled, SegmentPattern.ofConstrained? reportPieces = some compiled ∧
        (compiled.bind? "q1-a.tar.gz").isSome = true := by
  have hspells : Spells reportPieces "{name}-?.*" :=
    ⟨by decide +kernel, by decide, by decide, by decide⟩
  have hweight : (tree reportPieces).weight ≤ Node.maxWeight := by decide
  have hvalue : '\n' ∉ "q1-a.tar.gz".toList := by decide
  have hmatches : ((Segment.ofText "{name}-?.*").bind? "q1-a.tar.gz").isSome = true := by
    decide +kernel
  obtain ⟨slots, hcompiled⟩ := exists_ofConstrained?_eq hspells.isPlain
  rw [if_pos hweight] at hcompiled
  obtain ⟨-, hsplits, hexpression⟩ := segment_matches_iff_splits hspells "q1-a.tar.gz"
  exact ⟨hspells, .inr hweight, hvalue, hmatches, (hsplits (.inr hweight) hvalue).1 hmatches, _,
    hcompiled, (hexpression _ hcompiled).2 hmatches⟩

/-- The value splits along the segment, but the wildcard would have to take the line feed. -/
theorem line_feed_refused :
    Spells [.run] "*" ∧ Compiles [.run] ∧ Splits (fun _ => True) [.run] "a\nb".toList ∧
      (Segment.ofText "*").bind? "a\nb" = none ∧ isMatch "/files/*" "/files/a\nb" = false := by
  have hstar : Spells [.run] "*" := ⟨by decide, by decide, by decide, by decide⟩
  have hfiles : Spells ("files".toList.map .literal) "files" :=
    ⟨by decide, by decide, by decide, by decide⟩
  have hsplits : Splits (fun _ => True) [.run] ("a\nb".toList ++ []) :=
    .run _ rfl (fun _ _ => trivial) .nil
  have hnone : (Segment.ofText "*").bind? "a\nb" = none := by decide +kernel
  have hpattern : segments "/files/*" = ["files", "*"] := by decide +kernel
  have hpath : segments "/files/a\nb" = ["files", "a\nb"] := by decide +kernel
  refine ⟨hstar, .inr (by decide), by rwa [List.append_nil] at hsplits, hnone, ?_⟩
  have hparts : List.Forall₂ Spells ["files".toList.map .literal, [.run]]
      (segments "/files/*") := by
    rw [hpattern]
    exact .cons hfiles (.cons hstar .nil)
  rw [Bool.eq_false_iff]
  intro hmatch
  have hall := (isMatch_iff_splits hparts).1 hmatch
  rw [hpath, List.forall₂_cons, List.forall₂_cons, ← hstar.bind?_isSome_iff, hnone] at hall
  cases hall.2.1

end RequestDispatch.Path
