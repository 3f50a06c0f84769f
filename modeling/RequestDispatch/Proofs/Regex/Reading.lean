import RequestDispatch.Regex.Reader

/-! # Reading an expression item by item

What the reader makes of one literal, wildcard, repetition or named group, with the flags an
expression begins with and whatever follows. -/
namespace RequestDispatch.Regex

open Scan

variable {fuel groups : Nat} {names : List (String × Nat)} {items : List Item} {c : Char}
  {s : List Char}

theorem Scan.bind_of_eq_some {α β : Type} {x : Scan α} {k : α → Scan β} {st st' : ReadState}
    {a : α} (h : x st = some (a, st')) : (x >>= k) st = k a st' := by
  change (x st).bind _ = _
  rw [h]
  rfl

/-! ### Characters -/

/-- The equation of `concatenation` for fuel that is left. Named here, it is derived once, and not by
each of the lemmas that rewrite with it. -/
theorem concatenation_succ (fuel : Nat) (items : List Item) :
    type_of% (concatenation.eq_2 items fuel) :=
  concatenation.eq_2 items fuel

theorem concatenation_plain (hc : c ∉ metaCharacters) :
    concatenation (fuel + 1) items ⟨c :: s, {}, groups, names⟩ =
      concatenation fuel ({ node := .char c } :: items) ⟨s, {}, groups, names⟩ := by
  have hne : ∀ d ∈ metaCharacters, c ≠ d := by
    rintro d hd rfl
    exact hc hd
  have hstop : ¬((c = ')' || c = '|') = true) := by
    simp [hne ')' (by decide), hne '|' (by decide)]
  have hoperator : operatorCounts? c = none := by
    unfold operatorCounts?
    split
    · exact absurd rfl (hne '?' (by decide))
    · exact absurd rfl (hne '*' (by decide))
    · exact absurd rfl (hne '+' (by decide))
    · rfl
  rw [concatenation_succ]
  change (if c = ')' || c = '|' then _ else _ : Scan Item) _ = _
  rw [if_neg hstop, if_neg (hne '(' (by decide)), if_neg (hne '[' (by decide)),
    if_neg (hne '\x7b' (by decide)), hoperator]
  refine (Scan.bind_of_eq_some rfl).trans ?_
  split
  · exact absurd rfl (hne '\\' (by decide))
  · exact absurd rfl (hne '.' (by decide))
  · exact absurd rfl (hne '^' (by decide))
  · exact absurd rfl (hne '$' (by decide))
  · rfl

/-- Nothing that has to be escaped has a meaning of its own behind a backslash. -/
theorem metaCharacters_plain (hc : c ∈ metaCharacters) : c.isDigit = false ∧
    (c = 'x' || c = 'u' || c = 'U') = false ∧ (c = 'p' || c = 'P') = false ∧
    "dswDSW".toList.contains c = false := by
  have hall : (metaCharacters.all fun c => decide (c.isDigit = false ∧
      (c = 'x' || c = 'u' || c = 'U') = false ∧ (c = 'p' || c = 'P') = false ∧
      "dswDSW".toList.contains c = false)) = true := by
    decide
  exact of_decide_eq_true (List.all_eq_true.1 hall c hc)

theorem escape_meta (hc : c ∈ metaCharacters) :
    escape ⟨'\\' :: c :: s, {}, groups, names⟩ =
      some (.literal c, ⟨s, {}, groups, names⟩) := by
  obtain ⟨hdigit, hhex, hproperty, hset⟩ := metaCharacters_plain hc
  rw [escape]
  change (if c.isDigit = true then _ else _ : Scan Primitive) _ = _
  rw [hdigit, hhex, hproperty, hset]
  change (if metaCharacters.contains c = true then _ else _ : Scan Primitive) _ = _
  rw [if_pos (List.contains_iff_mem.2 hc)]
  rfl

-- The character in front is a variable with an equation, so that the conditions on it stay closed
-- until they are rewritten one by one.
theorem concatenation_escaped {b : Char} (hb : b = '\\') (hc : c ∈ metaCharacters) :
    concatenation (fuel + 1) items ⟨b :: c :: s, {}, groups, names⟩ =
      concatenation fuel ({ node := .char c } :: items) ⟨s, {}, groups, names⟩ := by
  rw [concatenation_succ]
  change (if b = ')' || b = '|' then _ else _ : Scan Item) _ = _
  rw [if_neg (by simp [hb]), if_neg (by simp [hb]), if_neg (by simp [hb]), if_neg (by simp [hb])]
  subst hb
  refine (Scan.bind_of_eq_some rfl).trans ?_
  refine (Scan.bind_of_eq_some (Scan.bind_of_eq_some (escape_meta hc))).trans ?_
  rfl

theorem concatenation_dot :
    concatenation (fuel + 1) items ⟨'.' :: s, {}, groups, names⟩ =
      concatenation fuel ({ node := .set .notNewline } :: items) ⟨s, {}, groups, names⟩ := by
  rw [concatenation_succ]
  rfl

theorem concatenation_caret :
    concatenation (fuel + 1) items ⟨'^' :: s, {}, groups, names⟩ =
      concatenation fuel ({ node := .look .textStart } :: items) ⟨s, {}, groups, names⟩ := by
  rw [concatenation_succ]
  rfl

theorem concatenation_dollar :
    concatenation (fuel + 1) items ⟨'$' :: s, {}, groups, names⟩ =
      concatenation fuel ({ node := .look .textEnd } :: items) ⟨s, {}, groups, names⟩ := by
  rw [concatenation_succ]
  rfl

theorem concatenation_nil :
    concatenation (fuel + 1) items ⟨[], {}, groups, names⟩ =
      some (sequence items, ⟨[], {}, groups, names⟩) := by
  rw [concatenation_succ]
  rfl

/-! ### Repetitions -/

theorem repeatLast_greedy {item : Item} {before : List Item} {min : Nat} {max : Option Nat}
    (hitem : item.isFlags = false) (hs : s.head? ≠ some '?') :
    repeatLast (item :: before) min max ⟨s, {}, groups, names⟩ =
      some ({ node := item.node.repeated min max true, depth := item.depth + 1 } :: before,
        ⟨s, {}, groups, names⟩) := by
  rw [repeatLast]
  refine (Scan.bind_of_eq_some rfl).trans ?_
  dsimp only
  rw [if_neg hs, if_neg (by simp [hitem])]
  refine (Scan.bind_of_eq_some rfl).trans ?_
  simp only [hs]
  rfl

def dotStar : Item where
  node := .anyRun
  depth := 1

theorem concatenation_dotStar (hs : s.head? ≠ some '?') :
    concatenation (fuel + 2) items ⟨'.' :: '*' :: s, {}, groups, names⟩ =
      concatenation fuel (dotStar :: items) ⟨s, {}, groups, names⟩ := by
  rw [concatenation_dot, concatenation_succ]
  exact Scan.bind_of_eq_some (repeatLast_greedy rfl hs)

/-! ### Named groups -/

section groups

variable {first : Char} {name : List Char}

theorem groupName_eq (hfirst : isNameChar true first = true)
    (hname : ∀ c ∈ name, isNameChar false c = true) (hclose : ∀ c ∈ first :: name, c ≠ '>') :
    groupName ⟨first :: name ++ '>' :: s, {}, groups, names⟩ =
      some (String.ofList (first :: name), ⟨s, {}, groups, names⟩) := by
  have htake : (first :: name ++ '>' :: s).takeWhile (· ≠ '>') = first :: name := by
    rw [List.takeWhile_append_of_pos (by simpa using hclose)]
    simp
  have hdrop : (first :: name ++ '>' :: s).drop ((first :: name).length + 1) = s := by
    rw [List.drop_append, List.drop_of_length_le (Nat.le_succ _)]
    simp
  have hvalid : (isNameChar true first && name.all (isNameChar false)) = true := by
    rw [hfirst, Bool.true_and, List.all_eq_true]
    exact hname
  have hlength : (first :: name).length < (first :: name ++ '>' :: s).length := by
    rw [List.length_append, List.length_cons (a := '>')]
    omega
  rw [groupName]
  refine (Scan.bind_of_eq_some rfl).trans ?_
  dsimp only
  rw [htake, hdrop]
  simp only [hvalid, hlength, decide_true, Bool.and_self, if_true]
  rfl

theorem openCapture_eq {name : String} (hnew : ∀ e ∈ names, e.1 ≠ name) :
    openCapture (some name) ⟨s, {}, groups, names⟩ =
      some (.capture (groups + 1), ⟨s, {}, groups + 1, names ++ [(name, groups + 1)]⟩) := by
  have hany : (names.any fun e => e.1 = name) = false := by
    simpa using hnew
  rw [openCapture]
  refine (Scan.bind_of_eq_some rfl).trans ?_
  dsimp only
  rw [hany]
  rfl

theorem groupStart_named (hfirst : isNameChar true first = true)
    (hname : ∀ c ∈ name, isNameChar false c = true) (hclose : ∀ c ∈ first :: name, c ≠ '>')
    (hnew : ∀ e ∈ names, e.1 ≠ String.ofList (first :: name)) :
    groupStart ⟨"(?P<".toList ++ (first :: name ++ '>' :: s), {}, groups, names⟩ =
      some (.capture (groups + 1),
        ⟨s, {}, groups + 1, names ++ [(String.ofList (first :: name), groups + 1)]⟩) := by
  rw [groupStart]
  change groupStart.openNamed ⟨first :: name ++ '>' :: s, {}, groups, names⟩ = _
  rw [groupStart.openNamed]
  exact (Scan.bind_of_eq_some (groupName_eq hfirst hname hclose)).trans (openCapture_eq hnew)

theorem concatenation_group {index : Nat} {body : Item} {flags : Flags} {groups' : Nat}
    {names' : List (String × Nat)} {s' : List Char} {st : ReadState} (hc : c = '(')
    (hstart : groupStart ⟨c :: s, {}, groups, names⟩ = some (.capture index, st))
    (hbody : alternatives fuel st = some (body, ⟨')' :: s', flags, groups', names'⟩)) :
    concatenation (fuel + 1) items ⟨c :: s, {}, groups, names⟩ =
      concatenation fuel ({ node := .group index body.node, depth := body.depth + 1 } :: items)
        ⟨s', {}, groups', names'⟩ := by
  rw [concatenation_succ]
  change (if c = ')' || c = '|' then _ else _ : Scan Item) _ = _
  rw [if_neg (by simp [hc]), if_pos hc]
  refine (Scan.bind_of_eq_some rfl).trans ?_
  refine (Scan.bind_of_eq_some hstart).trans ?_
  refine (Scan.bind_of_eq_some hbody).trans ?_
  rfl

theorem alternatives_dotStar (h : 4 ≤ fuel) :
    alternatives fuel ⟨'.' :: '*' :: ')' :: s, {}, groups, names⟩ =
      some (dotStar, ⟨')' :: s, {}, groups, names⟩) := by
  obtain ⟨more, rfl⟩ := Nat.exists_eq_add_of_le' h
  rw [alternatives]
  rfl

theorem concatenation_capture (h : 4 ≤ fuel) (hfirst : isNameChar true first = true)
    (hname : ∀ c ∈ name, isNameChar false c = true) (hclose : ∀ c ∈ first :: name, c ≠ '>')
    (hnew : ∀ e ∈ names, e.1 ≠ String.ofList (first :: name)) :
    concatenation (fuel + 1) items
        ⟨"(?P<".toList ++ (first :: name ++ '>' :: '.' :: '*' :: ')' :: s), {}, groups, names⟩ =
      concatenation fuel
        ({ node := .group (groups + 1) dotStar.node, depth := dotStar.depth + 1 } :: items)
        ⟨s, {}, groups + 1, names ++ [(String.ofList (first :: name), groups + 1)]⟩ :=
  concatenation_group rfl (groupStart_named hfirst hname hclose hnew) (alternatives_dotStar h)

end groups

end RequestDispatch.Regex
