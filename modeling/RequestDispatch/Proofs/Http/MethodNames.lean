import RequestDispatch.Cors.Config
import RequestDispatch.Proofs.Cors.Enforcement
import RequestDispatch.Proofs.Route.Narrowing

/-! # Names of methods

A request is routed by the upper case of its method's name, which a few letters beyond ASCII have
in common with letters of ASCII. The checks for preflight requests and for allowed methods ignore
the case of ASCII letters alone. So they recognise a name exactly if it is routed as that method
and none of those letters stands in it, which can only be for POST and OPTIONS. -/
namespace RequestDispatch

open Text (sameIgnoringAsciiCase toUpper upperChar)

/-! ### Letters that turn into letters of ASCII -/

/-- The letters beyond ASCII whose upper case occurs in names of methods: the dotless i, the long s,
and the two ligatures of s and t. -/
def lookalikes : List (Char × List Char) :=
  [('\u0131', ['I']), ('\u017f', ['S']), ('\ufb05', ['S', 'T']), ('\ufb06', ['S', 'T'])]

def IsLookalike (c : Char) : Prop :=
  ∃ letters, (c, letters) ∈ lookalikes

theorem IsLookalike.not_ascii {c : Char} (h : IsLookalike c) : 128 ≤ c.toNat := by
  obtain ⟨letters, h⟩ := h
  have hall : lookalikes.all (fun e => 128 ≤ e.1.toNat) = true := by decide
  exact of_decide_eq_true (List.all_eq_true.1 hall _ h)

theorem upperChar_lookalike {c : Char} {letters : List Char} (h : (c, letters) ∈ lookalikes) :
    upperChar c = letters := by
  have hall : lookalikes.all (fun e => upperChar e.1 = e.2) = true := by decide +kernel
  exact of_decide_eq_true (List.all_eq_true.1 hall _ h)

theorem expansion_cases {k : Nat} {image : List Nat} (h : (k, image) ∈ Text.upperExpansions)
    (hcapitals : (image.map Char.ofNat).all Char.isUpper = true) :
    'F' ∈ image.map Char.ofNat ∨ image.map Char.ofNat = ['S', 'S'] ∨
      (Char.ofNat k, image.map Char.ofNat) ∈ lookalikes := by
  have htable : Text.upperExpansions.all (fun e => !(e.2.map Char.ofNat).all Char.isUpper ||
      (e.2.map Char.ofNat).contains 'F' || e.2.map Char.ofNat = ['S', 'S'] ||
        lookalikes.contains (Char.ofNat e.1, e.2.map Char.ofNat)) = true := by
    decide +kernel
  have hentry := List.all_eq_true.1 htable _ h
  simpa [hcapitals, or_assoc] using hentry

theorem run_cases {run : Text.CaseRun} {c : Char} {n : Nat} (h : run ∈ Text.upperRuns)
    (hc : 128 ≤ c.toNat) (hmap : run.map? c.toNat = some n) :
    128 ≤ n ∨ (c, [Char.ofNat n]) ∈ lookalikes := by
  have htable : Text.upperRuns.all (fun run => run.last < 128 || 128 ≤ run.target ||
      (run.first = run.last &&
        lookalikes.contains (Char.ofNat run.first, [Char.ofNat run.target]))) = true := by
    decide +kernel
  have hentry := List.all_eq_true.1 htable _ h
  rw [Text.CaseRun.map?] at hmap
  split at hmap
  · next hrange =>
    obtain ⟨hfirst, hlast, -⟩ := hrange
    obtain rfl := Option.some.inj hmap
    simp only [Bool.or_eq_true, decide_eq_true_eq, Bool.and_eq_true, List.contains_iff_mem]
      at hentry
    rcases hentry with (hsmall | hlarge) | ⟨hsingle, hmem⟩
    · omega
    · exact .inl (by omega)
    · have hcode : run.first = c.toNat := by omega
      rw [hcode, Char.ofNat_toNat] at hmem
      right
      rwa [hcode, Nat.sub_self, Nat.add_zero]
  · cases hmap

theorem lookalike_of_capitals {c : Char} (hc : 128 ≤ c.toNat)
    (hcapitals : (upperChar c).all Char.isUpper = true) (hf : 'F' ∉ upperChar c)
    (hss : upperChar c ≠ ['S', 'S']) : (c, upperChar c) ∈ lookalikes := by
  have hlarge : ∀ d : Char, d.isUpper = true → d.toNat < 128 := by
    intro d hd
    have hrange : 65 ≤ d.toNat ∧ d.toNat ≤ 90 := of_decide_eq_true hd
    omega
  have hascii : ¬c.toNat < 128 := by omega
  rw [upperChar, if_neg hascii] at hcapitals hf hss ⊢
  cases hfound : Text.upperExpansions.find? fun e => e.1 = c.toNat with
  | some e =>
    obtain ⟨k, image⟩ := e
    obtain rfl : k = c.toNat := by simpa using List.find?_some hfound
    rw [hfound] at hcapitals hf hss
    rcases expansion_cases (List.mem_of_find?_eq_some hfound) hcapitals with h | h | h
    · exact absurd h hf
    · exact absurd h hss
    · rwa [Char.ofNat_toNat] at h
  | none =>
    rw [hfound] at hcapitals
    have hupper : (Text.mapCase Text.upperRuns c).isUpper = true := by simpa using hcapitals
    have hsmall := hlarge _ hupper
    show (c, [Text.mapCase Text.upperRuns c]) ∈ lookalikes
    rw [Text.mapCase] at hsmall hupper ⊢
    cases hrun : Text.upperRuns.findSome? fun run => run.map? c.toNat with
    | none =>
      rw [hrun] at hsmall
      exact absurd hsmall hascii
    | some n =>
      rw [hrun] at hsmall hupper
      obtain ⟨run, hmem, hmap⟩ := List.exists_of_findSome?_eq_some hrun
      rcases run_cases hmem hc hmap with hn | hlook
      · have hcapital : 65 ≤ (Char.ofNat n).toNat ∧ (Char.ofNat n).toNat ≤ 90 :=
          of_decide_eq_true hupper
        rcases Text.toNat_ofNat_cases n with h | h <;> omega
      · exact hlook

/-! ### Spellings -/

/-- The text is the word up to the case of ASCII letters, with lookalikes for some letters. -/
inductive SpellsWord : (text word : List Char) → Prop where
  | nil : SpellsWord [] []
  | letter {c d : Char} {text word : List Char} : c.toLower = d.toLower → SpellsWord text word →
      SpellsWord (c :: text) (d :: word)
  | lookalike {c : Char} {letters text word : List Char} : (c, letters) ∈ lookalikes →
      SpellsWord text word → SpellsWord (c :: text) (letters ++ word)

structure IsPlainWord (word : List Char) : Prop where
  capitals : word.all Char.isUpper = true
  no_f : 'F' ∉ word
  no_ss : ¬['S', 'S'] <:+: word

section Words

variable {text word front : List Char}

theorem IsPlainWord.of_append (h : IsPlainWord (front ++ word)) : IsPlainWord word where
  capitals := by
    have hall := h.capitals
    rw [List.all_append, Bool.and_eq_true] at hall
    exact hall.2
  no_f hf := h.no_f (List.mem_append_right front hf)
  no_ss hss := h.no_ss (hss.trans (List.suffix_append front word).isInfix)

theorem SpellsWord.flatMap_upperChar (h : SpellsWord text word)
    (hword : word.all Char.isUpper = true) : text.flatMap upperChar = word := by
  induction h with
  | nil => rfl
  | @letter c d text word hcase _ ih =>
    rw [List.all_cons, Bool.and_eq_true] at hword
    rw [List.flatMap_cons, Text.upperChar_of_toLower hword.1 hcase, ih hword.2]
    rfl
  | @lookalike c letters text word hmem _ ih =>
    rw [List.all_append, Bool.and_eq_true] at hword
    rw [List.flatMap_cons, upperChar_lookalike hmem, ih hword.2]

/-- The induction is on the text, since a character of it decides how much of the word it makes. -/
theorem spellsWord_of_flatMap_upperChar (hword : IsPlainWord (text.flatMap upperChar)) :
    SpellsWord text (text.flatMap upperChar) := by
  induction text with
  | nil => exact .nil
  | cons c text ih =>
    rw [List.flatMap_cons] at hword ⊢
    have hrest := ih hword.of_append
    by_cases hc : c.toNat < 128
    · rw [upperChar, if_pos hc]
      exact .letter (Text.toLower_toUpper c).symm hrest
    · refine .lookalike (lookalike_of_capitals (by omega) ?_ ?_ ?_) hrest
      · have hall := hword.capitals
        rw [List.all_append, Bool.and_eq_true] at hall
        exact hall.1
      · exact fun hf => hword.no_f (List.mem_append_left _ hf)
      · intro hss
        refine hword.no_ss ?_
        rw [hss]
        exact (List.prefix_append _ _).isInfix

theorem spellsWord_iff_flatMap_upperChar (hword : IsPlainWord word) :
    SpellsWord text word ↔ text.flatMap upperChar = word := by
  constructor
  · intro h
    exact h.flatMap_upperChar hword.capitals
  · rintro rfl
    exact spellsWord_of_flatMap_upperChar hword

theorem SpellsWord.map_toLower (h : SpellsWord text word) (hplain : ∀ c ∈ text, ¬IsLookalike c) :
    text.map Char.toLower = word.map Char.toLower := by
  induction h with
  | nil => rfl
  | letter hcase _ ih =>
    obtain ⟨-, hrest⟩ := List.forall_mem_cons.1 hplain
    rw [List.map_cons, List.map_cons, hcase, ih hrest]
  | lookalike hmem _ _ => exact absurd ⟨_, hmem⟩ (hplain _ List.mem_cons_self)

theorem not_lookalike_of_toLower {c d : Char} (hd : d.isUpper = true) (h : c.toLower = d.toLower) :
    ¬IsLookalike c := by
  intro hlook
  have hbeyond := hlook.not_ascii
  have hcapital : 65 ≤ d.toNat ∧ d.toNat ≤ 90 := of_decide_eq_true hd
  have hnat : c.toLower.toNat = d.toLower.toNat := congrArg Char.toNat h
  rw [Text.toNat_toLower, Text.toNat_toLower, if_pos hcapital] at hnat
  split at hnat <;> omega

theorem not_lookalike_of_map_toLower (hword : word.all Char.isUpper = true)
    (h : text.map Char.toLower = word.map Char.toLower) : ∀ c ∈ text, ¬IsLookalike c := by
  intro c hc
  have hmem : c.toLower ∈ word.map Char.toLower := h ▸ List.mem_map_of_mem hc
  obtain ⟨d, hd, hcase⟩ := List.mem_map.1 hmem
  exact not_lookalike_of_toLower (List.all_eq_true.1 hword d hd) hcase.symm

theorem SpellsWord.mem_of_lookalike (h : SpellsWord text word)
    (hword : word.all Char.isUpper = true) (hlook : ∃ c ∈ text, IsLookalike c) :
    'I' ∈ word ∨ 'S' ∈ word := by
  induction h with
  | nil => simp at hlook
  | @letter c d text word hcase _ ih =>
    rw [List.all_cons, Bool.and_eq_true] at hword
    obtain ⟨a, ha, hlook⟩ := hlook
    rcases List.mem_cons.1 ha with rfl | ha
    · exact absurd hlook (not_lookalike_of_toLower hword.1 hcase)
    · exact (ih hword.2 ⟨a, ha, hlook⟩).imp (List.mem_cons_of_mem d) (List.mem_cons_of_mem d)
  | @lookalike c letters text word hmem _ _ =>
    have htable : lookalikes.all (fun e => e.2.contains 'I' || e.2.contains 'S') = true := by
      decide
    have hentry := List.all_eq_true.1 htable _ hmem
    simp only [Bool.or_eq_true, List.contains_iff_mem] at hentry
    exact hentry.imp (List.mem_append_left word) (List.mem_append_left word)

end Words

namespace Method

theorem name_isPlainWord (m : Method) : IsPlainWord m.name.toList := by
  cases m <;> exact ⟨by decide +kernel, by decide +kernel, by decide +kernel⟩

theorem parse?_eq_some_iff_spellsWord {s : String} {m : Method} :
    parse? s = some m ↔ SpellsWord s.toList m.name.toList := by
  have hupper : parse? s = some m ↔ toUpper s = m.name := by
    constructor
    · exact fun h => (name_of_ofName? h).symm
    · intro h
      rw [parse?, h, ofName?_name]
  rw [hupper, spellsWord_iff_flatMap_upperChar m.name_isPlainWord, ← String.ofList_inj,
    String.ofList_toList]
  rfl

theorem recognised_iff {s : String} {m : Method} :
    sameIgnoringAsciiCase s m.name = true ↔
      parse? s = some m ∧ ∀ c ∈ s.toList, ¬IsLookalike c := by
  constructor
  · intro h
    exact ⟨parse?_of_sameIgnoringAsciiCase h,
      not_lookalike_of_map_toLower m.name_isPlainWord.capitals (of_decide_eq_true h)⟩
  · rintro ⟨hparse, hplain⟩
    exact decide_eq_true ((parse?_eq_some_iff_spellsWord.1 hparse).map_toLower hplain)

theorem eq_of_lookalike {s : String} {m : Method} (h : parse? s = some m)
    (hlook : ∃ c ∈ s.toList, IsLookalike c) : m = post ∨ m = options := by
  have hspells := parse?_eq_some_iff_spellsWord.1 h
  have hmem := hspells.mem_of_lookalike m.name_isPlainWord.capitals hlook
  have hnames : ∀ m : Method, 'I' ∈ m.name.toList ∨ 'S' ∈ m.name.toList →
      m = post ∨ m = options := by
    intro m
    cases m <;> decide +kernel
  exact hnames m hmem

theorem allowsMethod_single {config : CorsConfig} {m : Method} (h : config.methods = [m.name])
    (s : String) : config.allowsMethod s = sameIgnoringAsciiCase s m.name := by
  have hnot : m.name ≠ anyValue := by cases m <;> decide
  simp [CorsConfig.allowsMethod, CorsConfig.accepts, h, hnot, sameIgnoringAsciiCase, eq_comm]

/-- How a name is routed and how the checks for preflight requests and for allowed methods take it.
A name is routed as a method if it spells it; then the checks recognise it exactly if it holds no
lookalike, and only names of POST and OPTIONS can hold one. -/
theorem recognised_iff_routed (s : String) (m : Method) :
    (parse? s = some m ↔ SpellsWord s.toList m.name.toList) ∧
    (sameIgnoringAsciiCase s m.name = true ↔
      parse? s = some m ∧ ∀ c ∈ s.toList, ¬IsLookalike c) ∧
    (parse? s = some m → (∃ c ∈ s.toList, IsLookalike c) → m = post ∨ m = options) ∧
    (∀ config : CorsConfig, config.methods = [m.name] →
      config.allowsMethod s = sameIgnoringAsciiCase s m.name) ∧
    (∀ {D : Type} (r : Request D) (origin asked : String), r.header? "origin" = some origin →
      r.header? "access-control-request-method" = some asked →
        r.isPreflight = sameIgnoringAsciiCase r.method options.name) ∧
    ∀ {D : Type} (r : Request D), RouteMapping.routedMethod? r = some m →
      ∃ name, r.requestedName? = some name ∧
        (sameIgnoringAsciiCase name m.name = true ↔ ∀ c ∈ name.toList, ¬IsLookalike c) := by
  refine ⟨parse?_eq_some_iff_spellsWord, recognised_iff, eq_of_lookalike,
    fun config h => allowsMethod_single h s, ?_, ?_⟩
  · intro D r origin asked horigin hasked
    have hpreflight := r.isPreflight_iff
    simp only [horigin, hasked, Option.some.injEq, exists_eq', and_true] at hpreflight
    exact Bool.eq_iff_iff.2 hpreflight
  · intro D r hrouted
    obtain ⟨name, hname, hparse⟩ := RouteMapping.routedMethod?_eq_some_iff.1 hrouted
    exact ⟨name, hname, recognised_iff.trans (and_iff_right hparse)⟩

/-- A request with a dotless i in its method is routed as OPTIONS, but is no preflight request, and
where OPTIONS alone is allowed its method is not. -/
theorem dotless_options_no_preflight :
    let r : Request RouteMapping := { method := "opt\u0131ons", target := "/basket"
                                      headers := [("origin", "https://shop.test"),
                                        ("access-control-request-method", "PUT")] }
    RouteMapping.routedMethod? r = some options ∧
      sameIgnoringAsciiCase r.method options.name = false ∧ r.isPreflight = false ∧
        CorsConfig.allowsMethod { methods := [options.name] } r.method = false := by
  decide +kernel

end Method

end RequestDispatch
