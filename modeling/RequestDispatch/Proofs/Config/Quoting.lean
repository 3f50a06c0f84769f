import Mathlib.Data.List.DropRight
import RequestDispatch.Config.Format

/-! # Values in quotes

A file of lines `KEY="value"`, blank lines and comments is read to the object that has the last
value of each key. Taking the quotes off takes all quotes at the two ends with them, so a value
comes back as it was exactly if it neither begins nor ends with a quote. -/
namespace RequestDispatch

/-! ### What trimming and stripping leave -/

def CoreOf (drop : Char → Bool) (s core : List Char) : Prop :=
  ∃ front back, s = front ++ core ++ back ∧ (∀ c ∈ front, drop c = true) ∧
    (∀ c ∈ back, drop c = true) ∧ (∀ c ∈ core.head?, drop c = false) ∧
      ∀ c ∈ core.getLast?, drop c = false

section Core

variable {drop : Char → Bool} {s core : List Char}

theorem dropWhile_of_head? (h : ∀ c ∈ s.head?, drop c = false) : s.dropWhile drop = s := by
  cases s with
  | nil => rfl
  | cons c s => exact List.dropWhile_cons_of_neg (by simp [h c rfl])

theorem takeWhile_of_head? (h : ∀ c ∈ s.head?, drop c = false) : s.takeWhile drop = [] := by
  cases s with
  | nil => rfl
  | cons c s => exact List.takeWhile_cons_of_neg (by simp [h c rfl])

theorem dropEndWhile_of_getLast? (h : ∀ c ∈ s.getLast?, drop c = false) :
    Text.dropEndWhile drop s = s := by
  rw [Text.dropEndWhile, dropWhile_of_head? (by simpa using h), List.reverse_reverse]

theorem dropEndWhile_append {back : List Char} (h : ∀ c ∈ back, drop c = true) :
    Text.dropEndWhile drop (s ++ back) = Text.dropEndWhile drop s := by
  rw [Text.dropEndWhile, List.reverse_append, List.dropWhile_append_of_pos (by simpa using h)]
  rfl

theorem coreOf_dropped (drop : Char → Bool) (s : List Char) :
    CoreOf drop s (Text.dropEndWhile drop (s.dropWhile drop)) := by
  have hfront : Text.dropEndWhile drop (s.dropWhile drop) <+: s.dropWhile drop :=
    List.rdropWhile_prefix drop _
  refine ⟨s.takeWhile drop, (s.dropWhile drop).rtakeWhile drop, ?_,
    fun c hc => List.mem_takeWhile_imp hc, fun c hc => List.mem_rtakeWhile_imp hc, ?_, ?_⟩
  · have hback : Text.dropEndWhile drop (s.dropWhile drop) ++
        (s.dropWhile drop).rtakeWhile drop = s.dropWhile drop :=
      List.rdropWhile_append_rtakeWhile
    rw [List.append_assoc, hback, List.takeWhile_append_dropWhile]
  · intro c hc
    obtain ⟨more, hmore⟩ := hfront
    have hfirst := List.head?_dropWhile_not drop s
    rw [← hmore, List.head?_append, Option.mem_def.1 hc] at hfirst
    exact hfirst
  · intro c hc
    obtain ⟨hne, rfl⟩ := List.mem_getLast?_eq_getLast hc
    exact Bool.eq_false_iff.2 (List.rdropWhile_last_not drop _ hne)

theorem CoreOf.eq (h : CoreOf drop s core) :
    Text.dropEndWhile drop (s.dropWhile drop) = core := by
  obtain ⟨front, back, rfl, hfront, hback, hhead, hlast⟩ := h
  rw [List.append_assoc, List.dropWhile_append_of_pos (by simpa using hfront)]
  cases core with
  | nil =>
    rw [List.nil_append, List.dropWhile_eq_nil_iff.2 hback]
    rfl
  | cons c core =>
    rw [dropWhile_of_head? (by simpa using hhead), dropEndWhile_append hback,
      dropEndWhile_of_getLast? hlast]

theorem trim_eq_iff : Text.trim s = core ↔ CoreOf Text.isBlank s core :=
  ⟨fun h => h ▸ coreOf_dropped Text.isBlank s, CoreOf.eq⟩

end Core

namespace Text

theorem trim_append {s back : List Char} (h : ∀ c ∈ back, isBlank c = true) :
    trim (s ++ back) = trim s := by
  obtain ⟨front, rest, hs, hfront, hrest, hends⟩ := trim_eq_iff.1 (rfl : trim s = trim s)
  refine trim_eq_iff.2 ⟨front, rest ++ back, ?_, hfront, ?_, hends⟩
  · conv_lhs => rw [hs]
    rw [List.append_assoc]
  · intro c hc
    rcases List.mem_append.1 hc with hc | hc
    · exact hrest c hc
    · exact h c hc

theorem mem_trim {s : List Char} {c : Char} (hc : c ∈ s) (hblank : isBlank c = false) :
    c ∈ trim s := by
  obtain ⟨front, back, hs, hfront, hback, -⟩ := trim_eq_iff.1 (rfl : trim s = trim s)
  rw [hs, List.mem_append, List.mem_append] at hc
  rcases hc with (hc | hc) | hc
  · simp [hfront c hc] at hblank
  · exact hc
  · simp [hback c hc] at hblank

theorem trim_sign {front : List Char} {c : Char} (rest : List Char)
    (hfront : ∀ d ∈ front, isBlank d = true) (hblank : isBlank c = false) :
    ∃ more, trim (front ++ c :: rest) = c :: more := by
  have hstart : trimStart (front ++ c :: rest) = c :: rest := by
    rw [trimStart, List.dropWhile_append_of_pos hfront,
      List.dropWhile_cons_of_neg (by simp [hblank])]
  have hfront : trim (front ++ c :: rest) <+: c :: rest := by
    rw [trim, hstart]
    exact List.rdropWhile_prefix isBlank _
  rcases List.prefix_cons_iff.1 hfront with hnil | ⟨more, hmore, -⟩
  · have hmem : c ∈ trim (front ++ c :: rest) := mem_trim (by simp) hblank
    rw [hnil] at hmem
    cases hmem
  · exact ⟨more, hmore⟩

/-- Where nothing is read from an empty line and a carriage return at the end of a line does not
count, reading line by line is reading what stands between the line feeds. -/
theorem filterMap_lines {β : Type} {f : List Char → Option β} (hnil : f [] = none)
    (hreturn : ∀ line, f (line ++ ['\r']) = f line) (s : List Char) :
    (lines s).filterMap f = (split '\n' s).filterMap f := by
  have hline : ∀ (last : Nat) (p : List Char × Nat),
      f (if p.2 < last ∧ p.1.getLast? = some '\r' then p.1.dropLast else p.1) = f p.1 := by
    rintro last ⟨line, i⟩
    split
    · next h =>
      obtain ⟨front, rfl⟩ := List.getLast?_eq_some_iff.1 h.2
      rw [List.dropLast_concat, hreturn]
    · rfl
  have hmap : ∀ (last : Nat) (bodies : List (List Char)),
      (bodies.zipIdx.map fun p =>
        if p.2 < last ∧ p.1.getLast? = some '\r' then p.1.dropLast else p.1).filterMap f =
        bodies.filterMap f := by
    intro last bodies
    rw [List.filterMap_map]
    simp only [Function.comp_def, hline]
    rw [← Function.comp_def f Prod.fst, ← List.filterMap_map, List.zipIdx_map_fst]
  simp only [lines]
  rw [hmap]
  split
  · next hlast =>
    obtain ⟨front, hfront⟩ := List.getLast?_eq_some_iff.1 hlast
    rw [hfront, List.dropLast_concat, List.filterMap_append, List.filterMap_cons_none hnil,
      List.filterMap_nil, List.append_nil]
  · rfl

end Text

namespace EnvText

/-! ### Files of quoted values -/

/-- What a line can set: not empty, without line feeds, equals signs and blanks around it, and not
the beginning of a comment. -/
structure IsName (name : String) : Prop where
  ne_empty : name ≠ ""
  no_feed : '\n' ∉ name.toList
  no_equals : '=' ∉ name.toList
  no_comment : name.toList.head? ≠ some '#'
  head_not_blank : ∀ c ∈ name.toList.head?, Text.isBlank c = false
  last_not_blank : ∀ c ∈ name.toList.getLast?, Text.isBlank c = false

inductive Line where
  | entry (name value : String) (hname : IsName name) (hvalue : '\n' ∉ value.toList)
  | blank (text : List Char) (htext : ∀ c ∈ text, Text.isBlank c = true ∧ c ≠ '\n')
  | comment (indent text : List Char) (hindent : ∀ c ∈ indent, Text.isBlank c = true ∧ c ≠ '\n')
    (htext : '\n' ∉ text)

namespace Line

def text : Line → List Char
  | entry name value _ _ => name.toList ++ '=' :: '"' :: (value.toList ++ ['"'])
  | blank text _ => text
  | comment indent text _ _ => indent ++ '#' :: text

def pair? : Line → Option (String × String)
  | entry name value _ _ => some (Text.toLower name, value)
  | _ => none

end Line

inductive LineEnd where
  | feed
  | returnFeed

def LineEnd.text : LineEnd → List Char
  | feed => ['\n']
  | returnFeed => ['\r', '\n']

structure File where
  lines : List (Line × LineEnd)
  last? : Option Line

namespace File

def text (f : File) : String :=
  String.ofList (f.lines.flatMap (fun l => l.1.text ++ l.2.text) ++
    (f.last?.map Line.text).getD [])

def pairs (f : File) : List (String × String) :=
  (f.lines.map Prod.fst ++ f.last?.toList).filterMap Line.pair?

end File

/-- The value without its double quotes and then without its single quotes at the ends. -/
def unquoted (value : String) : String :=
  String.ofList (strip '\'' (strip '"' value.toList))

theorem strip_eq_iff {c : Char} {s core : List Char} :
    strip c s = core ↔ CoreOf (· = c) s core :=
  ⟨fun h => h ▸ coreOf_dropped _ s, CoreOf.eq⟩

theorem strip_surrounded (c : Char) (s : List Char) : strip c (c :: (s ++ [c])) = strip c s := by
  obtain ⟨front, back, hs, hfront, hback, hends⟩ := strip_eq_iff.1 (rfl : strip c s = strip c s)
  refine strip_eq_iff.2 ⟨c :: front, back ++ [c], ?_, ?_, ?_, hends⟩
  · conv_lhs => rw [hs]
    simp
  · simpa using hfront
  · intro d hd
    rcases List.mem_append.1 hd with hd | hd
    · exact hback d hd
    · simpa using hd

theorem entry?_congr {line other : List Char} (h : Text.trim line = Text.trim other) :
    entry? line = entry? other := by
  unfold entry?
  rw [h]

theorem entry?_append_return (line : List Char) : entry? (line ++ ['\r']) = entry? line :=
  entry?_congr (Text.trim_append (List.forall_mem_singleton.2 rfl))

theorem entries_eq (s : String) : entries s = (Text.split '\n' s.toList).filterMap entry? :=
  Text.filterMap_lines rfl entry?_append_return s.toList

theorem entry?_eq_of_trim {line body : List Char} (htrim : Text.trim line = body)
    (hne : body ≠ []) (hcomment : body.head? ≠ some '#') :
    entry? line = (Text.splitOnce? '=' body).map fun (key, value) =>
      (Text.toLower (String.ofList (Text.trim key)), String.ofList (unquote value)) := by
  unfold entry?
  simp only [htrim]
  split
  · exact absurd rfl hne
  · exact absurd rfl hcomment
  · rfl

theorem not_blank_quote : ∀ c ∈ some '"', Text.isBlank c = false := by
  intro c hc
  obtain rfl : '"' = c := Option.some.inj hc
  rfl

namespace IsName

variable {name : String}

theorem exists_cons (h : IsName name) : ∃ c cs, name.toList = c :: cs :=
  List.exists_cons_of_ne_nil (mt String.toList_eq_nil_iff.1 h.ne_empty)

theorem trim_eq (h : IsName name) : Text.trim name.toList = name.toList :=
  trim_eq_iff.2 ⟨[], [], by simp, by simp, by simp, h.head_not_blank, h.last_not_blank⟩

theorem trim_entry (h : IsName name) (value : List Char) :
    Text.trim (name.toList ++ '=' :: '"' :: (value ++ ['"'])) =
      name.toList ++ '=' :: '"' :: (value ++ ['"']) := by
  refine trim_eq_iff.2 ⟨[], [], by simp, by simp, by simp, ?_, ?_⟩
  · obtain ⟨c, cs, hname⟩ := h.exists_cons
    have hhead := h.head_not_blank
    rw [hname] at hhead ⊢
    simpa using hhead
  · rw [← List.cons_append, ← List.cons_append, ← List.append_assoc, List.getLast?_concat]
    exact not_blank_quote

theorem entry?_quoted (h : IsName name) (value : List Char) :
    entry? (name.toList ++ '=' :: '"' :: (value ++ ['"'])) =
      some (Text.toLower name, String.ofList (strip '\'' (strip '"' value))) := by
  have hvalue : Text.trim ('"' :: (value ++ ['"'])) = '"' :: (value ++ ['"']) := by
    refine trim_eq_iff.2 ⟨[], [], by simp, by simp, by simp, not_blank_quote, ?_⟩
    rw [← List.cons_append, List.getLast?_concat]
    exact not_blank_quote
  have hcut : Text.splitOnce? '=' (name.toList ++ '=' :: '"' :: (value ++ ['"'])) =
      some (name.toList, '"' :: (value ++ ['"'])) :=
    Text.splitOnce?_eq_some_iff.2 ⟨rfl, h.no_equals⟩
  have hcomment : (name.toList ++ '=' :: '"' :: (value ++ ['"'])).head? ≠ some '#' := by
    obtain ⟨c, cs, hname⟩ := h.exists_cons
    have hfirst := h.no_comment
    rw [hname] at hfirst ⊢
    simpa using hfirst
  rw [entry?_eq_of_trim (h.trim_entry value) (by simp) hcomment, hcut, Option.map_some]
  simp only [h.trim_eq, unquote, hvalue, strip_surrounded, String.ofList_toList]

end IsName

namespace Line

theorem feed_notMem_text (l : Line) : '\n' ∉ l.text := by
  cases l with
  | entry name value hname hvalue => simp [text, hname.no_feed, hvalue]
  | blank text htext => exact fun h => (htext _ h).2 rfl
  | comment indent rest hindent htext =>
    simp only [text, List.mem_append, List.mem_cons, not_or]
    exact ⟨fun h => (hindent _ h).2 rfl, by decide, htext⟩

theorem entry?_text (l : Line) :
    entry? l.text = l.pair?.map fun p => (p.1, unquoted p.2) := by
  cases l with
  | entry name value hname hvalue => exact hname.entry?_quoted value.toList
  | blank text htext =>
    have htrim : Text.trim ([] ++ text) = Text.trim [] :=
      Text.trim_append fun c hc => (htext c hc).1
    exact entry?_congr htrim
  | comment indent rest hindent htext =>
    obtain ⟨more, htrim⟩ := Text.trim_sign rest (fun c hc => (hindent c hc).1)
      (by decide : Text.isBlank '#' = false)
    unfold text pair? entry?
    rw [htrim]
    rfl

end Line

theorem filterMap_split_line (l : Line) (e : LineEnd) (rest : List Char) :
    (Text.split '\n' (l.text ++ e.text ++ rest)).filterMap entry? =
      [l.text].filterMap entry? ++ (Text.split '\n' rest).filterMap entry? := by
  cases e with
  | feed =>
    rw [LineEnd.text, List.append_assoc, List.singleton_append, Text.split_append_cons,
      Text.split_of_notMem l.feed_notMem_text, List.filterMap_append]
  | returnFeed =>
    have hline : l.text ++ LineEnd.returnFeed.text ++ rest =
        (l.text ++ ['\r']) ++ '\n' :: rest := by
      simp [LineEnd.text]
    have hfeed : '\n' ∉ l.text ++ ['\r'] := by
      simp [l.feed_notMem_text]
    rw [hline, Text.split_append_cons, Text.split_of_notMem hfeed, List.filterMap_append,
      List.filterMap_cons, List.filterMap_cons, entry?_append_return]

theorem filterMap_split_lines (lines : List (Line × LineEnd)) (rest : List Char) :
    (Text.split '\n' (lines.flatMap (fun l => l.1.text ++ l.2.text) ++ rest)).filterMap entry? =
      ((lines.map Prod.fst).map Line.text).filterMap entry? ++
        (Text.split '\n' rest).filterMap entry? := by
  induction lines with
  | nil => rfl
  | cons l lines ih =>
    rw [List.flatMap_cons, List.append_assoc, filterMap_split_line, ih, ← List.append_assoc,
      ← List.filterMap_append]
    rfl

theorem entries_text (f : File) :
    entries f.text = f.pairs.map fun p => (p.1, unquoted p.2) := by
  have hlast : (Text.split '\n' ((f.last?.map Line.text).getD [])).filterMap entry? =
      (f.last?.toList.map Line.text).filterMap entry? := by
    cases f.last? with
    | none => rfl
    | some l => exact congrArg (List.filterMap entry?) (Text.split_of_notMem l.feed_notMem_text)
  rw [entries_eq, File.text, String.toList_ofList, filterMap_split_lines, hlast,
    ← List.filterMap_append, ← List.map_append, List.filterMap_map, File.pairs, List.map_filterMap]
  simp only [Function.comp_def, Line.entry?_text]

/-! ### Values that come back -/

def IsQuote (c : Char) : Prop :=
  c = '"' ∨ c = '\''

instance (c : Char) : Decidable (IsQuote c) :=
  inferInstanceAs (Decidable (c = '"' ∨ c = '\''))

def IsBare (value : String) : Prop :=
  ∀ c, IsQuote c → value.toList.head? ≠ some c ∧ value.toList.getLast? ≠ some c

theorem strip_eq_self_iff {c : Char} {s : List Char} :
    strip c s = s ↔ s.head? ≠ some c ∧ s.getLast? ≠ some c := by
  constructor
  · intro h
    obtain ⟨-, -, -, -, -, hhead, hlast⟩ := strip_eq_iff.1 h
    exact ⟨fun hc => by simpa using hhead c hc, fun hc => by simpa using hlast c hc⟩
  · rintro ⟨hhead, hlast⟩
    refine strip_eq_iff.2 ⟨[], [], by simp, by simp, by simp, ?_, ?_⟩
    · rintro d hd
      exact decide_eq_false fun hdc => hhead (hdc ▸ hd)
    · rintro d hd
      exact decide_eq_false fun hdc => hlast (hdc ▸ hd)

theorem strip_isInfix (c : Char) (s : List Char) : strip c s <:+: s := by
  obtain ⟨front, back, hs, -⟩ := strip_eq_iff.1 (rfl : strip c s = strip c s)
  exact ⟨front, back, hs.symm⟩

theorem unquoted_eq_self_iff {value : String} : unquoted value = value ↔ IsBare value := by
  have hlist : unquoted value = value ↔ strip '\'' (strip '"' value.toList) = value.toList := by
    rw [← String.toList_inj, unquoted, String.toList_ofList]
  rw [hlist]
  constructor
  · intro h
    -- neither step takes a character, as they leave all of them together
    have hdouble : strip '"' value.toList = value.toList := by
      have hle := (strip_isInfix '\'' (strip '"' value.toList)).length_le
      rw [h] at hle
      exact (strip_isInfix '"' value.toList).sublist.eq_of_length_le hle
    rw [hdouble] at h
    rintro c (rfl | rfl)
    · exact strip_eq_self_iff.1 hdouble
    · exact strip_eq_self_iff.1 h
  · intro h
    rw [strip_eq_self_iff.2 (h '"' (.inl rfl)), strip_eq_self_iff.2 (h '\'' (.inr rfl))]

section Literals

variable {q : Char} {s : List Char}

theorem IsQuote.not_digit (hq : IsQuote q) : q.isDigit = false := by
  rcases hq with rfl | rfl <;> rfl

theorem IsQuote.toLower (hq : IsQuote q) : q.toLower = q := by
  rcases hq with rfl | rfl <;> rfl

theorem IsQuote.mem_tail {c : Char} (hq : IsQuote q) (h : q ∈ c :: s) (hc : ¬IsQuote c) :
    q ∈ s :=
  (List.mem_cons.1 h).resolve_left fun hqc => hc (hqc ▸ hq)

theorem mem_sign (hq : IsQuote q) (h : q ∈ s) : q ∈ (Literal.sign s).2 := by
  unfold Literal.sign
  split
  · exact hq.mem_tail h (by decide)
  · exact hq.mem_tail h (by decide)
  · exact h

theorem integer?_eq_none (hq : IsQuote q) (h : q ∈ s) : Literal.integer? s = none := by
  have hdigits : Literal.allDigits (Literal.sign s).2 = false := by
    rw [Literal.allDigits, Bool.and_eq_false_iff]
    refine .inr (List.all_eq_false.2 ⟨q, mem_sign hq h, ?_⟩)
    rw [hq.not_digit]
    decide
  simp only [Literal.integer?, hdigits]
  rfl

theorem power?_eq_none (hq : IsQuote q) (h : q ∈ s) : Literal.power? s = none := by
  cases s with
  | nil => cases h
  | cons c rest =>
    rw [Literal.power?]
    split
    · next hc =>
      refine integer?_eq_none hq (hq.mem_tail h ?_)
      rintro (rfl | rfl) <;> exact absurd hc (by decide)
    · rfl

/-- A quote is no digit, so it stays behind the digits at the front. -/
theorem mem_dropWhile_isDigit (hq : IsQuote q) (h : q ∈ s) : q ∈ s.dropWhile Char.isDigit := by
  rw [← List.takeWhile_append_dropWhile (p := Char.isDigit) (l := s), List.mem_append] at h
  refine h.resolve_left fun hfront => ?_
  have hdigit := List.mem_takeWhile_imp hfront
  rw [hq.not_digit] at hdigit
  cases hdigit

theorem lowerAscii_ne (hq : IsQuote q) (h : q ∈ s) {word : List Char} (hword : q ∉ word) :
    Literal.lowerAscii s ≠ word := by
  rintro rfl
  exact hword (List.mem_map.2 ⟨q, h, hq.toLower⟩)

theorem float?_eq_none (hq : IsQuote q) (h : q ∈ s) : Literal.float? s = none := by
  have hbody := mem_sign hq h
  have htail := mem_dropWhile_isDigit hq hbody
  have hinf : Literal.lowerAscii (Literal.sign s).2 ≠ "inf".toList :=
    lowerAscii_ne hq hbody (by rcases hq with rfl | rfl <;> decide)
  have hinfinity : Literal.lowerAscii (Literal.sign s).2 ≠ "infinity".toList :=
    lowerAscii_ne hq hbody (by rcases hq with rfl | rfl <;> decide)
  have hnan : Literal.lowerAscii (Literal.sign s).2 ≠ "nan".toList :=
    lowerAscii_ne hq hbody (by rcases hq with rfl | rfl <;> decide)
  simp only [Literal.float?, hinf, hinfinity, hnan, decide_false, Bool.or_self, if_false,
    Bool.false_eq_true]
  -- what follows the digits, and the fraction if there is one, is no power of ten
  split
  · next rest hrest =>
    rw [hrest] at htail
    have hmem : q ∈ rest := hq.mem_tail htail (by decide)
    simp only [power?_eq_none hq (mem_dropWhile_isDigit hq hmem), Option.map_none, ite_self]
  · simp only [power?_eq_none hq htail, Option.map_none, ite_self]

/-- No value with a quote in it is a truth value or a number. -/
theorem typedValue_of_quote {value : String} (hq : IsQuote q) (h : q ∈ value.toList) :
    typedValue value = .text value := by
  have hblank : Text.isBlank q = false := by
    rcases hq with rfl | rfl <;> rfl
  have hmem : q ∈ Text.trim value.toList := Text.mem_trim h hblank
  have htrue : Text.trim value.toList ≠ "true".toList := by
    intro heq
    rw [heq] at hmem
    rcases hq with rfl | rfl <;> exact absurd hmem (by decide)
  have hfalse : Text.trim value.toList ≠ "false".toList := by
    intro heq
    rw [heq] at hmem
    rcases hq with rfl | rfl <;> exact absurd hmem (by decide)
  have hnumber : typedNumber? (Text.trim value.toList) = none := by
    rw [typedNumber?, Literal.int64?, integer?_eq_none hq hmem, float?_eq_none hq hmem]
    rfl
  simp only [typedValue, if_neg htrue, if_neg hfalse, hnumber]
  rfl

end Literals

theorem typedValue_unquoted_iff {value : String} :
    typedValue (unquoted value) = typedValue value ↔ IsBare value := by
  constructor
  · intro h
    by_contra hbare
    obtain ⟨q, hq, hmem⟩ : ∃ q, IsQuote q ∧ q ∈ value.toList := by
      simp only [IsBare, not_forall] at hbare
      obtain ⟨q, hq, hends⟩ := hbare
      refine ⟨q, hq, ?_⟩
      by_contra hmem
      exact hends ⟨fun h => hmem (List.mem_of_head? h), fun h => hmem (List.mem_of_getLast? h)⟩
    rw [typedValue_of_quote hq hmem] at h
    exact hbare (unquoted_eq_self_iff.1 (eq_of_typedValue_eq_text h))
  · intro h
    rw [unquoted_eq_self_iff.2 h]

/-! ### Objects of last values -/

def lastValue? (pairs : List (String × String)) (key : String) : Option String :=
  Value.field? pairs.reverse key

/-- The value is the object that has under each key its last value, typed, and no other key. -/
def IsObjectOf (pairs : List (String × String)) (v : Value) : Prop :=
  ∃ fields, v = .object fields ∧ Value.Ordered fields ∧
    ∀ key, Value.field? fields key = (lastValue? pairs key).map typedValue

theorem IsObjectOf.unique {pairs : List (String × String)} {v w : Value} (hv : IsObjectOf pairs v)
    (hw : IsObjectOf pairs w) : v = w := by
  obtain ⟨fields, rfl, hfields, hfield⟩ := hv
  obtain ⟨others, rfl, hothers, hother⟩ := hw
  rw [hfields.ext hothers fun key => (hfield key).trans (hother key).symm]

theorem isObjectOf_read (s : String) : IsObjectOf (entries s) (read s) := by
  refine ⟨_, rfl, Value.ordered_ofFields _, fun key => ?_⟩
  rw [Value.field?_ofFields, ← List.map_reverse, Value.field?_map, lastValue?]

theorem lastValue?_map (f : String → String) (pairs : List (String × String)) (key : String) :
    lastValue? (pairs.map fun p => (p.1, f p.2)) key = (lastValue? pairs key).map f := by
  rw [lastValue?, ← List.map_reverse, Value.field?_map, lastValue?]

theorem isObjectOf_read_iff (f : File) :
    IsObjectOf f.pairs (read f.text) ↔
      ∀ key value, lastValue? f.pairs key = some value → IsBare value := by
  have hread := isObjectOf_read f.text
  rw [entries_text] at hread
  obtain ⟨fields, hfields, hordered, hfield⟩ := hread
  simp only [lastValue?_map] at hfield
  constructor
  · rintro ⟨others, hothers, -, hother⟩ key value hvalue
    obtain rfl : fields = others := Value.object.inj (hfields.symm.trans hothers)
    have hboth := (hfield key).symm.trans (hother key)
    rw [hvalue] at hboth
    exact typedValue_unquoted_iff.1 (Option.some.inj hboth)
  · intro h
    refine ⟨fields, hfields, hordered, fun key => ?_⟩
    rw [hfield key]
    cases hvalue : lastValue? f.pairs key with
    | none => rfl
    | some value => exact congrArg some (typedValue_unquoted_iff.2 (h key value hvalue))

/-- What reading a file of quoted values gives. Each key has the last value that it is set to,
typed after all double quotes and then all single quotes have been taken from its ends. These are
the values that stand between the quotes exactly if no value that counts begins or ends with a
quote itself. -/
theorem read_quoted (f : File) :
    ∃ v, FileFormat.env.read f.text = .ok v ∧
      IsObjectOf (f.pairs.map fun p => (p.1, unquoted p.2)) v ∧
      (IsObjectOf f.pairs v ↔
        ∀ key value, lastValue? f.pairs key = some value → IsBare value) := by
  refine ⟨read f.text, rfl, ?_, isObjectOf_read_iff f⟩
  rw [← entries_text]
  exact isObjectOf_read f.text

/-- The single quotes of a value are lost together with the double quotes around it. -/
theorem single_quotes_lost :
    ∃ f : File, f.text = "name=\"'x'\"\n" ∧ f.pairs = [("name", "'x'")] ∧
      FileFormat.env.read f.text = .ok (.object [("name", .text "x")]) ∧
      ¬IsObjectOf f.pairs (.object [("name", .text "x")]) := by
  have hname : IsName "name" := by
    refine ⟨by decide, by decide, by decide, by decide, fun c hc => ?_, fun c hc => ?_⟩
    · obtain rfl : 'n' = c := Option.some.inj hc
      rfl
    · obtain rfl : 'e' = c := Option.some.inj hc
      rfl
  have htext : (File.mk [(.entry "name" "'x'" hname (by decide), .feed)] none).text =
      "name=\"'x'\"\n" := rfl
  have hpairs : (File.mk [(.entry "name" "'x'" hname (by decide), .feed)] none).pairs =
      [("name", "'x'")] := by
    have hlower : Text.toLower "name" = "name" := by decide +kernel
    simp [File.pairs, Line.pair?, hlower]
  have hentries : entries "name=\"'x'\"\n" = [("name", "x")] := by decide +kernel
  have htyped : typedValue "x" = .text "x" := rfl
  refine ⟨⟨[(.entry "name" "'x'" hname (by decide), .feed)], none⟩, htext, hpairs, ?_, ?_⟩
  · rw [htext, FileFormat.read, read, hentries]
    exact congrArg (fun v => Except.ok (Value.object [("name", v)])) htyped
  · rw [hpairs]
    rintro ⟨fields, hfields, -, hfield⟩
    obtain rfl := Value.object.inj hfields
    have hvalue := hfield "name"
    rw [lastValue?, List.reverse_singleton, Value.field?_cons, Value.field?_cons, if_pos rfl,
      if_pos rfl, Option.map_some, typedValue_of_quote (.inr rfl : IsQuote '\'') (by decide)]
      at hvalue
    exact absurd (Value.text.inj (Option.some.inj hvalue)) (by decide)

end EnvText

end RequestDispatch
