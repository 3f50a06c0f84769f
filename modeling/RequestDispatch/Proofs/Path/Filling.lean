import RequestDispatch.Proofs.Path.Alignment
import RequestDispatch.Proofs.Path.Wildcards

/-! # Patterns that are filled in

A pattern of literals and whole-segment variables with different names is a form to fill in.
Matching reads off a filled form exactly what was filled in, and where a path matches, the form
filled with the bindings has the segments of the path. -/
namespace RequestDispatch.Path

/-! ### Forms -/

def wholeName? (segment : String) : Option String :=
  match segment.toList with
  | ':' :: name => some (String.ofList name)
  | '\x7b' :: body =>
    if body.getLast? = some '\x7d' then some (String.ofList body.dropLast) else none
  | _ => none

def IsName (name : String) : Prop :=
  ∀ c ∈ name.toList, c ≠ '/' ∧ c ≠ ':' ∧ c ≠ '\x7b' ∧ c ≠ '\x7d'

/-- The segments of a form: literals without wildcards, and variables as a whole. -/
inductive IsFormSegment : String → Prop where
  | literal {text : String} : text ≠ "" → (∀ c ∈ text.toList, isWild c = false) →
      text.toList.head? ≠ some ':' → IsFormSegment text
  | braced {name : String} : IsName name → IsFormSegment ("\x7b" ++ name ++ "\x7d")
  | colon {name : String} : IsName name → IsFormSegment (":" ++ name)

/-- The names of the variables of some segments, in order. -/
def namesIn (ss : List String) : List String :=
  ss.filterMap wholeName?

/-- A pattern of such segments, in which no name comes twice. -/
structure IsForm (pattern : String) : Prop where
  isFormSegment : ∀ s ∈ segments pattern, IsFormSegment s
  nodup : (namesIn (segments pattern)).Nodup

structure IsValue (value : String) : Prop where
  ne_empty : value ≠ ""
  no_slash : '/' ∉ value.toList
  no_newline : '\n' ∉ value.toList

def fillSegment (f : String → String) (segment : String) : String :=
  ((wholeName? segment).map f).getD segment

/-- The pattern with its variables filled in. The slashes stay as they are. -/
def fill (pattern : String) (f : String → String) : String :=
  Text.joinText "/" ((Text.splitText '/' pattern).map (fillSegment f))

def valueIn (vars : Bindings) (name : String) : String :=
  (Assoc.find? vars name).getD ""

/-! ### One segment -/

structure Captures (s : Segment) (name : String) : Prop where
  bind?_eq : ∀ {value : String}, '\n' ∉ value.toList → s.bind? value = some [(name, value)]
  eq_of_bind? : ∀ {value more}, s.bind? value = some more → more = [(name, value)]

theorem captures_colon (name : String) : Captures (.capture name) name where
  bind?_eq _ := rfl
  eq_of_bind? h := (Option.some.inj h).symm

theorem fill?_variable {name value : String} {texts : List String}
    (h : fill? [.variable name none] value.toList = some texts) : texts = [value] := by
  rw [fill?, Option.bind_eq_some_iff] at h
  obtain ⟨⟨run, rest⟩, hrun, hrest⟩ := h
  obtain ⟨htext, -, hsplits⟩ := splits_of_longestRun? hrun
  obtain rfl := Splits.nil_iff.1 hsplits
  rw [List.append_nil] at htext
  simp only [fill?, Option.map_some, Option.some.injEq, ← htext, String.ofList_toList] at hrest
  exact hrest.symm

theorem captures_braced {name : String} (hname : IsName name) :
    Captures (Segment.ofText ("\x7b" ++ name ++ "\x7d")) name := by
  have hspells : Spells [.variable name none] ("\x7b" ++ name ++ "\x7d") := by
    refine ⟨by simp [Piece.written], ?_, ?_, by simp⟩
    · intro p hp
      obtain rfl := List.mem_singleton.1 hp
      exact ⟨rfl, fun c hc => ⟨(hname c hc).2.2.1, (hname c hc).2.2.2, (hname c hc).2.1⟩⟩
    · intro hany
      have hhead := congrArg (fun s => s.toList.head?) hany
      simp at hhead
  have hmixed : Segment.ofText ("\x7b" ++ name ++ "\x7d") =
      .mixed ("\x7b" ++ name ++ "\x7d") := by
    rw [hspells.ofText_eq, if_pos (by simp [isWild])]
  -- the size of the expression does not depend on the name
  have hweight : (tree [.variable name none]).weight ≤ Regex.Node.maxWeight :=
    show (tree [.variable "" none]).weight ≤ Regex.Node.maxWeight by decide
  have hbind : ∀ value, (Segment.ofText ("\x7b" ++ name ++ "\x7d")).bind? value =
      (fill? [.variable name none] value.toList).map fun texts => [name].zip texts := by
    intro value
    rw [hmixed, Segment.bind?, hspells.ofText?_eq, if_pos hweight]
    rfl
  constructor
  · intro value hvalue
    have hsplits : Splits (· ≠ '\n') [.variable name none] (value.toList ++ []) :=
      .run _ rfl (fun c hc hnewline => hvalue (hnewline ▸ hc)) .nil
    rw [List.append_nil, ← fill?_isSome_iff, Option.isSome_iff_exists] at hsplits
    obtain ⟨texts, htexts⟩ := hsplits
    rw [hbind, htexts, fill?_variable htexts]
    rfl
  · intro value more hmore
    rw [hbind, Option.map_eq_some_iff] at hmore
    obtain ⟨texts, htexts, rfl⟩ := hmore
    rw [fill?_variable htexts]
    rfl

theorem IsFormSegment.cases {s : String} (h : IsFormSegment s) :
    (wholeName? s = none ∧ Segment.ofText s = .literal s) ∨
      ∃ name, wholeName? s = some name ∧ Captures (Segment.ofText s) name := by
  cases h with
  | literal hne hwild hcolon =>
    refine .inl ⟨?_, ?_⟩
    · rw [wholeName?]
      split
      · next htext => simp [htext] at hcolon
      · next htext => simp [htext, isWild] at hwild
      · rfl
    · have hany : s ≠ "**" := by
        rintro rfl
        exact absurd (hwild '*' (by decide)) (by decide)
      rw [Segment.ofText, if_neg hany]
      split
      · next htext => simp [htext] at hcolon
      · rw [if_neg]
        rw [Bool.not_eq_true, List.any_eq_false]
        exact fun c hc => by simp [hwild c hc]
  | braced hname =>
    refine .inr ⟨_, ?_, captures_braced hname⟩
    simp [wholeName?]
  | @colon name hname =>
    have hofText : Segment.ofText (":" ++ name) = .capture name := by
      have hany : ":" ++ name ≠ "**" := by
        intro hany
        have hhead := congrArg (fun s => s.toList.head?) hany
        simp at hhead
      simp [Segment.ofText, hany]
    refine .inr ⟨name, by simp [wholeName?], ?_⟩
    rw [hofText]
    exact captures_colon name

theorem fillSegment_of_none {s : String} (h : wholeName? s = none) (f : String → String) :
    fillSegment f s = s := by
  rw [fillSegment, h]
  rfl

theorem fillSegment_of_some {s name : String} (h : wholeName? s = some name)
    (f : String → String) : fillSegment f s = f name := by
  rw [fillSegment, h]
  rfl

theorem fillSegment_congr {f g : String → String} {ss : List String}
    (h : ∀ name ∈ namesIn ss, f name = g name) :
    ss.map (fillSegment f) = ss.map (fillSegment g) := by
  refine List.map_congr_left fun s hs => ?_
  cases hname : wholeName? s with
  | none => rw [fillSegment_of_none hname, fillSegment_of_none hname]
  | some name =>
    rw [fillSegment_of_some hname, fillSegment_of_some hname]
    exact h name (List.mem_filterMap.2 ⟨s, hs, hname⟩)

/-! ### Segments in a row -/

theorem putAll_new {vars : Bindings} {name : String} (h : name ∉ Assoc.keys vars)
    (value : String) : Assoc.putAll vars [(name, value)] = vars ++ [(name, value)] :=
  Assoc.put_of_find?_eq_none (Assoc.find?_eq_none_iff.2 h) value

section Rows

variable {s name : String} {ss : List String} {vars : Bindings}

theorem namesIn_cons_of_none (h : wholeName? s = none) : namesIn (s :: ss) = namesIn ss :=
  List.filterMap_cons_none h

theorem namesIn_cons_of_some (h : wholeName? s = some name) :
    namesIn (s :: ss) = name :: namesIn ss :=
  List.filterMap_cons_some h

/-- The names of the other segments are new once the first one is bound. -/
theorem fresh_behind (hnodup : (name :: namesIn ss).Nodup)
    (hfresh : ∀ other ∈ name :: namesIn ss, other ∉ Assoc.keys vars) (value : String) :
    ∀ other ∈ namesIn ss, other ∉ Assoc.keys (vars ++ [(name, value)]) := by
  intro other hother hmem
  rw [Assoc.keys, List.map_append, List.mem_append] at hmem
  rcases hmem with hold | hnew
  · exact hfresh other (List.mem_cons_of_mem name hother) hold
  · obtain rfl : other = name := by simpa using hnew
    exact (List.nodup_cons.1 hnodup).1 hother

theorem align?_filled {f : String → String} (hss : ∀ s ∈ ss, IsFormSegment s)
    (hnodup : (namesIn ss).Nodup) (hfresh : ∀ name ∈ namesIn ss, name ∉ Assoc.keys vars)
    (hf : ∀ name ∈ namesIn ss, '\n' ∉ (f name).toList) :
    align? vars (ss.map Segment.ofText) (ss.map (fillSegment f)) =
      some (vars ++ Assoc.table f (namesIn ss)) := by
  induction ss generalizing vars with
  | nil => simp [align?, namesIn, Assoc.table]
  | cons s ss ih =>
    obtain ⟨hs, hss⟩ := List.forall_mem_cons.1 hss
    rw [List.map_cons, List.map_cons]
    rcases hs.cases with ⟨hnone, hliteral⟩ | ⟨name, hname, hcaptures⟩
    · rw [namesIn_cons_of_none hnone] at hnodup hfresh hf ⊢
      have hbind : (Segment.literal s).bind? s = some [] := if_pos rfl
      rw [hliteral, fillSegment_of_none hnone, align?.eq_5 _ _ _ _ _ (by simp), hbind]
      exact ih hss hnodup hfresh hf
    · rw [namesIn_cons_of_some hname] at hnodup hfresh hf ⊢
      have hbind := hcaptures.bind?_eq (hf name List.mem_cons_self)
      rw [fillSegment_of_some hname, align?.eq_5 _ _ _ _ _ (ne_any_of_bind? hbind), hbind]
      simp only [putAll_new (hfresh name List.mem_cons_self)]
      rw [ih hss (List.nodup_cons.1 hnodup).2 (fresh_behind hnodup hfresh (f name))
        fun other hother => hf other (List.mem_cons_of_mem name hother), List.append_assoc]
      rfl

/-- Whatever lines up with the segments is a way to fill them in, and that is what is bound. -/
theorem filled_of_align? {values : List String} {out : Bindings}
    (hss : ∀ s ∈ ss, IsFormSegment s) (hnodup : (namesIn ss).Nodup)
    (hfresh : ∀ name ∈ namesIn ss, name ∉ Assoc.keys vars)
    (h : align? vars (ss.map Segment.ofText) values = some out) :
    ∃ f, out = vars ++ Assoc.table f (namesIn ss) ∧ values = ss.map (fillSegment f) := by
  induction ss generalizing vars values with
  | nil =>
    cases values with
    | nil =>
      rw [List.map_nil, align?] at h
      cases h
      exact ⟨id, (List.append_nil _).symm, rfl⟩
    | cons value values =>
      rw [List.map_nil, align?] at h
      cases h
  | cons s ss ih =>
    obtain ⟨hs, hss⟩ := List.forall_mem_cons.1 hss
    have hany : Segment.ofText s ≠ .any := by
      rcases hs.cases with ⟨-, hliteral⟩ | ⟨name, -, hcaptures⟩
      · simp [hliteral]
      · have hempty : (Segment.ofText s).bind? "" = some [(name, "")] :=
          hcaptures.bind?_eq (by simp)
        exact ne_any_of_bind? hempty
    rw [List.map_cons] at h
    cases values with
    | nil =>
      rw [align?.eq_4 _ _ _ hany] at h
      cases h
    | cons value values =>
      rw [align?.eq_5 _ _ _ _ _ hany] at h
      split at h
      · next more hmore =>
        rcases hs.cases with ⟨hnone, hliteral⟩ | ⟨name, hname, hcaptures⟩
        · rw [namesIn_cons_of_none hnone] at hnodup hfresh ⊢
          rw [hliteral, Segment.bind?] at hmore
          split at hmore
          · next hvalue =>
            cases hmore
            obtain ⟨f, rfl, rfl⟩ := ih hss hnodup hfresh h
            exact ⟨f, rfl, by rw [List.map_cons, fillSegment_of_none hnone, hvalue]⟩
          · cases hmore
        · rw [namesIn_cons_of_some hname] at hnodup hfresh ⊢
          obtain rfl := hcaptures.eq_of_bind? hmore
          rw [putAll_new (hfresh name List.mem_cons_self)] at h
          obtain ⟨f, rfl, rfl⟩ :=
            ih hss (List.nodup_cons.1 hnodup).2 (fresh_behind hnodup hfresh value) h
          -- the name does not come again, so its value can be added to the assignment
          have hkept : ∀ other ∈ namesIn ss, f other = Function.update f name value other := by
            intro other hother
            have hne : other ≠ name := fun heq => (List.nodup_cons.1 hnodup).1 (heq ▸ hother)
            rw [Function.update_of_ne hne]
          refine ⟨Function.update f name value, ?_, ?_⟩
          · rw [Assoc.table_congr hkept, List.append_assoc]
            simp [Assoc.table]
          · rw [fillSegment_congr hkept, List.map_cons, fillSegment_of_some hname,
              Function.update_self]
      · cases h

end Rows

/-! ### Patterns and paths -/

section Fill

variable {pattern path : String} {f : String → String}

theorem ne_empty_of_mem_segments {s : String} (h : s ∈ segments path) : s ≠ "" :=
  of_decide_eq_true (List.mem_filter.1 h).2

theorem no_slash_of_mem_splitText {piece : String} (h : piece ∈ Text.splitText '/' path) :
    '/' ∉ piece.toList := by
  obtain ⟨chars, hchars, rfl⟩ := List.mem_map.1 h
  rw [String.toList_ofList]
  exact Text.not_mem_of_mem_split hchars

theorem splitText_joinText {pieces : List String} (hne : pieces ≠ [])
    (h : ∀ piece ∈ pieces, '/' ∉ piece.toList) :
    Text.splitText '/' (Text.joinText "/" pieces) = pieces := by
  have hpieces : ∀ chars ∈ pieces.map String.toList, '/' ∉ chars := by
    intro chars hchars
    obtain ⟨piece, hpiece, rfl⟩ := List.mem_map.1 hchars
    exact h piece hpiece
  have hsplit : Text.split '/' (['/'].intercalate (pieces.map String.toList)) =
      pieces.map String.toList := Text.split_intercalate (by simpa using hne) hpieces
  have hslash : "/".toList = ['/'] := rfl
  rw [Text.splitText, Text.joinText, String.toList_intercalate, hslash, hsplit, List.map_map]
  simp

theorem mem_namesIn_segments {piece name : String} (h : piece ∈ Text.splitText '/' pattern)
    (hname : wholeName? piece = some name) : name ∈ namesIn (segments pattern) := by
  have hne : piece ≠ "" := by
    rintro rfl
    cases hname
  exact List.mem_filterMap.2 ⟨piece, List.mem_filter.2 ⟨h, decide_eq_true hne⟩, hname⟩

/-- Values that can stand for segments leave as many segments as the pattern has. -/
theorem segments_fill
    (hf : ∀ name ∈ namesIn (segments pattern), f name ≠ "" ∧ '/' ∉ (f name).toList) :
    segments (fill pattern f) = (segments pattern).map (fillSegment f) := by
  have hpieces : ∀ piece ∈ Text.splitText '/' pattern,
      '/' ∉ (fillSegment f piece).toList ∧ (fillSegment f piece = "" ↔ piece = "") := by
    intro piece hpiece
    cases hname : wholeName? piece with
    | none =>
      rw [fillSegment_of_none hname]
      exact ⟨no_slash_of_mem_splitText hpiece, Iff.rfl⟩
    | some name =>
      obtain ⟨hne, hslash⟩ := hf name (mem_namesIn_segments hpiece hname)
      rw [fillSegment_of_some hname]
      refine ⟨hslash, iff_of_false hne ?_⟩
      rintro rfl
      cases hname
  have hne : (Text.splitText '/' pattern).map (fillSegment f) ≠ [] := by
    simpa [Text.splitText] using Text.split_ne_nil '/' pattern.toList
  have hsplit : Text.splitText '/' (fill pattern f) =
      (Text.splitText '/' pattern).map (fillSegment f) := by
    refine splitText_joinText hne fun filled hfilled => ?_
    obtain ⟨piece, hpiece, rfl⟩ := List.mem_map.1 hfilled
    exact (hpieces piece hpiece).1
  rw [segments, hsplit, segments, List.filter_map]
  refine congrArg (List.map _) (List.filter_congr fun piece hpiece => ?_)
  simp [(hpieces piece hpiece).2]

theorem valueIn_bound {names : List String} (hnodup : names.Nodup) {name : String}
    (h : name ∈ names) : valueIn (Assoc.table f names) name = f name := by
  have hkeys : (Assoc.keys (Assoc.table f names)).Nodup := by rwa [Assoc.keys_table]
  have hmem : (name, f name) ∈ Assoc.table f names := List.mem_map.2 ⟨name, h, rfl⟩
  rw [valueIn, (Assoc.mem_iff_find? hkeys).1 hmem]
  rfl

theorem bindings?_fill (h : IsForm pattern)
    (hf : ∀ name ∈ namesIn (segments pattern), IsValue (f name)) :
    bindings? pattern (fill pattern f) = some (Assoc.table f (namesIn (segments pattern))) := by
  have hsegments := segments_fill fun name hname =>
    ⟨(hf name hname).ne_empty, (hf name hname).no_slash⟩
  have halign : align? [] ((segments pattern).map Segment.ofText)
      ((segments pattern).map (fillSegment f)) =
        some ([] ++ Assoc.table f (namesIn (segments pattern))) :=
    align?_filled h.isFormSegment h.nodup (fun _ _ => List.not_mem_nil)
      fun name hname => (hf name hname).no_newline
  rw [bindings?, hsegments, halign, List.nil_append]

theorem filled_of_bindings? (h : IsForm pattern) {vars : Bindings}
    (hvars : bindings? pattern path = some vars) :
    Assoc.keys vars = namesIn (segments pattern) ∧
      segments (fill pattern (valueIn vars)) = segments path := by
  obtain ⟨f, hout, hpath⟩ :=
    filled_of_align? h.isFormSegment h.nodup (fun _ _ => List.not_mem_nil) hvars
  rw [List.nil_append] at hout
  subst hout
  have hvalue : ∀ name ∈ namesIn (segments pattern),
      valueIn (Assoc.table f (namesIn (segments pattern))) name = f name :=
    fun name hname => valueIn_bound h.nodup hname
  refine ⟨Assoc.keys_table f _, ?_⟩
  rw [segments_fill, fillSegment_congr hvalue, hpath]
  intro name hname
  obtain ⟨s, hs, hsome⟩ := List.mem_filterMap.1 hname
  have hmem : f name ∈ segments path := by
    rw [hpath, ← fillSegment_of_some hsome f]
    exact List.mem_map_of_mem hs
  rw [hvalue name hname]
  exact ⟨ne_empty_of_mem_segments hmem, no_slash_of_mem_splitText (List.mem_filter.1 hmem).1⟩

end Fill

/-- Capturing and filling in are inverse. A form that is filled with values that can stand for
segments binds every name to its value, and nothing else; and the bindings of any path that the
form matches, filled in, give the segments of that path. -/
theorem capture_inverts_fill {pattern : String} (h : IsForm pattern) :
    (∀ f : String → String, (∀ name ∈ namesIn (segments pattern), IsValue (f name)) →
      bindings? pattern (fill pattern f) =
        some ((namesIn (segments pattern)).map fun name => (name, f name))) ∧
    ∀ path vars, bindings? pattern path = some vars →
      Assoc.keys vars = namesIn (segments pattern) ∧
        segments (fill pattern (valueIn vars)) = segments path :=
  ⟨fun _ hf => bindings?_fill h hf, fun _ _ hvars => filled_of_bindings? h hvars⟩

def postForm : String := "//users/{id}/posts/:post"

def postValues (name : String) : String :=
  if name = "id" then "7" else "a b"

theorem segments_postForm : segments postForm = ["users", "{id}", "posts", ":post"] := by
  decide +kernel

theorem postForm_isForm : IsForm postForm := by
  have hnames : namesIn (segments postForm) = ["id", "post"] := by decide +kernel
  refine ⟨?_, by rw [hnames]; decide⟩
  rw [segments_postForm]
  intro s hs
  have hid : IsFormSegment ("\x7b" ++ "id" ++ "\x7d") := .braced (by simp [IsName])
  have hpost : IsFormSegment (":" ++ "post") := .colon (by simp [IsName])
  simp only [List.mem_cons, List.not_mem_nil, or_false] at hs
  rcases hs with rfl | rfl | rfl | rfl
  · exact .literal (by decide) (by simp [isWild]) (by decide)
  · exact hid
  · exact .literal (by decide) (by simp [isWild]) (by decide)
  · exact hpost

theorem postForm_captures :
    IsForm postForm ∧ (∀ name ∈ namesIn (segments postForm), IsValue (postValues name)) ∧
      bindings? postForm (fill postForm postValues) = some [("id", "7"), ("post", "a b")] ∧
      fill postForm postValues = "//users/7/posts/a b" ∧
      segments (fill postForm (valueIn [("id", "7"), ("post", "a b")])) =
        segments (fill postForm postValues) := by
  have hnames : namesIn (segments postForm) = ["id", "post"] := by decide +kernel
  have hvalues : ∀ name ∈ namesIn (segments postForm), IsValue (postValues name) := by
    rw [hnames]
    intro name hname
    simp only [List.mem_cons, List.not_mem_nil, or_false] at hname
    rcases hname with rfl | rfl
    · exact ⟨by decide, by decide, by decide⟩
    · exact ⟨by decide, by decide, by decide⟩
  obtain ⟨hfill, hcapture⟩ := capture_inverts_fill postForm_isForm
  have hbindings := hfill postValues hvalues
  rw [hnames] at hbindings
  exact ⟨postForm_isForm, hvalues, hbindings, by decide +kernel, (hcapture _ _ hbindings).2⟩

end RequestDispatch.Path
