import RequestDispatch.Mapping.UrlMapping
import RequestDispatch.Proofs.Mapping.Resolution

/-! # What a lookup notes on a request

The lookup path is noted first, whatever comes of the lookup. A winner is noted as it was
registered and before its bean is asked for, so the notes are there even if there is no such bean.
Where there is no winner, notes about an earlier one stay as they were. No other note is touched. -/
namespace RequestDispatch

namespace HandlerMethod

structure ResolvedFrom (c : Containers) (h resolved : HandlerMethod) : Prop where
  bean : ∃ name b, h.source = .bean name ∧ (c.bean 0 name).1 = .ok b ∧ resolved.source = .object b
  method : resolved.method = h.method
  origin : ∃ o, resolved.origin? = some o ∧ o.sameAs h = true

theorem eq_or_resolvedFrom {c : Containers} {h h' : HandlerMethod}
    (hr : (h.resolve c).1 = .ok h') : h' = h ∨ ResolvedFrom c h h' := by
  rcases resolve_eq_ok hr with ⟨rfl, -⟩ | ⟨name, b, hsource, hb, rfl⟩
  · exact .inl rfl
  · refine .inr ⟨⟨name, b, hsource, hb, rfl⟩, rfl, ⟨.bean name, h.method, none⟩, rfl, ?_⟩
    simp [sameAs, key, hsource]

end HandlerMethod

namespace HandlerMapping

variable {D : Type} [DecidableEq D] {m : HandlerMapping D} {c : Containers} {r : Request D}
  {path : String} {f : Match D}

/-! ### What is selected -/

omit [DecidableEq D] in
theorem mem_of_choose {ms : List (Match D)} (h : m.choose r ms = .best f) : f ∈ ms := by
  match ms with
  | [] => cases h
  | [only] =>
    cases h
    exact List.mem_cons_self
  | first :: second :: rest =>
    have hfirst : f = first := by
      simp only [choose] at h
      split at h
      · split at h <;> cases h
        rfl
      · split at h <;> cases h
        rfl
    rw [hfirst]
    exact List.mem_cons_self

omit [DecidableEq D] in
theorem choose_eq_nothing_iff {ms : List (Match D)} : m.choose r ms = .nothing ↔ ms = [] := by
  match ms with
  | [] => simp [choose]
  | [only] => simp [choose]
  | first :: second :: rest =>
    simp only [choose]
    split
    · split <;> simp
    · split <;> simp

theorem matching_of_select (h : m.select path r = .best f) : ∃ d, Matching m r d f := by
  rw [select_eq] at h
  obtain ⟨⟨d, f'⟩, hstanding, rfl⟩ := List.mem_map.1 (mem_of_choose h)
  exact ⟨d, (mem_standings.1 hstanding).2⟩

/-- Nothing is selected exactly if no bound descriptor matches: those that are not bound to the
path are tried as well before lookup gives up. -/
theorem select_eq_nothing_iff : m.select path r = .nothing ↔ ∀ d f, ¬Matching m r d f := by
  rw [select_eq, choose_eq_nothing_iff, List.map_eq_nil_iff]
  constructor
  · intro hnone d f hf
    have hdirect : m.directMatches path r = [] := by
      by_contra hne
      exact standings_ne_nil hne hnone
    have hkeys : d ∈ m.tried path r := by
      rw [tried, if_pos hdirect, ← Assoc.contains_iff_mem_keys]
      exact Option.isSome_of_eq_some hf.bound
    have hstanding : (d, f) ∈ m.standings path r := mem_standings.2 ⟨hkeys, hf⟩
    rw [hnone] at hstanding
    cases hstanding
  · intro hnone
    rw [List.eq_nil_iff_forall_not_mem]
    intro e he
    exact hnone e.1 e.2 (mem_standings.1 he).2

/-! ### What is noted -/

def noteWinner (r : Request D) (f : Match D) (path : String) : Request D :=
  ((r.note .bestHandler f.binding.handler).note .bestMapping f.mapping).note
    .pathWithinMapping path

theorem lookup_request
    (hmatch : ∀ d path r, m.strategy.onMatch d path r = r.note .pathWithinMapping path)
    (path : String) (r : Request D) :
    (m.lookup path r).2 =
      match m.select path r with
      | .best f => noteWinner r f path
      | _ => r := by
  unfold lookup
  cases m.select path r with
  | best f => exact hmatch _ _ _
  | _ => rfl

omit [DecidableEq D] in
theorem get?_noteWinner_of_ne (r : Request D) (f : Match D) (path : String) {key : RequestKey}
    (hhandler : key ≠ .bestHandler) (hmapping : key ≠ .bestMapping)
    (hwithin : key ≠ .pathWithinMapping) :
    (noteWinner r f path).attributes.get? key = r.attributes.get? key := by
  refine (Request.get?_note_of_ne _ _ hwithin).trans ?_
  refine (Request.get?_note_of_ne _ _ hmapping).trans ?_
  exact Request.get?_note_of_ne _ _ hhandler

omit [DecidableEq D] in
theorem bestHandler_noteWinner (r : Request D) (f : Match D) (path : String) :
    (noteWinner r f path).attributes.get? .bestHandler = some f.binding.handler := by
  refine (Request.get?_note_of_ne _ _ (by decide)).trans ?_
  refine (Request.get?_note_of_ne _ _ (by decide)).trans ?_
  exact Request.get?_note_self ..

omit [DecidableEq D] in
theorem bestMapping_noteWinner (r : Request D) (f : Match D) (path : String) :
    (noteWinner r f path).attributes.get? .bestMapping = some f.mapping := by
  refine (Request.get?_note_of_ne _ _ (by decide)).trans ?_
  exact Request.get?_note_self ..

/-- The notes about an earlier winner are those that the request had. -/
def KeepsWinner (before after : Request D) : Prop :=
  ∀ key, key = .bestHandler ∨ key = .bestMapping ∨ key = .pathWithinMapping →
    after.attributes.get? key = before.attributes.get? key

/-- What a lookup that has a winner leaves behind, whether or not its bean can be had. -/
structure WinnerNoted (m : HandlerMapping D) (c : Containers) (r : Request D) (f : Match D)
    (found : Lookup D (Option HandlerMethod)) : Prop where
  registered : ∃ d, Matching m (m.noted r) d f
  handler : found.request.attributes.get? .bestHandler = some f.binding.handler
  mapping : found.request.attributes.get? .bestMapping = some f.mapping
  within : found.request.attributes.get? .pathWithinMapping =
    some (r.pathForLookup m.options.decode)
  result : found.result = (f.binding.handler.resolve c).1.map some
  returned : ∀ h, found.result = .ok (some h) →
    h = f.binding.handler ∨ HandlerMethod.ResolvedFrom c f.binding.handler h

structure Notes (m : HandlerMapping D) (c : Containers) (r : Request D)
    (found : Lookup D (Option HandlerMethod)) : Prop where
  path : found.request.attributes.get? .lookupPath = some (r.pathForLookup m.options.decode)
  winner : ∀ f, m.select (r.pathForLookup m.options.decode) (m.noted r) = .best f →
    WinnerNoted m c r f found
  /-- No bound descriptor matches, and the strategy is asked for a handler method. -/
  unmatched : (∀ d f, ¬Matching m (m.noted r) d f) → KeepsWinner r found.request ∧
    found.result = resolved c
      (m.strategy.onNoMatch m.registry (r.pathForLookup m.options.decode) (m.noted r))
  ambiguous : ∀ first second,
    m.select (r.pathForLookup m.options.decode) (m.noted r) = .ambiguous first second →
    KeepsWinner r found.request ∧
      found.result = .error (.ambiguousHandlers r.uri first.text second.text)
  sentinel : m.select (r.pathForLookup m.options.decode) (m.noted r) = .preflight →
    KeepsWinner r found.request ∧ found.result = .ok (some .preflight)
  others : ∀ key, key ≠ .lookupPath → key ≠ .bestHandler → key ≠ .bestMapping →
    key ≠ .pathWithinMapping → found.request.attributes.get? key = r.attributes.get? key

section Outcomes

variable (hmatch : ∀ d path r, m.strategy.onMatch d path r = r.note .pathWithinMapping path)
include hmatch

theorem findHandler_request_eq (c : Containers) (r : Request D) :
    (m.findHandler c r).request =
      match m.select (r.pathForLookup m.options.decode) (m.noted r) with
      | .best f => noteWinner (m.noted r) f (r.pathForLookup m.options.decode)
      | _ => m.noted r := by
  rw [findHandler_request, lookup_request hmatch]

theorem keepsWinner_of_select (c : Containers)
    (hselect : ∀ f, m.select (r.pathForLookup m.options.decode) (m.noted r) ≠ .best f) :
    KeepsWinner r (m.findHandler c r).request := by
  have hrequest : (m.findHandler c r).request = m.noted r := by
    rw [findHandler_request_eq hmatch]
    split
    · next f hbest => exact absurd hbest (hselect f)
    · rfl
  intro key hkey
  rw [hrequest]
  apply Request.get?_note_of_ne
  rintro rfl
  simp at hkey

theorem winnerNoted_of_select (c : Containers)
    (hselect : m.select (r.pathForLookup m.options.decode) (m.noted r) = .best f) :
    WinnerNoted m c r f (m.findHandler c r) := by
  have hrequest := findHandler_request_eq hmatch c r
  rw [hselect] at hrequest
  have hresult : (m.findHandler c r).result = (f.binding.handler.resolve c).1.map some := by
    rw [findHandler_noted, lookup, hselect]
    rfl
  refine ⟨matching_of_select hselect, ?_, ?_, ?_, hresult, ?_⟩
  · rw [hrequest, bestHandler_noteWinner]
  · rw [hrequest, bestMapping_noteWinner]
  · rw [hrequest]
    exact Request.get?_note_self ..
  · intro h hreturned
    rw [hresult] at hreturned
    exact HandlerMethod.eq_or_resolvedFrom (map_some_eq_ok hreturned)

/-- With the default notes on a match: the lookup path is noted always, the winner exactly if there
is one, and nothing else ever. -/
theorem lookup_notes (c : Containers) (r : Request D) : Notes m c r (m.findHandler c r) where
  path := by
    rw [findHandler_request_eq hmatch]
    split
    · rw [get?_noteWinner_of_ne _ _ _ (by decide) (by decide) (by decide)]
      exact Request.get?_note_self ..
    · exact Request.get?_note_self ..
  winner f hselect := winnerNoted_of_select hmatch c hselect
  unmatched hnone := by
    have hselect : m.select (r.pathForLookup m.options.decode) (m.noted r) = .nothing :=
      select_eq_nothing_iff.2 hnone
    refine ⟨keepsWinner_of_select hmatch c (by simp [hselect]), ?_⟩
    rw [findHandler_noted, lookup, hselect]
  ambiguous first second hselect := by
    refine ⟨keepsWinner_of_select hmatch c (by simp [hselect]), ?_⟩
    rw [findHandler_noted, lookup, hselect]
    rfl
  sentinel hselect := by
    refine ⟨keepsWinner_of_select hmatch c (by simp [hselect]), ?_⟩
    rw [findHandler_noted, lookup, hselect]
    rfl
  others key hpath hhandler hmapping hwithin := by
    rw [findHandler_request_eq hmatch]
    split
    · rw [get?_noteWinner_of_ne _ _ _ hhandler hmapping hwithin]
      exact Request.get?_note_of_ne _ _ hpath
    · exact Request.get?_note_of_ne _ _ hpath

end Outcomes

/-! ### A report without its bean -/

def reportBinding : Binding :=
  ⟨⟨.bean "report", ⟨"Report", "show", []⟩, none⟩, ["/report"], none, none⟩

def reportMapping : HandlerMapping String :=
  { strategy := urlStrategy, state := .ready
    registry := Registry.empty.enter "/report" reportBinding }

def reportBeans : Containers :=
  Containers.single.declare 0 ⟨"report", .lazy none fun _ => .error (.configuration "no disk")⟩

def reportRequest : Request String :=
  let asked : Request String := { method := "GET", target := "/report?day=1" }
  ((asked.note .lookupPath "/old").note .bestMapping "/old").note (.custom "Session") "s1"

theorem select_report :
    reportMapping.select (reportRequest.pathForLookup reportMapping.options.decode)
      (reportMapping.noted reportRequest) = .best ⟨"/report", reportBinding⟩ := by
  have hpath : reportRequest.pathForLookup reportMapping.options.decode = "/report" := by
    decide +kernel
  have hself : Path.isMatch "/report" "/report" = true := Path.isMatch_self (by decide +kernel)
  have hstrategy : reportMapping.strategy = urlStrategy := rfl
  rw [noted, hpath]
  apply select_of_only (d := "/report")
  · decide +kernel
  · refine ⟨by decide +kernel, ?_⟩
    simp [hstrategy, urlStrategy, notedPath_note, hself]

/-- The report is noted although its bean cannot be created, and the session stays on the
request. -/
theorem broken_report_noted :
    let found := reportMapping.findHandler reportBeans reportRequest
    Notes reportMapping reportBeans reportRequest found ∧
      found.result = .error (.beanCreation "report" "Configuration error: no disk") ∧
      found.request.attributes.get? .bestHandler = some reportBinding.handler ∧
      found.request.attributes.get? .bestMapping = some "/report" ∧
      found.request.attributes.get? (.custom "Session") = some "s1" := by
  intro found
  have hnotes : Notes reportMapping reportBeans reportRequest found :=
    lookup_notes (fun _ _ _ => rfl) reportBeans reportRequest
  have hwinner := hnotes.winner _ select_report
  refine ⟨hnotes, ?_, hwinner.handler, hwinner.mapping, ?_⟩
  · rw [hwinner.result]
    rfl
  · have hsession := hnotes.others (.custom "Session") (by decide) (by decide) (by decide)
      (by decide)
    exact hsession.trans rfl

end HandlerMapping

end RequestDispatch
