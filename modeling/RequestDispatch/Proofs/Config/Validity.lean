import RequestDispatch.Config.Settings
import RequestDispatch.Proofs.Cors.Combination

/-! # Valid settings

Validation lets settings through exactly if no rule finds fault with a part of them. What it lets
through can be built: an origin that is valid as it is written stands for all origins only if it
did so before the slashes at its end were dropped. So validation and the mapping agree on
credentials, and settings can be applied exactly if they are valid. -/
namespace RequestDispatch

/-! ### Rules one after another -/

namespace Rule

theorem and_then_eq_ok_iff {first : Checked} {rest : Unit → Checked} :
    (first >>= rest) = .ok () ↔ first = .ok () ∧ rest () = .ok () := by
  cases first with
  | error e => exact ⟨nofun, fun h => nomatch h.1⟩
  | ok passed => exact ⟨fun h => ⟨rfl, h⟩, fun h => h.2⟩

theorem forM_eq_ok_iff {α : Type} {rule : α → Checked} {l : List α} :
    l.forM rule = .ok () ↔ ∀ a ∈ l, rule a = .ok () := by
  induction l with
  | nil => exact ⟨fun _ => nofun, fun _ => rfl⟩
  | cons a l ih => rw [List.forM, and_then_eq_ok_iff, ih, List.forall_mem_cons]

/-- Whatever the check finds fault with, it tells the rule that is broken. -/
def TellsViolation (check : Checked) : Prop :=
  ∀ e, check = .error e → ∃ violation, e = .invalid violation

namespace TellsViolation

theorem require (holds : Bool) (violation : Violation) :
    TellsViolation (Rule.require holds violation) := by
  intro e he
  cases holds with
  | true => cases he
  | false =>
    cases he
    exact ⟨violation, rfl⟩

theorem andThen {first : Checked} {rest : Unit → Checked} (hfirst : TellsViolation first)
    (hrest : TellsViolation (rest ())) : TellsViolation (first >>= rest) := by
  cases first with
  | error fault =>
    intro e he
    exact hfirst e he
  | ok passed => exact hrest

theorem forM {α : Type} {rule : α → Checked} (h : ∀ a, TellsViolation (rule a)) (l : List α) :
    TellsViolation (l.forM rule) := by
  induction l with
  | nil =>
    intro e he
    cases he
  | cons a l ih => exact (h a).andThen ih

end TellsViolation

end Rule

theorem mapM_eq_ok {ε α β : Type} {f : α → Except ε β} {g : α → β} {l : List α}
    (h : ∀ a ∈ l, f a = .ok (g a)) : l.mapM f = .ok (l.map g) := by
  induction l with
  | nil => rfl
  | cons a l ih =>
    obtain ⟨ha, hl⟩ := List.forall_mem_cons.1 h
    rw [List.mapM_cons, ha, ih hl]
    rfl

/-! ### CORS settings -/

theorem withoutEndSlashes_prefix (origin : String) :
    (withoutEndSlashes origin).toList <+: origin.toList := by
  rw [withoutEndSlashes, String.toList_ofList, Text.dropEndWhile, ← List.reverse_suffix,
    List.reverse_reverse]
  exact List.dropWhile_suffix _

theorem eq_anyValue_of_isOrigin {origin : String} (h : Rule.isOrigin origin = true)
    (hall : withoutEndSlashes origin = anyValue) : origin = anyValue := by
  have hstar : origin.toList.head? = some '*' := by
    obtain ⟨rest, hrest⟩ := hall ▸ withoutEndSlashes_prefix origin
    rw [← hrest]
    rfl
  have hscheme : ∀ {front : String}, Text.startsWithText front origin = true →
      front.toList.head? = some 'h' → False := by
    intro front hfront hhead
    obtain ⟨rest, hrest⟩ := Text.startsWith_iff.1 hfront
    rw [← hrest, List.head?_append, hhead, Option.some_or] at hstar
    exact absurd hstar (by decide)
  simp only [Rule.isOrigin, Bool.or_eq_true, decide_eq_true_eq] at h
  rcases h with (hall | hhttp) | hhttps
  · exact hall
  · exact (hscheme hhttp (by decide)).elim
  · exact (hscheme hhttps (by decide)).elim

namespace CorsSettings

theorem validate_eq_ok_iff {s : CorsSettings} :
    s.validate = .ok () ↔
      (∀ o ∈ s.origins, Rule.isOrigin o = true) ∧
      (∀ p ∈ s.patterns, (Text.trim p.toList).isEmpty = false) ∧
      (∀ m ∈ s.methods, isMethod m = true) ∧
      ¬(s.credentials = true ∧ anyValue ∈ s.origins) := by
  unfold validate
  simp only [Rule.and_then_eq_ok_iff, Rule.forM_eq_ok_iff, Rule.origin, Rule.notEmpty,
    Rule.require_eq_ok_iff, Bool.not_eq_true', ← Bool.not_eq_true, Bool.and_eq_true,
    List.contains_iff_mem]

/-! ### What settings build -/

theorem build_keeps {β : Type} (g : CorsConfig → β)
    (hpattern : ∀ c pattern, g (CorsConfig.allowOriginPattern c pattern) = g c)
    (hheaders : ∀ c headers, g (CorsConfig.withHeaders c headers) = g c)
    (hexposed : ∀ c headers, g (CorsConfig.expose c headers) = g c)
    (hage : ∀ (c : CorsConfig) seconds, g { c with maxAge := seconds } = g c) (s : CorsSettings) :
    g s.build = g (s.origins.foldl CorsConfig.allowOrigin
      { CorsConfig.strict.withMethods s.methods with credentials := s.credentials }) := by
  have hheaders' : ∀ c, g (if s.headers = [] then c else c.withHeaders s.headers) = g c := by
    intro c
    split
    · rfl
    · exact hheaders c s.headers
  have hexposed' : ∀ c, g (if s.exposed = [] then c else c.expose s.exposed) = g c := by
    intro c
    split
    · rfl
    · exact hexposed c s.exposed
  have hpatterns := fun c => CorsConfig.foldl_keeps g _ hpattern c s.patterns
  unfold build
  cases s.maxAge? with
  | none => exact ((hexposed' _).trans (hheaders' _)).trans (hpatterns _)
  | some seconds =>
    exact (hage _ (some seconds)).trans (((hexposed' _).trans (hheaders' _)).trans (hpatterns _))

theorem build_credentials (s : CorsSettings) : s.build.credentials = s.credentials := by
  rw [build_keeps CorsConfig.credentials (fun _ _ => rfl) ?_ (fun _ _ => rfl) fun _ _ => rfl]
  · exact CorsConfig.foldl_keeps CorsConfig.credentials CorsConfig.allowOrigin (fun _ _ => rfl) _ _
  · exact fun c headers =>
      CorsConfig.foldl_keeps CorsConfig.credentials CorsConfig.allowHeader (fun _ _ => rfl) _ headers

theorem mem_allowOrigins {origins : List String} {c : CorsConfig} {v : String} :
    v ∈ (origins.foldl CorsConfig.allowOrigin c).origins ↔
      v ∈ c.origins ∨ ∃ o ∈ origins, withoutEndSlashes o = v := by
  induction origins generalizing c with
  | nil => simp
  | cons o origins ih =>
    rw [List.foldl_cons, ih, CorsConfig.allowOrigin, mem_addNew, or_assoc, @eq_comm _ v]
    simp only [List.mem_cons, exists_eq_or_imp]

theorem mem_origins_build {s : CorsSettings} {v : String} :
    v ∈ s.build.origins ↔ ∃ o ∈ s.origins, withoutEndSlashes o = v := by
  have hmethods : (CorsConfig.strict.withMethods s.methods).origins = [] :=
    CorsConfig.foldl_keeps CorsConfig.origins CorsConfig.allowMethod (fun _ _ => rfl) _ s.methods
  rw [build_keeps CorsConfig.origins (fun _ _ => rfl) ?_ (fun _ _ => rfl) fun _ _ => rfl,
    mem_allowOrigins, hmethods]
  · simp
  · exact fun c headers =>
      CorsConfig.foldl_keeps CorsConfig.origins CorsConfig.allowHeader (fun _ _ => rfl) _ headers

/-! ### Credentials -/

/-- The metadata contradict themselves if, with credentials, an origin is left as `*` once the
slashes at its end are dropped. -/
theorem build_contradictory_iff {s : CorsSettings} :
    s.build.Contradictory ↔
      s.credentials = true ∧ ∃ o ∈ s.origins, withoutEndSlashes o = anyValue := by
  rw [CorsConfig.Contradictory, build_credentials, mem_origins_build]

/-- Among valid origins only `*` itself is left as `*`, so the rule may look at the origins as they
are written. -/
theorem build_contradictory_iff_of_origins {s : CorsSettings}
    (h : ∀ o ∈ s.origins, Rule.isOrigin o = true) :
    s.build.Contradictory ↔ s.credentials = true ∧ anyValue ∈ s.origins := by
  rw [build_contradictory_iff]
  refine and_congr_right fun _ => ?_
  constructor
  · rintro ⟨o, ho, hall⟩
    rwa [eq_anyValue_of_isOrigin (h o ho) hall] at ho
  · intro hall
    exact ⟨anyValue, hall, by decide⟩

theorem build_validate_iff_of_origins {s : CorsSettings}
    (h : ∀ o ∈ s.origins, Rule.isOrigin o = true) :
    s.build.validate = .ok () ↔ ¬(s.credentials = true ∧ anyValue ∈ s.origins) := by
  rw [← build_contradictory_iff_of_origins h]
  constructor
  · intro hvalid hcontradictory
    rw [hcontradictory.validate_eq] at hvalid
    cases hvalid
  · exact CorsConfig.validate_of_not_contradictory

theorem build_validate_of_validate {s : CorsSettings} (h : s.validate = .ok ()) :
    s.build.validate = .ok () := by
  obtain ⟨horigins, -, -, hopen⟩ := validate_eq_ok_iff.1 h
  exact (build_validate_iff_of_origins horigins).2 hopen

theorem toCors_of_validate {s : CorsSettings} (h : s.validate = .ok ()) :
    s.toCors = .ok s.build := by
  rw [toCors, build_validate_of_validate h]

theorem validate_tellsViolation (s : CorsSettings) : Rule.TellsViolation s.validate := by
  have horigins := Rule.TellsViolation.forM
    (fun o => .require (Rule.isOrigin o) (.notOrigin "cors.allowed_origins" o)) s.origins
  have hpatterns := Rule.TellsViolation.forM (fun p : String =>
    .require (!(Text.trim p.toList).isEmpty) (.empty "cors.allowed_origin_patterns")) s.patterns
  have hmethods := Rule.TellsViolation.forM
    (fun m => .require (isMethod m) (.unknownMethod m)) s.methods
  exact horigins.andThen (hpatterns.andThen (hmethods.andThen (.require _ _)))

end CorsSettings

/-! ### Mapping settings -/

namespace MappingSettings

theorem validate_eq_ok_iff {s : MappingSettings} :
    s.validate = .ok () ↔
      (∀ level, s.logLevel? = some level → (LogLevel.parse? level).isSome = true) ∧
      ∀ e ∈ s.cors, Text.startsWithText "/" e.1 = true ∧ e.2.validate = .ok () := by
  have hpatterns : (s.cors.forM fun e => do
      Rule.rooted e.1 "cors"
      e.2.validate) = .ok () ↔
      ∀ e ∈ s.cors, Text.startsWithText "/" e.1 = true ∧ e.2.validate = .ok () := by
    rw [Rule.forM_eq_ok_iff]
    refine forall₂_congr fun e _ => ?_
    rw [Rule.and_then_eq_ok_iff, Rule.rooted, Rule.require_eq_ok_iff]
  unfold validate
  cases hlevel : s.logLevel? with
  | none => exact hpatterns.trans ⟨fun h => ⟨nofun, h⟩, fun h => h.2⟩
  | some level =>
    change (Rule.require (LogLevel.parse? level).isSome _ >>= fun _ => _) = _ ↔ _
    rw [Rule.and_then_eq_ok_iff, Rule.require_eq_ok_iff]
    refine and_congr ?_ hpatterns
    constructor
    · intro h other hother
      rwa [← Option.some.inj hother]
    · intro h
      exact h level rfl

theorem mem_byLength {s : MappingSettings} {e : String × CorsSettings} :
    e ∈ s.byLength ↔ e ∈ s.cors :=
  List.mem_mergeSort

theorem corsMappings_of_validate {s : MappingSettings} (h : s.validate = .ok ()) :
    s.corsMappings = .ok (s.byLength.map fun e => (e.1, e.2.build)) := by
  refine mapM_eq_ok fun e he => ?_
  have hvalid := ((validate_eq_ok_iff.1 h).2 e (mem_byLength.1 he)).2
  change e.2.toCors.map _ = _
  rw [CorsSettings.toCors_of_validate hvalid]
  rfl

def applied (s : MappingSettings) (m : HandlerMapping RouteMapping) : HandlerMapping RouteMapping :=
  { m with options := s.options, naming? := s.naming.naming?.or m.naming?
           globalCors := m.globalCors ++ s.byLength.map fun e => (e.1, e.2.build) }

theorem apply_of_validate {s : MappingSettings} (h : s.validate = .ok ())
    (m : HandlerMapping RouteMapping) : s.apply m = .ok (s.applied m) := by
  rw [apply, h, corsMappings_of_validate h]
  rfl

theorem apply_eq_error_iff {s : MappingSettings} {m : HandlerMapping RouteMapping}
    {e : ConfigError} : s.apply m = .error e ↔ s.validate = .error e := by
  cases h : s.validate with
  | error fault =>
    have hfault : s.apply m = .error fault := by
      rw [apply, h]
      rfl
    rw [hfault, Except.error.injEq, Except.error.injEq]
  | ok passed => simp [apply_of_validate h]

theorem apply_eq_ok_iff {s : MappingSettings} {m m' : HandlerMapping RouteMapping} :
    s.apply m = .ok m' ↔ s.validate = .ok () ∧ m' = s.applied m := by
  cases h : s.validate with
  | error fault => simp [apply_eq_error_iff.2 h]
  | ok passed => simp [apply_of_validate h, eq_comm]

theorem validate_tellsViolation (s : MappingSettings) : Rule.TellsViolation s.validate := by
  have hpattern : ∀ e : String × CorsSettings,
      Rule.TellsViolation (Rule.rooted e.1 "cors" >>= fun _ => e.2.validate) := by
    intro e
    exact Rule.TellsViolation.andThen (.require _ _) e.2.validate_tellsViolation
  have hcors := Rule.TellsViolation.forM hpattern s.cors
  unfold validate
  cases s.logLevel? with
  | none => exact hcors
  | some level => exact (Rule.TellsViolation.require _ (.unknownLevel level)).andThen hcors

/-! ### Valid settings and applied settings -/

structure Applying (s : MappingSettings) (m : HandlerMapping RouteMapping) : Prop where
  ok_iff : (∃ m', s.apply m = .ok m') ↔ s.validate = .ok ()
  error_iff : ∀ e, s.apply m = .error e ↔ s.validate = .error e
  /-- The mapping itself has no objections left. -/
  ne_dispatch : ∀ cause, s.apply m ≠ .error (.dispatch cause)
  /-- Behind the metadata that were there come those of the settings, and all of them are valid. -/
  installed : ∀ m', s.apply m = .ok m' → ∃ installed,
    m'.globalCors = m.globalCors ++ installed ∧
      (∀ e, e ∈ installed ↔ ∃ given ∈ s.cors, (given.1, given.2.build) = e) ∧
      ∀ e ∈ installed, e.2.validate = .ok ()
  /-- For valid origins, the rule and the metadata say the same about credentials. -/
  agree : ∀ e ∈ s.cors, (∀ o ∈ e.2.origins, Rule.isOrigin o = true) →
    (e.2.build.validate = .ok () ↔ ¬(e.2.credentials = true ∧ anyValue ∈ e.2.origins))

theorem installed_of_validate {s : MappingSettings} (h : s.validate = .ok ())
    (m : HandlerMapping RouteMapping) :
    ∃ installed, (s.applied m).globalCors = m.globalCors ++ installed ∧
      (∀ e, e ∈ installed ↔ ∃ given ∈ s.cors, (given.1, given.2.build) = e) ∧
      ∀ e ∈ installed, e.2.validate = .ok () := by
  refine ⟨s.byLength.map fun e => (e.1, e.2.build), rfl, ?_, ?_⟩
  · intro e
    simp only [List.mem_map, mem_byLength]
  · intro e he
    obtain ⟨given, hgiven, rfl⟩ := List.mem_map.1 he
    have hvalid := ((validate_eq_ok_iff.1 h).2 given (mem_byLength.1 hgiven)).2
    exact CorsSettings.build_validate_of_validate hvalid

/-- Settings can be applied to a mapping exactly if they are valid, and what keeps them from it is
what validation says. -/
theorem apply_ok_iff_valid (s : MappingSettings) (m : HandlerMapping RouteMapping) :
    Applying s m := by
  refine ⟨?_, fun e => apply_eq_error_iff, ?_, ?_, ?_⟩
  · constructor
    · rintro ⟨m', hm'⟩
      exact (apply_eq_ok_iff.1 hm').1
    · intro h
      exact ⟨s.applied m, apply_of_validate h m⟩
  · intro cause hcause
    obtain ⟨violation, hviolation⟩ := s.validate_tellsViolation _ (apply_eq_error_iff.1 hcause)
    cases hviolation
  · intro m' hm'
    obtain ⟨hvalid, rfl⟩ := apply_eq_ok_iff.1 hm'
    exact installed_of_validate hvalid m
  · intro e _ horigins
    exact CorsSettings.build_validate_iff_of_origins horigins

end MappingSettings

end RequestDispatch
