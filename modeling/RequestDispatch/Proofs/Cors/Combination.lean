import RequestDispatch.Cors.Config

/-! # Combined CORS metadata

A list is extended by what is new in the other one, so the combination accepts the methods and
headers of both. Patterns count as the same if they read the same, although one text accepts
different origins as a wildcard and as a regular expression: a pattern that looks like an earlier
one is lost. -/
namespace RequestDispatch

/-! ### Adding what is new -/

theorem mem_addNew {values : List String} {value v : String} :
    v ∈ addNew values value ↔ v ∈ values ∨ v = value := by
  unfold addNew
  split
  · next h =>
    have hin : value ∈ values := by simpa using h
    constructor
    · exact .inl
    · rintro (hv | rfl)
      · exact hv
      · exact hin
  · simp

theorem mem_addAllNew {values more : List String} {v : String} :
    v ∈ addAllNew values more ↔ v ∈ values ∨ v ∈ more := by
  induction more generalizing values with
  | nil => simp [addAllNew]
  | cons value rest ih =>
    have ih' : v ∈ addAllNew (addNew values value) rest ↔ _ := ih
    rw [addAllNew, List.foldl_cons, ← addAllNew, ih', mem_addNew, List.mem_cons, or_assoc]

theorem any_addAllNew (values more : List String) (p : String → Bool) :
    (addAllNew values more).any p = (values.any p || more.any p) := by
  rw [Bool.eq_iff_iff]
  simp only [List.any_eq_true, Bool.or_eq_true, mem_addAllNew, or_and_right, exists_or]

namespace CorsConfig

theorem accepts_addAllNew (allowed more : List String) (value : String) :
    accepts (addAllNew allowed more) value = (accepts allowed value || accepts more value) :=
  any_addAllNew allowed more _

/-! ### Patterns that look alike -/

def firstAlike? (patterns : List OriginPattern) (p : OriginPattern) : Option OriginPattern :=
  patterns.find? fun q => q.source = p.source

/-- `other` without the patterns that look like an earlier one of `c` or of its own. -/
def behind (other c : CorsConfig) : CorsConfig :=
  { other with
    patterns := other.patterns.filter fun p =>
      firstAlike? (c.patterns ++ other.patterns) p = some p }

theorem firstAlike?_append_of_mem {front : List OriginPattern} {p q : OriginPattern}
    (hq : q ∈ front) (hsource : q.source = p.source) (back : List OriginPattern) :
    firstAlike? (front ++ back) p = firstAlike? front p := by
  have hsome : (front.find? fun q => q.source = p.source).isSome := by
    rw [List.find?_isSome]
    exact ⟨q, hq, by simpa using hsource⟩
  obtain ⟨first, hfirst⟩ := Option.isSome_iff_exists.1 hsome
  simp [firstAlike?, List.find?_append, hfirst]

theorem mem_of_firstAlike? {patterns : List OriginPattern} {p q : OriginPattern}
    (h : firstAlike? patterns p = some q) : q ∈ patterns ∧ q.source = p.source :=
  ⟨List.mem_of_find?_eq_some h, by simpa using List.find?_some h⟩

theorem mem_addPatterns {patterns more : List OriginPattern} {p : OriginPattern} :
    p ∈ more.foldl addPattern patterns ↔
      p ∈ patterns ∨ p ∈ more ∧ firstAlike? (patterns ++ more) p = some p := by
  induction more generalizing patterns with
  | nil => simp
  | cons next rest ih =>
    rw [List.foldl_cons, ih, addPattern]
    split
    · next hany =>
      -- `next` stays out, and whoever looks like it finds an earlier pattern anyway.
      obtain ⟨q, hq, hsource⟩ := List.any_eq_true.1 hany
      have hsource : q.source = next.source := of_decide_eq_true hsource
      have hsame : firstAlike? (patterns ++ next :: rest) p = firstAlike? (patterns ++ rest) p := by
        by_cases hp : next.source = p.source
        · rw [firstAlike?_append_of_mem hq (hsource.trans hp),
            firstAlike?_append_of_mem hq (hsource.trans hp)]
        · simp [firstAlike?, List.find?_append, hp]
      rw [hsame, List.mem_cons]
      constructor
      · rintro (hp | ⟨hp, hfirst⟩)
        · exact .inl hp
        · exact .inr ⟨.inr hp, hfirst⟩
      · rintro (hp | ⟨rfl | hp, hfirst⟩)
        · exact .inl hp
        · rw [firstAlike?_append_of_mem hq hsource] at hfirst
          exact .inl (mem_of_firstAlike? hfirst).1
        · exact .inr ⟨hp, hfirst⟩
    · next hany =>
      have hfirst : firstAlike? (patterns ++ next :: rest) next = some next := by
        have hnone : (patterns.find? fun q => q.source = next.source) = none := by
          refine List.find?_eq_none.2 fun q hq hsource => hany ?_
          exact List.any_eq_true.2 ⟨q, hq, hsource⟩
        simp [firstAlike?, List.find?_append, hnone]
      rw [List.append_assoc, List.singleton_append, List.mem_append, List.mem_singleton,
        List.mem_cons]
      constructor
      · rintro ((hp | rfl) | ⟨hp, hp'⟩)
        · exact .inl hp
        · exact .inr ⟨.inl rfl, hfirst⟩
        · exact .inr ⟨.inr hp, hp'⟩
      · rintro (hp | ⟨rfl | hp, hp'⟩)
        · exact .inl (.inl hp)
        · exact .inl (.inr rfl)
        · exact .inr ⟨hp, hp'⟩

theorem mem_patterns_combine {c other : CorsConfig} {p : OriginPattern} :
    p ∈ (c.combine other).patterns ↔ p ∈ c.patterns ∨ p ∈ (other.behind c).patterns := by
  simp only [combine, mem_addPatterns, behind, List.mem_filter, decide_eq_true_eq]

theorem any_patterns_combine (c other : CorsConfig) (f : OriginPattern → Bool) :
    (c.combine other).patterns.any f = (c.patterns.any f || (other.behind c).patterns.any f) := by
  rw [Bool.eq_iff_iff]
  simp only [List.any_eq_true, Bool.or_eq_true, mem_patterns_combine, or_and_right, exists_or]

/-! ### Metadata as it is built -/

/-- What can be made of the base configurations by building and combining. -/
inductive Built : CorsConfig → Prop
  | strict : Built .strict
  | permissive : Built .permissive
  | permissiveWithCredentials : Built .permissiveWithCredentials
  | allowOrigin {c : CorsConfig} (h : Built c) (origin : String) : Built (c.allowOrigin origin)
  | allowOriginPattern {c : CorsConfig} (h : Built c) (pattern : String) :
      Built (c.allowOriginPattern pattern)
  | allowOriginRegex {c c' : CorsConfig} (h : Built c) {pattern : String}
      (e : c.allowOriginRegex pattern = .ok c') : Built c'
  | allowMethod {c : CorsConfig} (h : Built c) (method : String) : Built (c.allowMethod method)
  | withMethods {c : CorsConfig} (h : Built c) (methods : List String) :
      Built (c.withMethods methods)
  | allowHeader {c : CorsConfig} (h : Built c) (header : String) : Built (c.allowHeader header)
  | withHeaders {c : CorsConfig} (h : Built c) (headers : List String) :
      Built (c.withHeaders headers)
  | expose {c : CorsConfig} (h : Built c) (headers : List String) : Built (c.expose headers)
  | credentials {c : CorsConfig} (h : Built c) (allow : Bool) :
      Built { c with credentials := allow }
  | maxAge {c : CorsConfig} (h : Built c) (seconds : Nat) :
      Built { c with maxAge := some seconds }
  | combine {c other : CorsConfig} (h : Built c) (h' : Built other) : Built (c.combine other)

/-- Every regular expression is the one that its text is read as. -/
def Compiled (c : CorsConfig) : Prop :=
  ∀ r, .regex r ∈ c.patterns → Regex.Pattern.ofText? r.source = some r

end CorsConfig

theorem Regex.Pattern.source_of_ofText? {text : String} {r : Regex.Pattern}
    (h : Regex.Pattern.ofText? text = some r) : r.source = text := by
  unfold Regex.Pattern.ofText? at h
  dsimp only at h
  split at h
  · split at h
    · cases h
      rfl
    · cases h
  · cases h

namespace CorsConfig

theorem foldl_keeps {β : Type} (g : CorsConfig → β) (f : CorsConfig → String → CorsConfig)
    (hf : ∀ c value, g (f c value) = g c) (c : CorsConfig) (values : List String) :
    g (values.foldl f c) = g c := by
  induction values generalizing c with
  | nil => rfl
  | cons value rest ih => rw [List.foldl_cons, ih, hf]

theorem Built.compiled {c : CorsConfig} (h : Built c) : Compiled c := by
  induction h with
  | strict | permissive => exact fun _ hr => nomatch hr
  | permissiveWithCredentials =>
    intro r hr
    simp [CorsConfig.permissiveWithCredentials] at hr
  | allowOrigin _ _ ih | allowMethod _ _ ih | allowHeader _ _ ih | expose _ _ ih
  | credentials _ _ ih | maxAge _ _ ih => exact ih
  | allowOriginPattern _ pattern ih =>
    intro r hr
    exact ih r (by simpa [CorsConfig.allowOriginPattern] using hr)
  | @allowOriginRegex c c' _ pattern e ih =>
    unfold CorsConfig.allowOriginRegex at e
    split at e
    · next regex hregex =>
      cases e
      intro r hr
      rcases List.mem_append.1 hr with hr | hr
      · exact ih r hr
      · cases List.mem_singleton.1 hr
        rw [Regex.Pattern.source_of_ofText? hregex, hregex]
    · cases e
  | withMethods _ methods ih =>
    intro r hr
    rw [CorsConfig.withMethods,
      foldl_keeps patterns CorsConfig.allowMethod fun _ _ => rfl] at hr
    exact ih r hr
  | withHeaders _ headers ih =>
    intro r hr
    rw [CorsConfig.withHeaders,
      foldl_keeps patterns CorsConfig.allowHeader fun _ _ => rfl] at hr
    exact ih r hr
  | combine _ _ ih ih' =>
    intro r hr
    rcases mem_patterns_combine.1 hr with hr | hr
    · exact ih r hr
    · exact ih' r (List.mem_filter.1 hr).1

def isRegex : OriginPattern → Bool
  | .wildcard _ => false
  | .regex _ => true

/-- No text is a wildcard here and a regular expression there. -/
def Unmixed (patterns : List OriginPattern) : Prop :=
  ∀ p ∈ patterns, ∀ q ∈ patterns, q.source = p.source → isRegex q = isRegex p

instance (patterns : List OriginPattern) : Decidable (Unmixed patterns) :=
  inferInstanceAs (Decidable (∀ p ∈ patterns, ∀ q ∈ patterns, _ → _))

/-- Without mixed kinds, patterns that read the same are the same. -/
theorem eq_of_source_eq {c other : CorsConfig} (h : Compiled c) (h' : Compiled other)
    (hu : Unmixed (c.patterns ++ other.patterns)) {p q : OriginPattern}
    (hp : p ∈ c.patterns ++ other.patterns) (hq : q ∈ c.patterns ++ other.patterns)
    (hsource : q.source = p.source) : q = p := by
  have hcompiled : ∀ r, .regex r ∈ c.patterns ++ other.patterns →
      Regex.Pattern.ofText? r.source = some r := by
    intro r hr
    rcases List.mem_append.1 hr with hr | hr
    · exact h r hr
    · exact h' r hr
  have hkind := hu p hp q hq hsource
  cases p with
  | wildcard text =>
    cases q with
    | wildcard text' => exact congrArg OriginPattern.wildcard hsource
    | regex r => cases hkind
  | regex r =>
    cases q with
    | wildcard text => cases hkind
    | regex r' =>
      have hread := hcompiled r hp
      have hread' := hcompiled r' hq
      have hsource : r'.source = r.source := hsource
      rw [hsource, hread] at hread'
      exact congrArg OriginPattern.regex (Option.some.inj hread').symm

theorem behind_of_unmixed {c other : CorsConfig} (h : Compiled c) (h' : Compiled other)
    (hu : Unmixed (c.patterns ++ other.patterns)) : other.behind c = other := by
  have hall : ∀ p ∈ other.patterns, firstAlike? (c.patterns ++ other.patterns) p = some p := by
    intro p hp
    have hin : p ∈ c.patterns ++ other.patterns := List.mem_append_right _ hp
    have hsome : (firstAlike? (c.patterns ++ other.patterns) p).isSome := by
      rw [firstAlike?, List.find?_isSome]
      exact ⟨p, hin, by simp⟩
    obtain ⟨q, hq⟩ := Option.isSome_iff_exists.1 hsome
    obtain ⟨hmem, hsource⟩ := mem_of_firstAlike? hq
    rw [hq, eq_of_source_eq h h' hu hin hmem hsource]
  have hfilter : other.patterns.filter (fun p =>
      firstAlike? (c.patterns ++ other.patterns) p = some p) = other.patterns := by
    refine List.filter_eq_self.2 fun p hp => ?_
    simpa using hall p hp
  rw [behind, hfilter]

/-! ### What a combination allows -/

theorem allowsOrigin_eq (c : CorsConfig) (origin : String) :
    c.allowsOrigin origin = (decide (withoutEndSlashes origin ≠ "") &&
      (accepts c.origins (withoutEndSlashes origin) ||
        c.patterns.any (·.accepts (withoutEndSlashes origin)))) := by
  have haccepts : ∀ o, accepts c.origins o = (c.origins.contains anyValue ||
      c.origins.any (Text.sameIgnoringAsciiCase · o)) := by
    intro o
    rw [Bool.eq_iff_iff]
    simp only [accepts, List.any_eq_true, Bool.or_eq_true, decide_eq_true_eq, List.contains_iff_mem]
    constructor
    · rintro ⟨a, ha, rfl | hsame⟩
      · exact .inl ha
      · exact .inr ⟨a, ha, hsame⟩
    · rintro (ha | ⟨a, ha, hsame⟩)
      · exact ⟨anyValue, ha, .inl rfl⟩
      · exact ⟨a, ha, .inr hsame⟩
  rw [allowsOrigin, grantedOrigin?, haccepts]
  by_cases hempty : withoutEndSlashes origin = ""
  · simp [hempty]
  · rw [if_neg hempty]
    cases hany : c.origins.contains anyValue with
    | true => simp [hempty]
    | false =>
      cases hmatch : c.origins.any (Text.sameIgnoringAsciiCase · (withoutEndSlashes origin)) ||
          c.patterns.any (·.accepts (withoutEndSlashes origin)) with
      | true => simp [hempty, hmatch]
      | false => simp [hmatch]

theorem allowsOrigin_combine (c other : CorsConfig) (origin : String) :
    (c.combine other).allowsOrigin origin =
      (c.allowsOrigin origin || (other.behind c).allowsOrigin origin) := by
  have horigins : accepts (c.combine other).origins (withoutEndSlashes origin) =
      (accepts c.origins (withoutEndSlashes origin) ||
        accepts (other.behind c).origins (withoutEndSlashes origin)) :=
    accepts_addAllNew ..
  rw [allowsOrigin_eq, allowsOrigin_eq, allowsOrigin_eq, horigins, any_patterns_combine]
  cases decide (withoutEndSlashes origin ≠ "") with
  | false => rfl
  | true => simp only [Bool.true_and, Bool.or_assoc, Bool.or_left_comm]

/-- A combination allows what one of the two allows. Of the second one those patterns count that
come first among all that read the same, and these are all of them unless a wildcard reads like a
regular expression. -/
theorem combine_allows_either (c other : CorsConfig) :
    (∀ method, (c.combine other).allowsMethod method =
      (c.allowsMethod method || other.allowsMethod method)) ∧
    (∀ header, (c.combine other).allowsHeader header =
      (c.allowsHeader header || other.allowsHeader header)) ∧
    (∀ origin, (c.combine other).allowsOrigin origin =
      (c.allowsOrigin origin || (other.behind c).allowsOrigin origin)) ∧
    (Built c → Built other → Unmixed (c.patterns ++ other.patterns) →
      ∀ origin, (c.combine other).allowsOrigin origin =
        (c.allowsOrigin origin || other.allowsOrigin origin)) := by
  refine ⟨fun method => accepts_addAllNew .., fun header => accepts_addAllNew ..,
    allowsOrigin_combine c other, fun h h' hu origin => ?_⟩
  rw [allowsOrigin_combine, behind_of_unmixed h.compiled h'.compiled hu]

def exactOrigin : CorsConfig := strict.allowOriginPattern "https://a.test"

def originWithin : CorsConfig :=
  ((strict.allowOriginRegex "https://a.test").toOption).getD strict

def subdomains : CorsConfig := strict.allowOriginPattern "https://*.a.test"

theorem built_originWithin : Built originWithin := by
  have hok : (strict.allowOriginRegex "https://a.test").isOk = true := by decide +kernel
  cases h : strict.allowOriginRegex "https://a.test" with
  | error e =>
    rw [h] at hok
    cases hok
  | ok c =>
    have hc : originWithin = c := by rw [originWithin, h]; rfl
    exact hc ▸ .allowOriginRegex .strict h

theorem subdomains_combine_originWithin :
    Built subdomains ∧ Built originWithin ∧
    Unmixed (subdomains.patterns ++ originWithin.patterns) ∧
    (subdomains.combine originWithin).allowsOrigin "https://a.test:8443" =
      (subdomains.allowsOrigin "https://a.test:8443" ||
        originWithin.allowsOrigin "https://a.test:8443") ∧
    originWithin.allowsOrigin "https://a.test:8443" = true := by
  have hbuilt : Built subdomains := .allowOriginPattern .strict _
  have hu : Unmixed (subdomains.patterns ++ originWithin.patterns) := by decide +kernel
  exact ⟨hbuilt, built_originWithin, hu,
    (combine_allows_either subdomains originWithin).2.2.2 hbuilt built_originWithin hu _,
    by decide +kernel⟩

/-- The regular expression accepts the origin, but it reads like the pattern before it. -/
theorem lookalike_pattern_lost :
    Built exactOrigin ∧ Built originWithin ∧
    originWithin.allowsOrigin "https://a.test:8443" = true ∧
    (exactOrigin.combine originWithin).allowsOrigin "https://a.test:8443" = false :=
  ⟨.allowOriginPattern .strict _, built_originWithin, by decide +kernel, by decide +kernel⟩

end CorsConfig

end RequestDispatch
