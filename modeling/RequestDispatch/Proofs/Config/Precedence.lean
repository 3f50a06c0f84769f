import RequestDispatch.Mapping.Lookup
import RequestDispatch.Proofs.Config.Validity
import RequestDispatch.Proofs.Path.Alignment
import RequestDispatch.Proofs.Path.Lengths

/-! # Precedence of CORS settings

The CORS settings of a mapping are tried by the lengths of their patterns, which are known before
any request. The specificity of a pattern depends on the path and on the kinds of wildcards, so
the settings that count for a path are those of the longest pattern that matches it, not always
those of the most specific one. -/
namespace RequestDispatch.MappingSettings

open RequestDispatch.Path

/-! ### Sorted by length -/

/-- More bytes, or as many and no later in alphabetical order. -/
def Precedes (a b : String) : Prop :=
  b.utf8ByteSize < a.utf8ByteSize ∨ (a.utf8ByteSize = b.utf8ByteSize ∧ a ≤ b)

theorem Precedes.refl (a : String) : Precedes a a :=
  .inr ⟨rfl, String.le_refl a⟩

theorem Precedes.bytes_le {a b : String} (h : Precedes a b) : b.utf8ByteSize ≤ a.utf8ByteSize := by
  rcases h with hlonger | ⟨hsame, -⟩
  · exact Nat.le_of_lt hlonger
  · exact Nat.le_of_eq hsame.symm

theorem Precedes.antisymm {a b : String} (h : Precedes a b) (h' : Precedes b a) : a = b := by
  have hbytes := h.bytes_le
  have hbytes' := h'.bytes_le
  rcases h with hlonger | ⟨-, hle⟩
  · omega
  · rcases h' with hlonger' | ⟨-, hle'⟩
    · omega
    · exact String.le_antisymm hle hle'

theorem Precedes.trans {a b c : String} (h : Precedes a b) (h' : Precedes b c) : Precedes a c := by
  have hbytes := h.bytes_le
  have hbytes' := h'.bytes_le
  rcases h with hlonger | ⟨hsame, hle⟩
  · exact .inl (by omega)
  · rcases h' with hlonger' | ⟨hsame', hle'⟩
    · exact .inl (by omega)
    · exact .inr ⟨hsame.trans hsame', String.le_trans hle hle'⟩

theorem precedes_total (a b : String) : Precedes a b ∨ Precedes b a := by
  rcases Nat.lt_trichotomy a.utf8ByteSize b.utf8ByteSize with hlt | heq | hgt
  · exact .inr (.inl hlt)
  · exact (String.le_total a b).imp (fun h => .inr ⟨heq, h⟩) fun h => .inr ⟨heq.symm, h⟩
  · exact .inl (.inl hgt)

theorem comesBefore_iff {a b : String} : comesBefore a b = true ↔ Precedes a b := by
  simp only [comesBefore, Precedes, Bool.or_eq_true, Bool.and_eq_true, Bool.not_eq_true',
    decide_eq_true_eq, decide_eq_false_iff_not, String.not_lt]

theorem pairwise_byLength (s : MappingSettings) :
    s.byLength.Pairwise fun a b => Precedes a.1 b.1 := by
  have hsorted : s.byLength.Pairwise fun a b => comesBefore a.1 b.1 = true := by
    refine List.pairwise_mergeSort (fun a b c hab hbc => ?_) (fun a b => ?_) s.cors
    · exact comesBefore_iff.2 ((comesBefore_iff.1 hab).trans (comesBefore_iff.1 hbc))
    · rw [Bool.or_eq_true, comesBefore_iff, comesBefore_iff]
      exact precedes_total a.1 b.1
  exact hsorted.imp comesBefore_iff.1

example : comesBefore "/api/**" "/**" = true ∧ comesBefore "/api/a*" "/api/b" = true ∧
    comesBefore "/a" "/b" = true := by decide

/-- The longest pattern among those that match the path, and the first one in alphabetical order
among those as long. -/
structure LongestMatch (s : MappingSettings) (matching : Path.Matching) (path : String)
    (e : String × CorsSettings) : Prop where
  mem : e ∈ s.cors
  isMatch : matching e.1 path = true
  longest : ∀ other ∈ s.cors, matching other.1 path = true → Precedes e.1 other.1

variable {s : MappingSettings} {matching : Path.Matching} {path : String}
  {e : String × CorsSettings}

theorem longestMatch_of_find? (h : s.byLength.find? (fun e => matching e.1 path) = some e) :
    s.LongestMatch matching path e := by
  obtain ⟨hmatch, before, behind, hsplit, hbefore⟩ := List.find?_eq_some_iff_append.1 h
  have hmem : e ∈ s.byLength := List.mem_of_find?_eq_some h
  refine ⟨mem_byLength.1 hmem, hmatch, fun other hother hmatchOther => ?_⟩
  have hsorted := pairwise_byLength s
  rw [hsplit] at hsorted
  have hplace : other ∈ before ++ e :: behind := hsplit ▸ mem_byLength.2 hother
  rcases List.mem_append.1 hplace with hearlier | hlater
  · have hmiss := hbefore other hearlier
    rw [hmatchOther] at hmiss
    cases hmiss
  · rcases List.mem_cons.1 hlater with rfl | hbehind
    · exact Precedes.refl other.1
    · exact List.rel_of_pairwise_cons (List.pairwise_append.1 hsorted).2.1 hbehind

theorem exists_find?_byLength (h : ∃ e ∈ s.cors, matching e.1 path = true) :
    ∃ e, s.byLength.find? (fun e => matching e.1 path) = some e := by
  obtain ⟨e, he, hmatch⟩ := h
  exact Option.isSome_iff_exists.1 (List.find?_isSome.2 ⟨e, mem_byLength.2 he, hmatch⟩)

/-! ### Settings that count for a path -/

theorem LongestMatch.eq_of_longer {own : String × CorsSettings}
    (h : s.LongestMatch matching path e) (hmem : own ∈ s.cors) (hmatch : matching own.1 path = true)
    (hlonger : ∀ other ∈ s.cors, other = own ∨ other.1.utf8ByteSize < own.1.utf8ByteSize) :
    e = own := by
  rcases hlonger e h.mem with heq | hshorter
  · exact heq
  · exact absurd hshorter (Nat.not_lt_of_le (h.longest own hmem hmatch).bytes_le)

/-- Settings for the path itself count exactly if no pattern that matches precedes it. -/
theorem LongestMatch.eq_path_iff (h : s.LongestMatch matching path e)
    (hpath : path ∈ s.cors.map (·.1)) (hmatch : matching path path = true) :
    e.1 = path ↔ ∀ other ∈ s.cors, matching other.1 path = true → Precedes path other.1 := by
  obtain ⟨own, hown, rfl⟩ := List.mem_map.1 hpath
  constructor
  · intro heq other hother hmatchOther
    rw [← heq]
    exact h.longest other hother hmatchOther
  · intro hlongest
    exact (h.longest own hown hmatch).antisymm (hlongest e h.mem h.isMatch)

theorem find?_built (h : s.byLength.find? (fun e => matching e.1 path) = some e) :
    (s.byLength.map fun e => (e.1, e.2.build)).find? (fun entry => matching entry.1 path) =
      some (e.1, e.2.build) := by
  rw [List.find?_map, Function.comp_def, h, Option.map_some]

theorem globalCorsFor?_applied {m : HandlerMapping RouteMapping}
    (h : s.byLength.find? (fun e => m.matcher e.1 path) = some e) :
    (s.applied m).globalCorsFor? path = (m.globalCorsFor? path).or (some e.2.build) := by
  unfold HandlerMapping.globalCorsFor? applied
  rw [List.find?_append, find?_built h]
  cases m.globalCors.find? fun entry => m.matcher entry.1 path <;> rfl

/-- Valid settings are applied, and what counts for a path that some pattern matches are the
settings of the longest such pattern, behind what the mapping had before. Where that pattern is
written out plainly no other one but the path is more specific, unless it has fewer wildcards of
some kind; settings for the path itself count unless a longer pattern matches. -/
theorem longest_match_counts (hvalid : s.validate = .ok ()) (m : HandlerMapping RouteMapping)
    (hmatch : ∃ e ∈ s.cors, m.matcher e.1 path = true) :
    ∃ mappings configured e, s.corsMappings = .ok mappings ∧ s.apply m = .ok configured ∧
      s.LongestMatch m.matcher path e ∧
      mappings.find? (fun entry => m.matcher entry.1 path) = some (e.1, e.2.build) ∧
      configured.globalCorsFor? path = (m.globalCorsFor? path).or (some e.2.build) ∧
      (∀ (h : HandlerMethod) (r : Request RouteMapping),
        r.notedPath configured.options.decode = path → m.globalCorsFor? path = none →
        configured.corsFor? h r = some ((m.handlerCors? h).elim e.2.build e.2.build.combine)) ∧
      (PlainPattern e.1 → ∀ other ∈ s.cors, m.matcher other.1 path = true → other.1 ≠ path →
        (Rank.ofPattern e.1).anyRuns ≤ (Rank.ofPattern other.1).anyRuns →
        (Rank.ofPattern e.1).runs ≤ (Rank.ofPattern other.1).runs →
        comparePatterns path other.1 e.1 ≠ .lt) ∧
      (path ∈ s.cors.map (·.1) → m.matcher path path = true →
        (e.1 = path ↔
          ∀ other ∈ s.cors, m.matcher other.1 path = true → Precedes path other.1)) := by
  obtain ⟨e, hfirst⟩ := exists_find?_byLength hmatch
  have hlongest := longestMatch_of_find? hfirst
  have hglobal := globalCorsFor?_applied hfirst
  refine ⟨_, s.applied m, e, corsMappings_of_validate hvalid, apply_of_validate hvalid m, hlongest,
    find?_built hfirst, hglobal, ?_, ?_, ?_⟩
  · intro h r hpath hnone
    have hown : (s.applied m).handlerCors? h = m.handlerCors? h := rfl
    rw [HandlerMapping.corsFor?, hpath, hglobal, hnone, hown]
    cases m.handlerCors? h <;> rfl
  · intro hplain other hother hmatchOther hpath hany hruns
    have hrooted := ((validate_eq_ok_iff.1 hvalid).2 other hother).1
    have hbytes := (hlongest.longest other hother hmatchOther).bytes_le
    exact comparePatterns_ne_lt_of_longer hplain hrooted hpath hbytes hany hruns
  · intro hown hself
    exact hlongest.eq_path_iff hown hself

def apiSettings : MappingSettings :=
  { cors := [("/**", {}), ("/api/**", { origins := ["https://app.test"], credentials := true })] }

theorem plain_api : PlainPattern "/api/**" where
  joined := by decide +kernel
  ascii := by
    have hall : ("/api/**".toList.all fun c => c.toNat < 0x80) = true := by decide +kernel
    simpa only [List.all_eq_true, decide_eq_true_eq] using hall
  unbraced := by
    have hall : ("/api/**".toList.all fun c => c ≠ '\x7b' ∧ c ≠ '\x7d') = true := by decide +kernel
    simpa only [List.all_eq_true, decide_eq_true_eq] using hall
  unnamed := by decide +kernel

theorem apiSettings_longest_match :
    apiSettings.validate = .ok () ∧
      (∃ e ∈ apiSettings.cors, Path.isMatch e.1 "/api/users" = true) ∧
      (∃ configured, apiSettings.apply { strategy := RouteTable.strategy [] } = .ok configured ∧
        configured.globalCorsFor? "/api/users" =
          some ({ origins := ["https://app.test"], credentials := true } : CorsSettings).build) ∧
      comparePatterns "/api/users" "/**" "/api/**" ≠ .lt := by
  have hapi : Path.isMatch "/api/**" "/api/users" = true :=
    isMatch_below ["api"] ["users"] (by decide +kernel) (by decide +kernel)
  have hall : Path.isMatch "/**" "/api/users" = true :=
    isMatch_below [] ["api", "users"] (by decide +kernel) (by decide +kernel)
  have hvalid : apiSettings.validate = .ok () := rfl
  have hmem : ("/api/**", { origins := ["https://app.test"], credentials := true }) ∈
      apiSettings.cors := by decide
  have hmatch : ∃ e ∈ apiSettings.cors, Path.isMatch e.1 "/api/users" = true :=
    ⟨_, hmem, hapi⟩
  obtain ⟨-, configured, e, -, happly, hlongest, -, hglobal, -, hspecific, -⟩ :=
    longest_match_counts hvalid { strategy := RouteTable.strategy [] } hmatch
  obtain rfl := hlongest.eq_of_longer hmem hapi (by decide)
  refine ⟨hvalid, hmatch, ⟨configured, happly, hglobal⟩, ?_⟩
  exact hspecific plain_api ("/**", {}) List.mem_cons_self hall (by decide) (by decide +kernel)
    (by decide +kernel)

def adminSettings : MappingSettings :=
  { cors := [("/admin", { origins := ["https://admin.test"] }),
      ("/admin/**", { origins := [anyValue] })] }

/-- The settings for the path itself do not count, because the wildcard pattern is longer. -/
theorem literal_path_shadowed :
    adminSettings.validate = .ok () ∧
      (∀ e ∈ adminSettings.cors, Path.isMatch e.1 "/admin" = true) ∧
      (∃ configured, adminSettings.apply { strategy := RouteTable.strategy [] } = .ok configured ∧
        configured.globalCorsFor? "/admin" =
          some ({ origins := [anyValue] } : CorsSettings).build) ∧
      ({ origins := [anyValue] } : CorsSettings).build ≠
        ({ origins := ["https://admin.test"] } : CorsSettings).build ∧
      comparePatterns "/admin" "/admin" "/admin/**" = .lt := by
  have hvalid : adminSettings.validate = .ok () := rfl
  have hself : Path.isMatch "/admin" "/admin" = true := Path.isMatch_self (by decide +kernel)
  have hbelow : Path.isMatch "/admin/**" "/admin" = true :=
    isMatch_below ["admin"] [] (by decide +kernel) (by decide +kernel)
  have hmatch : ∀ e ∈ adminSettings.cors, Path.isMatch e.1 "/admin" = true := by
    simp [adminSettings, hself, hbelow]
  have hmem : ("/admin/**", { origins := [anyValue] }) ∈ adminSettings.cors := by decide
  obtain ⟨e, hfirst⟩ := exists_find?_byLength ⟨_, hmem, hbelow⟩
  have hlonger : e = ("/admin/**", { origins := [anyValue] }) :=
    (longestMatch_of_find? hfirst).eq_of_longer hmem hbelow (by decide)
  refine ⟨hvalid, hmatch, ⟨_, apply_of_validate hvalid _, ?_⟩, by decide +kernel, by decide +kernel⟩
  rw [globalCorsFor?_applied (m := { strategy := RouteTable.strategy [] }) hfirst, hlonger]
  rfl

end RequestDispatch.MappingSettings
