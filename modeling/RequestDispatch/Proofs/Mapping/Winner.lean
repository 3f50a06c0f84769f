import RequestDispatch.Proofs.Mapping.Served
import RequestDispatch.Proofs.Route.Ranking
import RequestDispatch.Route.Table

/-! # The winner of a lookup

The plain definition looks at all bound descriptors that match and asks for one that ranks before
every other. Lookup ranks those under the literal path alone if there are any; the descriptors
left out are strictly worse, so the answer is the same. -/
namespace RequestDispatch

variable {D : Type}

/-- What lookup relies on: comparisons rank consistently, a match that has the literal path comes
before every match that does not, and nothing is found where nothing matches. -/
structure Strategy.LiteralFirst (s : Strategy D) : Prop where
  compare_trans : ∀ r, Std.TransCmp (s.compare r)
  compare_literal : ∀ {r path d d' f f'}, r.notedPath true = path → path ∈ s.directPaths d →
    path ∉ s.directPaths d' → s.narrow d r = some f → s.narrow d' r = some f' →
    s.compare r f f' = .lt
  onNoMatch_none : ∀ registry path r, s.onNoMatch registry path r = .ok none

theorem RouteTable.literalFirst (t : RouteTable) : t.strategy.LiteralFirst where
  compare_trans r := RouteMapping.compareTo_trans (r.notedPath true)
  compare_literal := by
    rintro r _ d d' f f' rfl hd hd' hf hf'
    simp only [strategy, List.mem_filter, Bool.not_eq_true'] at hd hd'
    exact RouteMapping.compareTo_of_literal hf hf' hd.1 (fun h => hd' ⟨h, hd.2⟩) hd.2
  onNoMatch_none _ _ _ := rfl

theorem urlStrategy_literalFirst : urlStrategy.LiteralFirst where
  compare_trans r := Path.comparePatterns_trans (r.notedPath true)
  compare_literal := by
    rintro r _ d d' f f' rfl hd hd' hf hf'
    simp only [urlStrategy] at hd hd' hf hf'
    split at hd
    · cases hd
    next hp =>
    obtain rfl := List.mem_singleton.1 hd
    have hne : d' ≠ r.notedPath true := by
      rintro rfl
      simp [hp] at hd'
    split at hf <;> cases hf
    split at hf' <;> cases hf'
    exact Path.comparePatterns_path hne
  onNoMatch_none _ _ _ := rfl

namespace HandlerMapping

variable [DecidableEq D] {m m' : HandlerMapping D} {r : Request D}

/-! ### The plain definition -/

structure Matching (m : HandlerMapping D) (r : Request D) (d : D) (f : Match D) : Prop where
  bound : m.registry.binding? d = some f.binding
  narrowed : m.strategy.narrow d r = some f.mapping

structure Wins (m : HandlerMapping D) (r : Request D) (d : D) (f : Match D) : Prop where
  matching : Matching m r d f
  before : ∀ d' f', Matching m r d' f' → d' ≠ d →
    m.strategy.compare r f.mapping f'.mapping = .lt

/-- The answer to a request by the set of all matches, without regard to any order of them. -/
structure Plain (m : HandlerMapping D) (r : Request D)
    (answer : Except DispatchError (Option HandlerMethod)) : Prop where
  nothing : (∀ d f, ¬Matching m r d f) → answer = .ok none
  winner : ∀ d f, Wins m r d f → answer = .ok (some f.binding.handler)
  /-- Two of the best matches are named. -/
  tie : (∃ d f, Matching m r d f) → (∀ d f, ¬Wins m r d f) →
    ∃ d f d' f', d ≠ d' ∧ Matching m r d f ∧ Matching m r d' f' ∧
      (∀ d'' f'', Matching m r d'' f'' →
        (m.strategy.compare r f.mapping f''.mapping).isLE ∧
          (m.strategy.compare r f'.mapping f''.mapping).isLE) ∧
      answer = .error (.ambiguousHandlers r.uri f.binding.handler.text f'.binding.handler.text)

theorem Matching.unique {d : D} {f f' : Match D} (h : Matching m r d f) (h' : Matching m r d f') :
    f = f' := by
  obtain ⟨mapping, binding⟩ := f
  obtain ⟨mapping', binding'⟩ := f'
  cases h.bound.symm.trans h'.bound
  cases h.narrowed.symm.trans h'.narrowed
  rfl

theorem Wins.unique (hc : Std.TransCmp (m.strategy.compare r)) {d d' : D} {f f' : Match D}
    (h : Wins m r d f) (h' : Wins m r d' f') : f = f' := by
  by_cases hd : d' = d
  · subst hd
    exact h.matching.unique h'.matching
  · have hlt := h.before d' f' h'.matching hd
    have hgt := h'.before d f h.matching (Ne.symm hd)
    rw [Std.OrientedCmp.gt_of_lt hlt] at hgt
    cases hgt

theorem Wins.plain (hc : Std.TransCmp (m.strategy.compare r)) {d : D} {f : Match D}
    (h : Wins m r d f) : Plain m r (.ok (some f.binding.handler)) where
  nothing hnone := absurd h.matching (hnone d f)
  winner _ _ h' := by rw [h.unique hc h']
  tie _ hnone := absurd h (hnone d f)

/-! ### The matches that are ranked -/

/-- The matches that take part, in ranked order, each with its descriptor. One that stays out is
strictly worse than all that take part. -/
structure Contest (m : HandlerMapping D) (r : Request D) (ms : List (D × Match D)) : Prop where
  matching : ∀ e ∈ ms, Matching m r e.1 e.2
  distinct : (ms.map Prod.fst).Nodup
  ranked : ms.Pairwise fun a b => (m.strategy.compare r a.2.mapping b.2.mapping).isLE
  outside : ∀ d f, Matching m r d f →
    (d, f) ∈ ms ∨ ms ≠ [] ∧ ∀ e ∈ ms, m.strategy.compare r e.2.mapping f.mapping = .lt

namespace Contest

variable {d : D} {f : Match D} {rest : List (D × Match D)}

theorem first_isLE (hc : Std.TransCmp (m.strategy.compare r)) (h : Contest m r ((d, f) :: rest))
    {d' : D} {f' : Match D} (h' : Matching m r d' f') :
    (m.strategy.compare r f.mapping f'.mapping).isLE := by
  rcases h.outside d' f' h' with hin | ⟨-, hlt⟩
  · rcases List.mem_cons.1 hin with heq | hin
    · cases heq
      exact Std.ReflCmp.isLE_rfl
    · exact List.rel_of_pairwise_cons h.ranked hin
  · exact Ordering.isLE_of_eq_lt (hlt (d, f) (List.mem_cons_self ..))

theorem first_wins (h : Contest m r ((d, f) :: rest))
    (hrest : ∀ e ∈ rest, m.strategy.compare r f.mapping e.2.mapping = .lt) : Wins m r d f where
  matching := h.matching (d, f) (List.mem_cons_self ..)
  before d' f' h' hne := by
    rcases h.outside d' f' h' with hin | ⟨-, hlt⟩
    · rcases List.mem_cons.1 hin with heq | hin
      · cases heq
        exact absurd rfl hne
      · exact hrest (d', f') hin
    · exact hlt (d, f) (List.mem_cons_self ..)

theorem second_matching {second : D × Match D} (h : Contest m r ((d, f) :: second :: rest)) :
    second.1 ≠ d ∧ Matching m r second.1 second.2 := by
  refine ⟨?_, h.matching second (List.mem_cons_of_mem _ (List.mem_cons_self ..))⟩
  have hdistinct := (List.nodup_cons.1 h.distinct).1
  rintro rfl
  exact hdistinct (List.mem_cons_self ..)

/-- With the first two tied there is no winner: it could only be the first. -/
theorem not_wins (hc : Std.TransCmp (m.strategy.compare r)) {second : D × Match D}
    (h : Contest m r ((d, f) :: second :: rest))
    (htie : m.strategy.compare r f.mapping second.2.mapping = .eq) (d' : D) (f' : Match D) :
    ¬Wins m r d' f' := by
  intro hw
  have hfirst := h.matching (d, f) (List.mem_cons_self ..)
  obtain ⟨hne, hsecond⟩ := h.second_matching
  by_cases hd : d = d'
  · subst hd
    have hlt := hw.before second.1 second.2 hsecond hne
    rw [hw.matching.unique hfirst, htie] at hlt
    cases hlt
  · have hlt := hw.before d f hfirst hd
    have hle := h.first_isLE hc hw.matching
    rw [Std.OrientedCmp.gt_of_lt hlt] at hle
    cases hle

theorem tied_plain (hc : Std.TransCmp (m.strategy.compare r)) {second : D × Match D}
    (h : Contest m r ((d, f) :: second :: rest))
    (htie : m.strategy.compare r f.mapping second.2.mapping = .eq) :
    Plain m r
      (.error (.ambiguousHandlers r.uri f.binding.handler.text second.2.binding.handler.text)) where
  nothing hnone := absurd (h.matching (d, f) (List.mem_cons_self ..)) (hnone d f)
  winner d' f' hw := absurd hw (h.not_wins hc htie d' f')
  tie _ _ := by
    obtain ⟨hne, hsecond⟩ := h.second_matching
    refine ⟨d, f, second.1, second.2, hne.symm, h.matching (d, f) (List.mem_cons_self ..), hsecond,
      fun d' f' h' => ⟨h.first_isLE hc h', ?_⟩, rfl⟩
    exact Std.TransCmp.isLE_trans (Ordering.isLE_of_eq_eq (Std.OrientedCmp.eq_symm htie))
      (h.first_isLE hc h')

end Contest

/-! ### The matches that lookup ranks -/

def match? (m : HandlerMapping D) (r : Request D) (d : D) : Option (Match D) := do
  let narrowed ← m.strategy.narrow d r
  let binding ← m.registry.binding? d
  return ⟨narrowed, binding⟩

theorem match?_eq_some {d : D} {f : Match D} : m.match? r d = some f ↔ Matching m r d f := by
  simp only [match?, Option.bind_eq_bind, Option.bind_eq_some_iff, Option.pure_def,
    Option.some.injEq]
  constructor
  · rintro ⟨narrowed, hn, binding, hb, rfl⟩
    exact ⟨hb, hn⟩
  · rintro ⟨hb, hn⟩
    exact ⟨_, hn, _, hb, rfl⟩

def paired (m : HandlerMapping D) (r : Request D) (ds : List D) : List (D × Match D) :=
  ds.filterMap fun d => (m.match? r d).map (d, ·)

theorem map_snd_paired (ds : List D) : (m.paired r ds).map Prod.snd = m.matchesAmong r ds := by
  rw [paired, List.map_filterMap]
  change _ = ds.filterMap (m.match? r)
  congr 1
  funext d
  cases m.match? r d <;> rfl

theorem mem_paired {ds : List D} {e : D × Match D} :
    e ∈ m.paired r ds ↔ e.1 ∈ ds ∧ Matching m r e.1 e.2 := by
  obtain ⟨d, f⟩ := e
  simp only [paired, List.mem_filterMap, Option.map_eq_some_iff, match?_eq_some, Prod.mk.injEq]
  constructor
  · rintro ⟨d', hd, f', hf, rfl, rfl⟩
    exact ⟨hd, hf⟩
  · rintro ⟨hd, hf⟩
    exact ⟨d, hd, f, hf, rfl, rfl⟩

theorem nodup_paired {ds : List D} (h : ds.Nodup) : ((m.paired r ds).map Prod.fst).Nodup := by
  rw [paired, List.map_filterMap]
  refine h.filterMap fun d d' e hd hd' => ?_
  obtain ⟨_, -, rfl⟩ := by simpa using hd
  obtain ⟨_, -, rfl⟩ := by simpa using hd'
  rfl

def tried (m : HandlerMapping D) (path : String) (r : Request D) : List D :=
  if m.directMatches path r = [] then Assoc.keys m.registry.bindings else m.registry.atPath path

theorem candidates_eq (m : HandlerMapping D) (path : String) (r : Request D) :
    m.candidates path r = m.matchesAmong r (m.tried path r) := by
  unfold candidates tried
  split
  · next h => rw [if_pos h]; rfl
  · next h => rw [if_neg h]; rfl

def standings (m : HandlerMapping D) (path : String) (r : Request D) : List (D × Match D) :=
  (m.paired r (m.tried path r)).mergeSort fun a b =>
    (m.strategy.compare r a.2.mapping b.2.mapping).isLE

theorem select_eq (m : HandlerMapping D) (path : String) (r : Request D) :
    m.select path r = m.choose r ((m.standings path r).map Prod.snd) := by
  rw [select, candidates_eq, rank, ← map_snd_paired, standings]
  refine congrArg (m.choose r) (Eq.symm (List.map_mergeSort ?_))
  intro a _ b _
  rfl

theorem select_of_empty (h : m.registry = .empty) (path : String) (r : Request D) :
    m.select path r = .nothing := by
  have hcandidates : m.candidates path r = [] := by
    unfold candidates directMatches allMatches
    rw [h]
    rfl
  rw [select, hcandidates, rank, List.mergeSort_nil]
  rfl

theorem select_of_only {path : String} {d : D} {f : Match D} (hat : m.registry.atPath path = [d])
    (hf : Matching m r d f) : m.select path r = .best f := by
  have hcandidates : m.candidates path r = [f] := by
    simp [candidates, directMatches, matchesAmong, hat, hf.narrowed, hf.bound]
  rw [select, hcandidates, rank, List.mergeSort_singleton]
  rfl

variable {s : Strategy D} {path : String}

theorem mem_standings {e : D × Match D} :
    e ∈ m.standings path r ↔ e.1 ∈ m.tried path r ∧ Matching m r e.1 e.2 := by
  rw [standings, List.mem_mergeSort, mem_paired]

theorem nodup_standings (h : Registry.Sound s m.registry) :
    ((m.standings path r).map Prod.fst).Nodup := by
  refine ((List.mergeSort_perm _ _).map Prod.fst).nodup_iff.2 (nodup_paired ?_)
  unfold tried
  split
  · exact h.invariant.bindings_nodup
  · exact h.nodup_atPath path

theorem standings_ne_nil (h : m.directMatches path r ≠ []) : m.standings path r ≠ [] := by
  intro hnil
  have hlength := congrArg List.length hnil
  rw [standings, List.length_mergeSort, tried, if_neg h, List.length_nil,
    List.length_eq_zero_iff] at hlength
  apply h
  rw [directMatches, ← map_snd_paired, hlength]
  rfl

/-- The literal index hides nothing: what it leaves out is strictly worse than all it offers. -/
theorem standings_contest (hs : s.LiteralFirst) (h : Served s m)
    (hpath : r.notedPath true = path) : Contest m r (m.standings path r) := by
  obtain ⟨rfl, hsound⟩ := h.sound
  have hc := hs.compare_trans r
  have hcmp := Ranked.comap_trans (fun e : D × Match D => e.2.mapping) (m.strategy.compare r)
  refine ⟨fun e he => (mem_standings.1 he).2, nodup_standings hsound, Ranked.pairwise_isLE _,
    fun d f hf => ?_⟩
  by_cases hdirect : m.directMatches path r = []
  · refine .inl (mem_standings.2 ⟨?_, hf⟩)
    rw [tried, if_pos hdirect, ← Assoc.contains_iff_mem_keys]
    exact Option.isSome_of_eq_some hf.bound
  · by_cases hd : d ∈ m.registry.atPath path
    · exact .inl (mem_standings.2 ⟨by rwa [tried, if_neg hdirect], hf⟩)
    · refine .inr ⟨standings_ne_nil hdirect, fun e he => ?_⟩
      obtain ⟨he, hmatching⟩ := mem_standings.1 he
      rw [tried, if_neg hdirect] at he
      have hout : path ∉ m.strategy.directPaths d :=
        fun hp => hd (hsound.mem_atPath.2 ⟨⟨_, hf.bound⟩, hp⟩)
      exact hs.compare_literal hpath (hsound.mem_atPath.1 he).2 hout hmatching.narrowed hf.narrowed

/-! ### Lookup -/

/-- What a selection comes to for a request that is no preflight. -/
theorem Contest.plain (hs : m.strategy.LiteralFirst) {ms : List (D × Match D)}
    (h : Contest m r ms) (hr : r.isPreflight = false)
    (hselect : m.select path r = m.choose r (ms.map Prod.snd)) :
    Plain m r (m.lookup path r).1 := by
  have hc := hs.compare_trans r
  unfold lookup
  rw [hselect]
  match ms, h with
  | [], h =>
    have hnone : ∀ d f, ¬Matching m r d f := by
      intro d f hf
      rcases h.outside d f hf with hin | ⟨hne, -⟩
      · cases hin
      · exact hne rfl
    exact ⟨fun _ => hs.onNoMatch_none m.registry path r,
      fun d f hw => absurd hw.matching (hnone d f), fun ⟨d, f, hf⟩ => absurd hf (hnone d f)⟩
  | [(d, f)], h => exact (h.first_wins (fun _ he => nomatch he)).plain hc
  | (d, f) :: second :: rest, h =>
    simp only [List.map_cons, choose, hr, Bool.false_eq_true, if_false]
    by_cases htie : m.strategy.compare r f.mapping second.2.mapping = .eq
    · rw [if_pos htie]
      exact h.tied_plain hc htie
    · rw [if_neg htie]
      have hcmp := Ranked.comap_trans (fun e : D × Match D => e.2.mapping) (m.strategy.compare r)
      exact (h.first_wins (Ranked.first_lt h.ranked htie)).plain hc

theorem lookup_plain (hs : s.LiteralFirst) (h : Served s m) (hpath : r.notedPath true = path)
    (hr : r.isPreflight = false) : Plain m r (m.lookup path r).1 := by
  have hstrategy := h.sound.1
  exact (standings_contest hs h hpath).plain (hstrategy ▸ hs) hr (m.select_eq path r)

/-! ### Order of registration -/

/-- The same descriptors are bound to the same handler methods, in whatever order. -/
def SameHandlers (m m' : HandlerMapping D) : Prop :=
  ∀ d, (m.registry.binding? d).map (·.handler) = (m'.registry.binding? d).map (·.handler)

theorem SameHandlers.symm (h : SameHandlers m m') : SameHandlers m' m :=
  fun d => (h d).symm

theorem SameHandlers.matching (h : SameHandlers m m') (hs : m.strategy = m'.strategy) {d : D}
    {f : Match D} (hf : Matching m r d f) :
    ∃ f', Matching m' r d f' ∧ f'.mapping = f.mapping ∧ f'.binding.handler = f.binding.handler := by
  have hd := h d
  rw [hf.bound, Option.map_some, eq_comm, Option.map_eq_some_iff] at hd
  obtain ⟨b, hb, hhandler⟩ := hd
  exact ⟨⟨f.mapping, b⟩, ⟨hb, hs ▸ hf.narrowed⟩, rfl, hhandler⟩

theorem SameHandlers.wins (h : SameHandlers m m') (hs : m.strategy = m'.strategy) {d : D}
    {f : Match D} (hf : Wins m r d f) :
    ∃ f', Wins m' r d f' ∧ f'.binding.handler = f.binding.handler := by
  obtain ⟨f', hf', hmapping, hhandler⟩ := h.matching hs hf.matching
  refine ⟨f', ⟨hf', fun d'' f'' h'' hne => ?_⟩, hhandler⟩
  obtain ⟨g, hg, hgm, -⟩ := h.symm.matching hs.symm h''
  rw [hmapping, ← hgm, ← hs]
  exact hf.before d'' g hg hne

/-- Plain answers agree but for the two handler methods that a tie names. -/
theorem SameHandlers.answer (h : SameHandlers m m') (hs : m.strategy = m'.strategy)
    {answer answer' : Except DispatchError (Option HandlerMethod)} (ha : Plain m r answer)
    (ha' : Plain m' r answer') : answer.toOption = answer'.toOption := by
  by_cases hmatching : ∃ d f, Matching m r d f
  · obtain ⟨d, f, hf⟩ := hmatching
    obtain ⟨f', hf', -⟩ := h.matching hs hf
    by_cases hwins : ∃ d f, Wins m r d f
    · obtain ⟨d, f, hw⟩ := hwins
      obtain ⟨f', hw', hhandler⟩ := h.wins hs hw
      rw [ha.winner d f hw, ha'.winner d f' hw', hhandler]
    · have hnone' : ∀ d f, ¬Wins m' r d f := by
        intro d f hw'
        obtain ⟨f', hw, -⟩ := h.symm.wins hs.symm hw'
        exact hwins ⟨d, f', hw⟩
      obtain ⟨_, _, _, _, -, -, -, -, he⟩ := ha.tie ⟨d, f, hf⟩ fun d f hw => hwins ⟨d, f, hw⟩
      obtain ⟨_, _, _, _, -, -, -, -, he'⟩ := ha'.tie ⟨d, f', hf'⟩ hnone'
      rw [he, he']
      rfl
  · have hnone' : ∀ d f, ¬Matching m' r d f := by
      intro d f hf'
      obtain ⟨f', hf, -⟩ := h.symm.matching hs.symm hf'
      exact hmatching ⟨d, f', hf⟩
    rw [ha.nothing fun d f hf => hmatching ⟨d, f, hf⟩, ha'.nothing hnone']

/-! ### The handler of a request -/

omit [DecidableEq D] in
theorem notedPath_note (r : Request D) (path : String) (decode : Bool) :
    (r.note .lookupPath path).notedPath decode = path := by
  have h : (r.note .lookupPath path).attributes.get? .lookupPath = some path :=
    Attributes.get?_insert_self ..
  rw [Request.notedPath, h]

def resolved (c : Containers) (answer : Except DispatchError (Option HandlerMethod)) :
    Except DispatchError (Option HandlerMethod) :=
  match answer with
  | .error e => .error e
  | .ok none => .ok none
  | .ok (some h) => (h.resolve c).1.map some

theorem findHandler_result (m : HandlerMapping D) (c : Containers) (r : Request D) :
    let path := r.pathForLookup m.options.decode
    (m.findHandler c r).result = resolved c (m.lookup path (r.note .lookupPath path)).1 := by
  dsimp only [findHandler]
  generalize m.lookup _ _ = found
  match found with
  | (.error e, _) => rfl
  | (.ok none, _) => rfl
  | (.ok (some h), _) => rfl

/-- Requests get the plain answer from every mapping in service, and the order in which the
descriptors were registered does not matter. -/
structure AnswersPlainly (s : Strategy D) : Prop where
  plain : ∀ {m : HandlerMapping D}, Served s m → ∀ (c : Containers) (r : Request D),
    r.isPreflight = false →
    let noted := r.note .lookupPath (r.pathForLookup m.options.decode)
    ∃ answer, Plain m noted answer ∧ (m.findHandler c r).result = resolved c answer
  orderless : ∀ {m m' : HandlerMapping D}, Served s m → Served s m' → SameHandlers m m' →
    ∀ (path : String) (r : Request D), r.isPreflight = false →
    let noted := r.note .lookupPath path
    (m.lookup path noted).1.toOption = (m'.lookup path noted).1.toOption

theorem answersPlainly (hs : s.LiteralFirst) : AnswersPlainly s where
  plain := by
    intro m h c r hr noted
    exact ⟨_, lookup_plain hs h (notedPath_note r _ true) hr, m.findHandler_result c r⟩
  orderless := by
    intro m m' h h' hsame path r hr
    have hplain := lookup_plain hs h (notedPath_note r path true) hr
    have hplain' := lookup_plain hs h' (notedPath_note r path true) hr
    exact hsame.answer (h.sound.1.trans h'.sound.1.symm) hplain hplain'

/-- Route tables and URL patterns both answer plainly. -/
theorem lookup_gives_plain_answer :
    (∀ t : RouteTable, AnswersPlainly t.strategy) ∧ AnswersPlainly urlStrategy :=
  ⟨fun t => answersPlainly t.literalFirst, answersPlainly urlStrategy_literalFirst⟩

end HandlerMapping

end RequestDispatch
