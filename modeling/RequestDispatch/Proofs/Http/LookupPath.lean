import RequestDispatch.Http.Request

/-! # The canonical form of a target

Two targets have one lookup path exactly if they have the same segments and end alike: the query,
the parameters of a segment and repeated slashes do not count. The canonical paths are the ones
that are left as they are. -/
namespace RequestDispatch

/-- A path that starts at the root, with neither query nor parameters, and with single slashes. -/
structure IsCanonical (path : List Char) : Prop where
  rooted : path.head? = some '/'
  no_query : '?' ∉ path
  no_parameters : ';' ∉ path
  no_doubled : ¬['/', '/'] <:+: path

/-- What stands in each segment before its parameters, where that is anything. -/
def namedSegments (uri : List Char) : List (List Char) :=
  ((Text.split '/' uri).map (Text.upTo ';')).filter (· ≠ [])

def endsInSlash (uri : List Char) : Bool :=
  uri.getLast? = some '/'

/-! ### Pieces behind slashes -/

def slashed (pieces : List (List Char)) : List Char :=
  pieces.flatMap ('/' :: ·)

theorem slashed_append (front back : List (List Char)) :
    slashed (front ++ back) = slashed front ++ slashed back :=
  List.flatMap_append

theorem intercalate_eq_slashed (first : List Char) (pieces : List (List Char)) :
    ['/'].intercalate (first :: pieces) = first ++ slashed pieces := by
  induction pieces generalizing first with
  | nil => rw [List.intercalate_singleton, slashed, List.flatMap_nil, List.append_nil]
  | cons piece pieces ih =>
    rw [List.intercalate_cons_cons, ih, slashed, slashed, List.flatMap_cons]
    simp only [List.append_assoc, List.cons_append, List.nil_append]

theorem split_slashed {pieces : List (List Char)} (h : ∀ piece ∈ pieces, '/' ∉ piece) :
    Text.split '/' (slashed pieces) = [] :: pieces := by
  have hslash : ∀ piece ∈ [] :: pieces, '/' ∉ piece :=
    List.forall_mem_cons.2 ⟨List.not_mem_nil, h⟩
  have hsplit := Text.split_intercalate (List.cons_ne_nil [] pieces) hslash
  rwa [intercalate_eq_slashed] at hsplit

theorem doubled_iff {s : List Char} :
    ['/', '/'] <:+: s ↔
      ∃ front back, Text.split '/' s = front ++ [] :: back ∧ front ≠ [] ∧ back ≠ [] := by
  constructor
  · rintro ⟨a, b, rfl⟩
    have hs : a ++ ['/', '/'] ++ b = a ++ '/' :: '/' :: b := by simp
    refine ⟨Text.split '/' a, Text.split '/' b, ?_, Text.split_ne_nil '/' a,
      Text.split_ne_nil '/' b⟩
    rw [hs, Text.split_append_cons, Text.split, if_pos rfl]
  · rintro ⟨front, back, hsplit, hfront, hback⟩
    obtain ⟨first, front, rfl⟩ := List.exists_cons_of_ne_nil hfront
    obtain ⟨next, back, rfl⟩ := List.exists_cons_of_ne_nil hback
    refine ⟨first ++ slashed front, next ++ slashed back, ?_⟩
    rw [← Text.intercalate_split '/' s, hsplit, List.cons_append, intercalate_eq_slashed,
      slashed_append]
    simp [slashed]

theorem endsInSlash_slashed {last : List Char} (h : '/' ∉ last) (front : List (List Char)) :
    endsInSlash (slashed (front ++ [last])) = decide (last = []) := by
  have hend : slashed (front ++ [last]) = slashed front ++ '/' :: last := by
    rw [slashed_append]
    simp [slashed]
  rw [endsInSlash, hend, decide_eq_decide]
  rcases List.eq_nil_or_concat last with rfl | ⟨start, c, rfl⟩
  · simp
  · have hc : c ≠ '/' := by
      rintro rfl
      exact h (by simp)
    have hlast : slashed front ++ '/' :: start.concat c =
        (slashed front ++ '/' :: start) ++ [c] := by
      simp
    rw [hlast, List.getLast?_concat]
    simp [hc]

/-! ### The form of lookup paths -/

/-- The pieces of a lookup path: its segments, and an empty one behind a slash at its end. -/
def pathPieces (segments : List (List Char)) (closed : Bool) : List (List Char) :=
  if segments = [] ∨ closed = true then segments ++ [[]] else segments

structure IsNamed (segment : List Char) : Prop where
  ne_nil : segment ≠ []
  no_slash : '/' ∉ segment
  no_parameters : ';' ∉ segment

theorem canonicalPath_eq (target : List Char) :
    canonicalPath target =
      slashed (pathPieces (namedSegments (Text.upTo '?' target))
        (endsInSlash (Text.upTo '?' target))) := by
  change (if slashed (namedSegments (Text.upTo '?' target)) = [] then ['/']
    else if (Text.upTo '?' target).getLast? = some '/' then
      slashed (namedSegments (Text.upTo '?' target)) ++ ['/']
    else slashed (namedSegments (Text.upTo '?' target))) = _
  rw [pathPieces, endsInSlash]
  cases namedSegments (Text.upTo '?' target) with
  | nil => rfl
  | cons segment segments =>
    rw [if_neg (by simp [slashed])]
    by_cases hend : (Text.upTo '?' target).getLast? = some '/'
    · rw [if_pos hend, if_pos (.inr (decide_eq_true hend)), slashed_append]
      rfl
    · rw [if_neg hend, if_neg (by simp [hend])]

theorem mem_of_mem_namedSegments {uri segment : List Char} {c : Char}
    (h : segment ∈ namedSegments uri) (hc : c ∈ segment) : c ∈ uri := by
  obtain ⟨piece, hpiece, rfl⟩ := List.mem_map.1 (List.mem_filter.1 h).1
  exact (Text.isInfix_of_mem_split hpiece).subset ((List.takeWhile_sublist _).subset hc)

theorem isNamed_of_mem {uri segment : List Char} (h : segment ∈ namedSegments uri) :
    IsNamed segment := by
  obtain ⟨hmap, hne⟩ := List.mem_filter.1 h
  obtain ⟨piece, hpiece, rfl⟩ := List.mem_map.1 hmap
  have hslash := Text.not_mem_of_mem_split hpiece
  exact ⟨of_decide_eq_true hne, fun hc => hslash ((List.takeWhile_sublist _).subset hc),
    Text.notMem_upTo ';' piece⟩

section Pieces

variable {segments : List (List Char)} {closed : Bool}

theorem mem_pathPieces {piece : List Char} (h : piece ∈ pathPieces segments closed) :
    piece ∈ segments ∨ piece = [] := by
  rw [pathPieces] at h
  split at h
  · simpa using h
  · exact .inl h

theorem exists_pathPieces_eq (segments : List (List Char)) (closed : Bool) :
    ∃ first rest, pathPieces segments closed = first :: rest := by
  refine List.exists_cons_of_ne_nil ?_
  rw [pathPieces]
  split
  · simp
  · next h => exact fun hnil => h (.inl hnil)

theorem split_pathPieces (h : ∀ s ∈ segments, IsNamed s) (closed : Bool) :
    Text.split '/' (slashed (pathPieces segments closed)) = [] :: pathPieces segments closed := by
  refine split_slashed fun piece hpiece => ?_
  rcases mem_pathPieces hpiece with hmem | rfl
  · exact (h piece hmem).no_slash
  · exact List.not_mem_nil

/-- The segments of a lookup path are read off it again. -/
theorem namedSegments_pathPieces (h : ∀ s ∈ segments, IsNamed s) (closed : Bool) :
    namedSegments (slashed (pathPieces segments closed)) = segments := by
  have hupTo : ∀ piece ∈ pathPieces segments closed, Text.upTo ';' piece = piece := by
    intro piece hpiece
    refine Text.upTo_of_notMem ?_
    rcases mem_pathPieces hpiece with hmem | rfl
    · exact (h piece hmem).no_parameters
    · exact List.not_mem_nil
  have hsegments : segments.filter (· ≠ []) = segments :=
    List.filter_eq_self.2 fun s hs => by simpa using (h s hs).ne_nil
  have hpieces : (pathPieces segments closed).filter (· ≠ []) = segments := by
    rw [pathPieces]
    split
    · rw [List.filter_append, hsegments]
      simp
    · exact hsegments
  rw [namedSegments, split_pathPieces h, List.map_cons, List.map_congr_left hupTo, List.map_id',
    List.filter_cons_of_neg (by simp [Text.upTo]), hpieces]

theorem endsInSlash_pathPieces (h : ∀ s ∈ segments, IsNamed s) (hne : segments ≠ [])
    (closed : Bool) : endsInSlash (slashed (pathPieces segments closed)) = closed := by
  rw [pathPieces]
  cases closed with
  | true =>
    rw [if_pos (.inr rfl), endsInSlash_slashed List.not_mem_nil]
    rfl
  | false =>
    have hlast := h _ (List.getLast_mem hne)
    rw [if_neg (by simp [hne]), ← List.dropLast_concat_getLast hne,
      endsInSlash_slashed hlast.no_slash]
    exact decide_eq_false hlast.ne_nil

theorem isCanonical_pathPieces (h : ∀ s ∈ segments, IsNamed s)
    (hquery : ∀ s ∈ segments, '?' ∉ s) (closed : Bool) :
    IsCanonical (slashed (pathPieces segments closed)) := by
  have hmem : ∀ {c : Char}, c ≠ '/' → (∀ s ∈ segments, c ∉ s) →
      c ∉ slashed (pathPieces segments closed) := by
    intro c hc hsegments hmem
    obtain ⟨piece, hpiece, hin⟩ := List.mem_flatMap.1 hmem
    rcases List.mem_cons.1 hin with hslash | hin
    · exact hc hslash
    · rcases mem_pathPieces hpiece with hs | rfl
      · exact hsegments piece hs hin
      · cases hin
  refine ⟨?_, hmem (by decide) hquery, hmem (by decide) fun s hs => (h s hs).no_parameters, ?_⟩
  · obtain ⟨first, rest, hpieces⟩ := exists_pathPieces_eq segments closed
    rw [hpieces]
    rfl
  · rw [doubled_iff, split_pathPieces h]
    rintro ⟨front, back, hsplit, hfront, hback⟩
    obtain ⟨first, front, rfl⟩ := List.exists_cons_of_ne_nil hfront
    have hpieces : pathPieces segments closed = front ++ [] :: back := (List.cons.inj hsplit).2
    have hempty : [] ∈ (pathPieces segments closed).dropLast := by
      rw [hpieces, List.dropLast_append_of_ne_nil (List.cons_ne_nil _ _),
        List.dropLast_cons_of_ne_nil hback]
      simp
    have hsegment : [] ∈ segments := by
      rw [pathPieces] at hempty
      split at hempty
      · rwa [List.dropLast_concat] at hempty
      · exact List.dropLast_subset _ hempty
    exact (h [] hsegment).ne_nil rfl

end Pieces

/-! ### Canonical paths -/

theorem isCanonical_canonicalPath (target : List Char) : IsCanonical (canonicalPath target) := by
  rw [canonicalPath_eq]
  refine isCanonical_pathPieces (fun s hs => isNamed_of_mem hs) (fun s hs hquery => ?_) _
  exact Text.notMem_upTo '?' target (mem_of_mem_namedSegments hs hquery)

theorem canonicalPath_of_isCanonical {path : List Char} (h : IsCanonical path) :
    canonicalPath path = path := by
  obtain ⟨rest, rfl⟩ := List.head?_eq_some_iff.1 h.rooted
  have hsplit : Text.split '/' ('/' :: rest) = [] :: Text.split '/' rest := by
    rw [Text.split, if_pos rfl]
  have hpath : '/' :: rest = slashed (Text.split '/' rest) := by
    rw [← Text.intercalate_split '/' ('/' :: rest), hsplit, intercalate_eq_slashed,
      List.nil_append]
  obtain ⟨front, last, hpieces⟩ : ∃ front last, Text.split '/' rest = front ++ [last] :=
    ⟨_, _, (List.dropLast_concat_getLast (Text.split_ne_nil '/' rest)).symm⟩
  have hlast : '/' ∉ last := Text.not_mem_of_mem_split (s := rest) (by rw [hpieces]; simp)
  -- only the last piece can be empty, or two slashes stood together before it
  have hfront : ∀ piece ∈ front, piece ≠ [] := by
    rintro piece hpiece rfl
    obtain ⟨before, after, rfl⟩ := List.append_of_mem hpiece
    refine h.no_doubled (doubled_iff.2 ⟨[] :: before, after ++ [last], ?_, by simp, by simp⟩)
    rw [hsplit, hpieces]
    simp
  have hnamed : namedSegments ('/' :: rest) = front ++ [last].filter (· ≠ []) := by
    have hupTo : ∀ piece ∈ Text.split '/' ('/' :: rest), Text.upTo ';' piece = piece := by
      intro piece hpiece
      refine Text.upTo_of_notMem fun hc => h.no_parameters ?_
      exact (Text.isInfix_of_mem_split hpiece).subset hc
    rw [namedSegments, List.map_congr_left hupTo, List.map_id', hsplit,
      List.filter_cons_of_neg (by simp), hpieces, List.filter_append,
      List.filter_eq_self.2 fun piece hp => by simpa using hfront piece hp]
  rw [canonicalPath_eq, Text.upTo_of_notMem h.no_query, hnamed, hpath, hpieces,
    endsInSlash_slashed hlast, pathPieces]
  by_cases hempty : last = []
  · simp [hempty]
  · simp [hempty]

/-- The targets without their queries have the same segments and, unless there are none, end
alike. -/
theorem canonicalPath_eq_iff {target other : List Char} :
    canonicalPath target = canonicalPath other ↔
      namedSegments (Text.upTo '?' target) = namedSegments (Text.upTo '?' other) ∧
        (namedSegments (Text.upTo '?' target) = [] ∨
          endsInSlash (Text.upTo '?' target) = endsInSlash (Text.upTo '?' other)) := by
  have hnamed : ∀ uri, ∀ s ∈ namedSegments uri, IsNamed s := fun uri s hs => isNamed_of_mem hs
  rw [canonicalPath_eq, canonicalPath_eq]
  constructor
  · intro h
    have hsegments := congrArg namedSegments h
    rw [namedSegments_pathPieces (hnamed _), namedSegments_pathPieces (hnamed _)] at hsegments
    refine ⟨hsegments, ?_⟩
    by_cases hne : namedSegments (Text.upTo '?' target) = []
    · exact .inl hne
    · have hends := congrArg endsInSlash h
      rw [endsInSlash_pathPieces (hnamed _) hne,
        endsInSlash_pathPieces (hnamed _) (hsegments ▸ hne)] at hends
      exact .inr hends
  · rintro ⟨hsegments, hnone | hends⟩
    · rw [← hsegments, hnone]
      rfl
    · rw [hsegments, hends]

/-! ### Requests -/

namespace Request

variable {D E : Type}

def namedSegments (r : Request D) : List (List Char) :=
  RequestDispatch.namedSegments r.uri.toList

def endsInSlash (r : Request D) : Bool :=
  RequestDispatch.endsInSlash r.uri.toList

theorem toList_pathForLookup (r : Request D) :
    (r.pathForLookup false).toList = canonicalPath r.target.toList :=
  String.toList_ofList

theorem toList_uri (r : Request D) : r.uri.toList = Text.upTo '?' r.target.toList :=
  String.toList_ofList

/-- The lookup path that is not decoded is a canonical form of the target: it is canonical, it is
the same for two requests exactly if their targets name the same segments and end alike, and a
target is left as it is exactly if it is canonical. So it is left as it is the second time. -/
theorem pathForLookup_canonical (r : Request D) :
    IsCanonical (r.pathForLookup false).toList ∧
    (∀ other : Request E, r.pathForLookup false = other.pathForLookup false ↔
      r.namedSegments = other.namedSegments ∧
        (r.namedSegments = [] ∨ r.endsInSlash = other.endsInSlash)) ∧
    (∀ other : Request E,
      other.pathForLookup false = other.target ↔ IsCanonical other.target.toList) ∧
    ∀ other : Request E, { other with target := r.pathForLookup false }.pathForLookup false =
      r.pathForLookup false := by
  have hfixed : ∀ other : Request E,
      other.pathForLookup false = other.target ↔ IsCanonical other.target.toList := by
    intro other
    rw [← String.toList_inj, toList_pathForLookup]
    constructor
    · intro h
      rw [← h]
      exact isCanonical_canonicalPath _
    · exact canonicalPath_of_isCanonical
  have hcanonical : IsCanonical (r.pathForLookup false).toList := by
    rw [toList_pathForLookup]
    exact isCanonical_canonicalPath _
  refine ⟨hcanonical, fun other => ?_, hfixed, fun other => (hfixed _).2 hcanonical⟩
  rw [← String.toList_inj, toList_pathForLookup, toList_pathForLookup, canonicalPath_eq_iff,
    namedSegments, namedSegments, endsInSlash, endsInSlash, toList_uri, toList_uri]

/-- Parameters and repeated slashes do not count. -/
example : canonicalPath "//api;v=1///items/;x/?q=/".toList = "/api/items/".toList := by decide

end Request

end RequestDispatch
