import Mathlib.Data.List.Induction
import RequestDispatch.Config.Environment

/-! # Two ways to read a variable

Loading takes a variable for a key whatever number of underscores stands between the prefix and the
key, none included, and of several the last. Asking for the key looks for the one name that has one
underscore there. So the two agree on a key, whatever the values are, exactly if the last variable
that is taken for it has that name. -/
namespace RequestDispatch

/-! ### Capitals -/

def IsCapital (s : String) : Prop :=
  ∀ c ∈ s.toList, c.toNat < 128 ∧ c.toUpper = c

instance (s : String) : Decidable (IsCapital s) :=
  decidable_of_iff (s.toList.all (fun c => c.toNat < 128 ∧ c.toUpper = c) = true)
    (by simp [IsCapital])

namespace Text

theorem lowerFrom_of_ascii {s : List Char} (h : ∀ c ∈ s, c.toNat < 128) (inWord : Bool) :
    lowerFrom inWord s = s.map Char.toLower := by
  induction s generalizing inWord with
  | nil => rfl
  | cons c s ih =>
    obtain ⟨hc, hs⟩ := List.forall_mem_cons.1 h
    have hsigma : c.toNat ≠ 0x3A3 := by omega
    rw [lowerFrom, if_neg hsigma, lowerChar, if_pos hc, ih hs]
    rfl

theorem upperChar_toLower {c : Char} (hascii : c.toNat < 128) (hupper : c.toUpper = c) :
    upperChar c.toLower = [c] := by
  have hsmall : ¬(97 ≤ c.toNat ∧ c.toNat ≤ 122) := by
    have hnat := congrArg Char.toNat hupper
    rw [toNat_toUpper] at hnat
    split at hnat <;> omega
  have hlower : c.toLower.toNat < 128 := by
    rw [toNat_toLower]
    split <;> omega
  have hback : c.toLower.toUpper = c := by
    rw [← Char.toNat_inj, toNat_toUpper, toNat_toLower]
    by_cases hcapital : 65 ≤ c.toNat ∧ c.toNat ≤ 90
    · rw [if_pos hcapital, if_pos (by omega), Nat.add_sub_cancel]
    · rw [if_neg hcapital, if_neg hsmall]
  rw [upperChar, if_pos hlower, hback]

theorem toUpper_toLower {s : String} (h : IsCapital s) : toUpper (toLower s) = s := by
  have hmap : ∀ cs : List Char, (∀ c ∈ cs, c.toNat < 128 ∧ c.toUpper = c) →
      (cs.map Char.toLower).flatMap upperChar = cs := by
    intro cs hcs
    induction cs with
    | nil => rfl
    | cons c cs ih =>
      obtain ⟨hc, hcs⟩ := List.forall_mem_cons.1 hcs
      rw [List.map_cons, List.flatMap_cons, upperChar_toLower hc.1 hc.2, ih hcs]
      rfl
  rw [toUpper, toLower, String.toList_ofList, lowerFrom_of_ascii (fun c hc => (h c hc).1), hmap _ h,
    String.ofList_toList]

end Text

/-! ### Names that are taken for a key -/

def underscores (count : Nat) : String :=
  String.ofList (List.replicate count '_')

structure IsKey (key : String) : Prop where
  ne_empty : key ≠ ""
  no_underscore : key.toList.head? ≠ some '_'

/-- The name is the prefix, any number of underscores, and a spelling of the key. -/
def Spells (front key name : String) : Prop :=
  ∃ count rest, name = front ++ underscores count ++ rest ∧ Text.toLower rest = key

/-- Of the names that spell the key this is the last. -/
def LastSpelling (front key : String) (names : List String) (name : String) : Prop :=
  ∃ before after, names = before ++ name :: after ∧ Spells front key name ∧
    ∀ n ∈ after, ¬Spells front key n

structure CapitalNames (names : List String) : Prop where
  nodup : names.Nodup
  isCapital : ∀ n ∈ names, IsCapital n
  no_equals : ∀ n ∈ names, '=' ∉ n.toList

section Spelling

variable {front key name : String} {names : List String}

theorem exists_cons_of_toLower {rest : String} (hkey : IsKey key)
    (h : Text.toLower rest = key) : ∃ c cs, rest.toList = c :: cs ∧ c ≠ '_' := by
  cases hrest : rest.toList with
  | nil =>
    rw [Text.toLower, hrest] at h
    exact absurd h.symm hkey.ne_empty
  | cons c cs =>
    refine ⟨c, cs, rfl, ?_⟩
    rintro rfl
    refine hkey.no_underscore ?_
    rw [← h, Text.toLower, hrest, String.toList_ofList]
    rfl

theorem key?_eq (front name : String) :
    (EnvironmentReader.mk (some front)).key? name =
      (Text.after? front.toList name.toList).bind fun rest =>
        if rest.dropWhile (· = '_') = [] then none
        else some (Text.toLower (String.ofList (rest.dropWhile (· = '_')))) := by
  cases hafter : Text.after? front.toList name.toList with
  | none =>
    simp only [EnvironmentReader.key?, hafter]
    rfl
  | some rest =>
    simp only [EnvironmentReader.key?, hafter]
    rfl

theorem key?_eq_some_iff (hkey : IsKey key) :
    (EnvironmentReader.mk (some front)).key? name = some key ↔ Spells front key name := by
  rw [key?_eq, Option.bind_eq_some_iff]
  constructor
  · rintro ⟨rest, hrest, h⟩
    split at h
    · cases h
    · refine ⟨(rest.takeWhile (· = '_')).length, _, ?_, Option.some.inj h⟩
      have hunderscores : rest.takeWhile (· = '_') =
          List.replicate (rest.takeWhile (· = '_')).length '_' := by
        refine List.eq_replicate_of_mem fun c hc => ?_
        simpa using List.all_eq_true.1 List.all_takeWhile c hc
      rw [← String.toList_inj, Text.after?_eq_some_iff.1 hrest, underscores, ← hunderscores,
        String.toList_append, String.toList_append, String.toList_ofList, String.toList_ofList,
        List.append_assoc, List.takeWhile_append_dropWhile]
  · rintro ⟨count, rest, rfl, hlower⟩
    obtain ⟨c, cs, hrest, hc⟩ := exists_cons_of_toLower hkey hlower
    refine ⟨List.replicate count '_' ++ rest.toList, ?_, ?_⟩
    · rw [Text.after?_eq_some_iff]
      simp [underscores]
    · have hdrop : (List.replicate count '_' ++ rest.toList).dropWhile (· = '_') =
          rest.toList := by
        rw [List.dropWhile_append_of_pos (by simp), hrest]
        exact List.dropWhile_cons_of_neg (by simpa using hc)
      have hne : rest.toList ≠ [] := by
        rw [hrest]
        exact List.cons_ne_nil c cs
      rw [hdrop, if_neg hne, String.ofList_toList, hlower]

theorem spells_iff (hname : IsCapital name) :
    Spells front key name ↔
      (∃ count, name = front ++ underscores count ++ Text.toUpper key) ∧
        Text.toLower (Text.toUpper key) = key := by
  constructor
  · rintro ⟨count, rest, rfl, rfl⟩
    have hrest : IsCapital rest := fun c hc => hname c (by simp [hc])
    rw [Text.toUpper_toLower hrest]
    exact ⟨⟨count, rfl⟩, rfl⟩
  · rintro ⟨⟨count, rfl⟩, hlower⟩
    exact ⟨count, Text.toUpper key, rfl, hlower⟩

theorem LastSpelling.mem (h : LastSpelling front key names name) : name ∈ names := by
  obtain ⟨before, after, rfl, -, -⟩ := h
  simp

theorem LastSpelling.spells (h : LastSpelling front key names name) : Spells front key name := by
  obtain ⟨-, -, -, hspells, -⟩ := h
  exact hspells

theorem lastSpelling_concat_iff {last : String} :
    LastSpelling front key (names ++ [last]) name ↔
      Spells front key last ∧ name = last ∨
        ¬Spells front key last ∧ LastSpelling front key names name := by
  constructor
  · rintro ⟨before, after, hnames, hspells, hafter⟩
    rcases List.eq_nil_or_concat after with rfl | ⟨after, n, rfl⟩
    · obtain ⟨rfl, hlast⟩ := List.append_inj' hnames rfl
      obtain rfl : last = name := by simpa using hlast
      exact .inl ⟨hspells, rfl⟩
    · rw [List.concat_eq_append, ← List.cons_append, ← List.append_assoc] at hnames
      obtain ⟨rfl, hlast⟩ := List.append_inj' hnames rfl
      obtain rfl : last = n := by simpa using hlast
      refine .inr ⟨hafter last (by simp), before, after, rfl, hspells, ?_⟩
      exact fun n hn => hafter n (by simp [hn])
  · rintro (⟨hspells, rfl⟩ | ⟨hlast, before, after, rfl, hspells, hafter⟩)
    · exact ⟨names, [], rfl, hspells, by simp⟩
    · refine ⟨before, after ++ [last], by simp, hspells, fun n hn => ?_⟩
      rcases List.mem_append.1 hn with hn | hn
      · exact hafter n hn
      · rw [List.mem_singleton.1 hn]
        exact hlast

end Spelling

/-! ### Loading -/

section Reading

variable {front key : String} {names : List String} {env : Environment}

theorem find?_load_concat (r : EnvironmentReader) (env : Environment) (name value key : String) :
    Assoc.find? (r.load (env ++ [(name, value)])) key =
      if r.key? name = some key then some value else Assoc.find? (r.load env) key := by
  rw [EnvironmentReader.load, EnvironmentReader.load, EnvironmentReader.entries,
    EnvironmentReader.entries, List.filterMap_append, Assoc.ofList, Assoc.ofList,
    Assoc.putAll_append]
  cases hname : r.key? name with
  | none =>
    rw [List.filterMap_cons_none (by simp [hname])]
    rfl
  | some k =>
    rw [List.filterMap_cons_some (by simp [hname]; rfl), List.filterMap_nil]
    change Assoc.find? (Assoc.put _ k value) key = _
    rw [Assoc.find?_put]
    simp only [Option.some.injEq, eq_comm]

/-- Under a key stands the value of the last variable that spells it. The induction takes the
variables from the last one on. -/
theorem find?_load_iff (hkey : IsKey key) (hnodup : (Assoc.keys env).Nodup) {v : String} :
    Assoc.find? ((EnvironmentReader.mk (some front)).load env) key = some v ↔
      ∃ n, LastSpelling front key (Assoc.keys env) n ∧ (n, v) ∈ env := by
  induction env using List.reverseRecOn with
  | nil =>
    refine iff_of_false (by simp [EnvironmentReader.load, EnvironmentReader.entries,
      Assoc.ofList, Assoc.putAll]) ?_
    rintro ⟨n, -, hmem⟩
    cases hmem
  | append_singleton env last ih =>
    obtain ⟨name, value⟩ := last
    have hkeys : Assoc.keys (env ++ [(name, value)]) = Assoc.keys env ++ [name] :=
      List.map_append
    rw [hkeys] at hnodup ⊢
    obtain ⟨hbefore, -, hdisjoint⟩ := List.nodup_append.1 hnodup
    have hnew : ∀ n ∈ Assoc.keys env, n ≠ name := fun n hn => hdisjoint n hn name (by simp)
    have hold : ∀ {n w}, (n, w) ∈ env → n ∈ Assoc.keys env := fun hmem =>
      List.mem_map.2 ⟨_, hmem, rfl⟩
    rw [find?_load_concat]
    simp only [lastSpelling_concat_iff, List.mem_append, List.mem_singleton, Prod.mk.injEq]
    by_cases hspells : Spells front key name
    · rw [if_pos ((key?_eq_some_iff hkey).2 hspells), Option.some.injEq]
      constructor
      · rintro rfl
        exact ⟨name, .inl ⟨hspells, rfl⟩, .inr ⟨rfl, rfl⟩⟩
      · rintro ⟨n, ⟨-, rfl⟩ | ⟨hnot, -⟩, hmem | ⟨-, rfl⟩⟩
        · exact absurd rfl (hnew n (hold hmem))
        · rfl
        · exact absurd hspells hnot
        · rfl
    · rw [if_neg (mt (key?_eq_some_iff hkey).1 hspells), ih hbefore]
      constructor
      · rintro ⟨n, hlast, hmem⟩
        exact ⟨n, .inr ⟨hspells, hlast⟩, .inl hmem⟩
      · rintro ⟨n, ⟨hname, -⟩ | ⟨-, hlast⟩, hmem | ⟨rfl, -⟩⟩
        · exact absurd hname hspells
        · exact absurd hname hspells
        · exact ⟨n, hlast, hmem⟩
        · exact absurd rfl (hnew n hlast.mem)

/-! ### Asking -/

/-- An entry is found by a name exactly if it has that name, where neither holds an equals sign
that could be taken for the one between name and value. -/
theorem after?_entry {name n : String} (hequals : '=' ∉ n.toList)
    (hinside : ¬(n ++ "=").toList <+: name.toList) (v : String) :
    (Text.after? (name ++ "=").toList (n ++ "=" ++ v).toList).map String.ofList =
      if n = name then some v else none := by
  have hsign : "=".toList = ['='] := rfl
  simp only [String.toList_append, hsign, List.append_assoc, List.singleton_append] at hinside ⊢
  split
  · next hname =>
    subst hname
    have hafter : Text.after? (n.toList ++ ['=']) (n.toList ++ '=' :: v.toList) =
        some v.toList := by
      rw [Text.after?_eq_some_iff]
      simp
    rw [hafter, Option.map_some, String.ofList_toList]
  · next hname =>
    rw [Option.map_eq_none_iff, Option.eq_none_iff_forall_not_mem]
    intro rest hrest
    have hentry := Text.after?_eq_some_iff.1 hrest
    rw [List.append_assoc, List.singleton_append, List.append_eq_append_iff] at hentry
    rcases hentry with ⟨more, hlonger, htail⟩ | ⟨more, hlonger, htail⟩
    · cases more with
      | nil => exact hname (String.toList_inj.1 (by simpa using hlonger.symm))
      | cons c more =>
        obtain ⟨rfl, -⟩ := List.cons.inj htail
        exact hinside ⟨more, by simp [hlonger]⟩
    · cases more with
      | nil => exact hname (String.toList_inj.1 (by simpa using hlonger))
      | cons c more =>
        obtain ⟨rfl, -⟩ := List.cons.inj htail
        exact hequals (by simp [hlonger])

theorem value?_eq_find? {name : String} (hname : name ≠ "")
    (h : ∀ n ∈ Assoc.keys env, '=' ∉ n.toList ∧ ¬(n ++ "=").toList <+: name.toList) :
    env.value? name = Assoc.find? env name := by
  rw [Environment.value?, if_neg hname]
  induction env with
  | nil => rfl
  | cons entry env ih =>
    obtain ⟨n, v⟩ := entry
    obtain ⟨hequals, hinside⟩ := h n List.mem_cons_self
    have hentry := after?_entry hequals hinside v
    simp only [List.findSome?_cons, hentry, Assoc.find?]
    by_cases hn : n = name
    · rw [if_pos hn, if_pos hn]
    · rw [if_neg hn, if_neg hn]
      exact ih fun m hm => h m (List.mem_cons_of_mem n hm)

theorem value_eq_ok_iff {r : EnvironmentReader} {v : String} :
    r.value env key = .ok v ↔ env.value? (r.variableName key) = some v := by
  rw [EnvironmentReader.value]
  cases env.value? (r.variableName key) <;> simp

/-! ### Agreement -/

/-- What is loaded under the key is what asking for it gives. -/
def ReadingsAgree (r : EnvironmentReader) (env : Environment) (key : String) : Prop :=
  ∀ v, Assoc.find? (r.load env) key = some v ↔ r.value env key = .ok v

theorem variableName_ne_empty (front key : String) :
    (EnvironmentReader.mk (some front)).variableName key ≠ "" := by
  intro h
  have hlist := congrArg String.toList h
  simp [EnvironmentReader.variableName] at hlist

/-- No name of the environment is found inside the name asked for, up to an equals sign. -/
def NoneInside (names : List String) (name : String) : Prop :=
  ∀ n ∈ names, ¬(n ++ "=").toList <+: name.toList

theorem value_iff_mem (hnames : CapitalNames (Assoc.keys env)) {v : String}
    (hinside : NoneInside (Assoc.keys env)
      ((EnvironmentReader.mk (some front)).variableName key)) :
    (EnvironmentReader.mk (some front)).value env key = .ok v ↔
      ((EnvironmentReader.mk (some front)).variableName key, v) ∈ env := by
  rw [value_eq_ok_iff, value?_eq_find? (variableName_ne_empty front key)
    fun n hn => ⟨hnames.no_equals n hn, hinside n hn⟩, Assoc.mem_iff_find? hnames.nodup]

theorem agree_of_lastSpelling (hnames : CapitalNames (Assoc.keys env)) (hkey : IsKey key)
    (hinside : NoneInside (Assoc.keys env)
      ((EnvironmentReader.mk (some front)).variableName key))
    (hlast : ∀ n, LastSpelling front key (Assoc.keys env) n ↔
      n = (EnvironmentReader.mk (some front)).variableName key ∧ n ∈ Assoc.keys env) :
    ReadingsAgree ⟨some front⟩ env key := by
  intro v
  rw [find?_load_iff hkey hnames.nodup, value_iff_mem hnames hinside]
  constructor
  · rintro ⟨n, hn, hmem⟩
    obtain ⟨rfl, -⟩ := (hlast n).1 hn
    exact hmem
  · intro hmem
    exact ⟨_, (hlast _).2 ⟨rfl, List.mem_map.2 ⟨_, hmem, rfl⟩⟩, hmem⟩

/-- A name inside the one asked for would be found with a value that goes on as that does, while
no variable in capitals spells a key that holds an equals sign. -/
theorem noneInside_of_agree (hnames : CapitalNames names) (hkey : IsKey key)
    (hagree : ∀ env, Assoc.keys env = names → ReadingsAgree ⟨some front⟩ env key) :
    NoneInside names ((EnvironmentReader.mk (some front)).variableName key) := by
  rintro n hn ⟨more, hmore⟩
  have hkeys := Assoc.keys_table (fun _ => String.ofList (more ++ ['='])) names
  have hnodup := hnames.nodup
  rw [← hkeys] at hnodup
  have hname : ((EnvironmentReader.mk (some front)).variableName key).toList =
      n.toList ++ '=' :: more := by
    rw [← hmore]
    simp
  have hfound : (Environment.value?
        (Assoc.table (fun _ => String.ofList (more ++ ['='])) names)
      ((EnvironmentReader.mk (some front)).variableName key)).isSome = true := by
    rw [Environment.value?, if_neg (variableName_ne_empty front key), List.findSome?_isSome_iff]
    refine ⟨_, Assoc.mem_table.2 ⟨hn, rfl⟩, ?_⟩
    have hentry : Text.after?
        ((EnvironmentReader.mk (some front)).variableName key ++ "=").toList
        (n ++ "=" ++ String.ofList (more ++ ['='])).toList = some [] := by
      rw [Text.after?_eq_some_iff]
      simp only [String.toList_append, hname]
      simp
    simp only [hentry]
    rfl
  obtain ⟨v, hv⟩ := Option.isSome_iff_exists.1 hfound
  have hload := (hagree _ hkeys v).2 (value_eq_ok_iff.2 hv)
  obtain ⟨m, hlast, -⟩ := (find?_load_iff hkey hnodup).1 hload
  rw [hkeys] at hlast
  obtain ⟨⟨count, hm⟩, -⟩ := (spells_iff (hnames.isCapital m hlast.mem)).1 hlast.spells
  have hequals : '=' ∈ ((EnvironmentReader.mk (some front)).variableName key).toList := by
    rw [hname]
    simp
  refine hnames.no_equals m hlast.mem ?_
  rw [hm]
  simp only [EnvironmentReader.variableName, String.toList_append, List.mem_append] at hequals ⊢
  rcases hequals with (hfront | hsign) | hupper
  · exact .inl (.inl hfront)
  · exact absurd hsign (by decide)
  · exact .inr hupper

theorem lastSpelling_of_agree (hnames : CapitalNames names) (hkey : IsKey key)
    (hinside : NoneInside names ((EnvironmentReader.mk (some front)).variableName key))
    (hagree : ∀ env, Assoc.keys env = names → ReadingsAgree ⟨some front⟩ env key) (n : String) :
    LastSpelling front key names n ↔
      n = (EnvironmentReader.mk (some front)).variableName key ∧ n ∈ names := by
  have hkeys := Assoc.keys_table id names
  have hread := hagree _ hkeys n
  rw [← hkeys] at hnames hinside
  rw [find?_load_iff hkey hnames.nodup, value_iff_mem hnames hinside, hkeys] at hread
  simp only [Assoc.mem_table, id] at hread
  constructor
  · intro hlast
    obtain ⟨hmem, hn⟩ := hread.1 ⟨n, hlast, hlast.mem, rfl⟩
    exact ⟨hn.symm, hn ▸ hmem⟩
  · rintro ⟨hn, hmem⟩
    obtain ⟨m, hlast, -, rfl⟩ := hread.2 ⟨hn ▸ hmem, hn.symm⟩
    exact hlast

end Reading

/-- What the two ways to read a key have in common. In an environment of names in capitals, a name
spells a key as the prefix, any number of underscores and the key in capitals; loading finds the
value of the last one that does, and asking agrees with that, whatever the values are, exactly if
the last one is the name with a single underscore, if that is set, and no name ends before an
equals sign inside it. So the two agree on every key of which that name is the only spelling. -/
theorem readings_agree_iff {front key : String} {names : List String}
    (hnames : CapitalNames names) (hkey : IsKey key) :
    (∀ n ∈ names, Spells front key n ↔
      (∃ count, n = front ++ underscores count ++ Text.toUpper key) ∧
        Text.toLower (Text.toUpper key) = key) ∧
    (∀ env, Assoc.keys env = names → ∀ v,
      Assoc.find? ((EnvironmentReader.mk (some front)).load env) key = some v ↔
        ∃ n, LastSpelling front key names n ∧ (n, v) ∈ env) ∧
    ((∀ env, Assoc.keys env = names → ReadingsAgree ⟨some front⟩ env key) ↔
      NoneInside names (front ++ "_" ++ Text.toUpper key) ∧
        ∀ n, LastSpelling front key names n ↔ n = front ++ "_" ++ Text.toUpper key ∧ n ∈ names) ∧
    ('=' ∉ (front ++ "_" ++ Text.toUpper key).toList →
      (∀ n ∈ names, Spells front key n ↔ n = front ++ "_" ++ Text.toUpper key) →
        ∀ env, Assoc.keys env = names → ReadingsAgree ⟨some front⟩ env key) := by
  have hagree : ∀ env, Assoc.keys env = names →
      NoneInside names (front ++ "_" ++ Text.toUpper key) →
      (∀ n, LastSpelling front key names n ↔
        n = front ++ "_" ++ Text.toUpper key ∧ n ∈ names) →
      ReadingsAgree ⟨some front⟩ env key := by
    rintro env rfl hinside hlast
    exact agree_of_lastSpelling hnames hkey hinside hlast
  refine ⟨fun n hn => spells_iff (hnames.isCapital n hn), ?_, ⟨?_, ?_⟩, ?_⟩
  · rintro env rfl v
    exact find?_load_iff hkey hnames.nodup
  · intro h
    have hinside := noneInside_of_agree hnames hkey h
    exact ⟨hinside, lastSpelling_of_agree hnames hkey hinside h⟩
  · rintro ⟨hinside, hlast⟩ env hkeys
    exact hagree env hkeys hinside hlast
  · intro hequals honly env hkeys
    refine hagree env hkeys (fun n _ hfront => hequals (hfront.subset (by simp))) fun n => ?_
    constructor
    · intro hlast
      exact ⟨(honly n hlast.mem).1 hlast.spells, hlast.mem⟩
    · rintro ⟨rfl, hmem⟩
      obtain ⟨before, after, hsplit⟩ := List.append_of_mem hmem
      refine ⟨before, after, hsplit, (honly _ hmem).2 rfl, fun n hn hspells => ?_⟩
      have hn' : n ∈ names := by
        rw [hsplit]
        simp [hn]
      -- the name does not come twice
      have hnodup := hnames.nodup
      rw [hsplit, List.nodup_append, List.nodup_cons] at hnodup
      exact hnodup.2.1.1 ((honly n hn').1 hspells ▸ hn)

theorem url_decode_read_alike :
    CapitalNames ["TRELLIS_URL_DECODE", "HOME"] ∧ IsKey "url_decode" ∧
      ReadingsAgree ⟨some "TRELLIS"⟩ [("TRELLIS_URL_DECODE", "false"), ("HOME", "/root")]
        "url_decode" := by
  have hnames : CapitalNames ["TRELLIS_URL_DECODE", "HOME"] :=
    ⟨by decide +kernel, by decide +kernel, by decide +kernel⟩
  have hkey : IsKey "url_decode" := ⟨by decide, by decide⟩
  have honly : ∀ n ∈ ["TRELLIS_URL_DECODE", "HOME"],
      (EnvironmentReader.mk (some "TRELLIS")).key? n = some "url_decode" ↔
        n = "TRELLIS" ++ "_" ++ Text.toUpper "url_decode" := by
    decide +kernel
  obtain ⟨-, -, -, hagree⟩ := @readings_agree_iff "TRELLIS" _ _ hnames hkey
  exact ⟨hnames, hkey, hagree (by decide +kernel)
    (fun n hn => (key?_eq_some_iff hkey).symm.trans (honly n hn)) _ rfl⟩

/-- A variable of another program whose name goes on after the prefix is loaded, and is not found
when asked for. -/
theorem longer_name_loaded :
    CapitalNames ["TRELLISX_PORT"] ∧ IsKey "x_port" ∧
      Assoc.find? ((EnvironmentReader.mk (some "TRELLIS")).load [("TRELLISX_PORT", "8080")])
        "x_port" = some "8080" ∧
      (EnvironmentReader.mk (some "TRELLIS")).value [("TRELLISX_PORT", "8080")] "x_port" =
        .error .unsetVariable ∧
      ¬ReadingsAgree ⟨some "TRELLIS"⟩ [("TRELLISX_PORT", "8080")] "x_port" := by
  have hload : Assoc.find?
      ((EnvironmentReader.mk (some "TRELLIS")).load [("TRELLISX_PORT", "8080")]) "x_port" =
        some "8080" := by
    decide +kernel
  have hvalue : (EnvironmentReader.mk (some "TRELLIS")).value [("TRELLISX_PORT", "8080")]
      "x_port" = .error .unsetVariable := by
    rfl
  refine ⟨⟨by decide +kernel, by decide +kernel, by decide +kernel⟩, ⟨by decide, by decide⟩, hload,
    hvalue, fun hagree => ?_⟩
  have hasked := (hagree "8080").1 hload
  rw [hvalue] at hasked
  cases hasked

end RequestDispatch
