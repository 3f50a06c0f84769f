import Mathlib.Data.List.Induction
import RequestDispatch.Config.Manager
import RequestDispatch.Proofs.Attempts

/-! # What stands in a store

Managers may be used in any order, and several of them may share a store. An action that fails has
not written anything by then, and one that succeeds writes what it was given, or what it read. So
under each key of a store stands what the last successful action wrote there. -/
namespace RequestDispatch

namespace ConfigAction

/-! ### Actions in single steps -/

/-- Something done to the stores that may fail. What was written by then stays written. -/
abbrev Work := Attempt ConfigError ConfigStores

def writing (m : ConfigManager) (entries : List (String × Value)) : Work Unit :=
  entries.forM fun e => modify fun stores => stores.write m [e]

def writingTable (m : ConfigManager) : Value → Work Unit
  | .object fields => writing m fields
  | v => throw (.rootNotTable v)

def loadingFile (m : ConfigManager) (format : FileFormat) (content : FileContent) : Work Unit := do
  let v ← liftM (readFile format content)
  writingTable m v

def performing (m : ConfigManager) : ConfigAction → Work Unit
  | set key v => writing m [(key, v)]
  | loadEnvironment env => writing m ((EnvironmentReader.mk m.namePrefix?).loadTyped env)
  | loadEnvFile env file? => do
    let env ← liftM (withEnvFile env file?)
    writing m ((EnvironmentReader.mk m.namePrefix?).loadTyped env)
  | loadFile _ format content => loadingFile m format content
  | loadFileByPath path content => do
    let format ← liftM (FileFormat.ofPath path)
    loadingFile m format content
  | merge source => do
    unless source.store = m.store do
      let stores ← get
      writing m (stores.content source)

end ConfigAction

namespace ConfigStores

variable {stores : ConfigStores} {m : ConfigManager}

theorem write_nil (stores : ConfigStores) (m : ConfigManager) : stores.write m [] = stores := by
  rw [write]
  exact List.modify_id ..

theorem write_cons (stores : ConfigStores) (m : ConfigManager) (e : String × Value)
    (entries : List (String × Value)) :
    stores.write m (e :: entries) = (stores.write m [e]).write m entries := by
  rw [write, write, write, List.modify_modify_eq]
  rfl

theorem foldl_write (stores : ConfigStores) (m : ConfigManager) (entries : List (String × Value)) :
    entries.foldl (fun stores e => stores.write m [e]) stores = stores.write m entries := by
  induction entries generalizing stores with
  | nil => exact (stores.write_nil m).symm
  | cons e entries ih => rw [List.foldl_cons, ih, ← write_cons]

theorem writing_run (stores : ConfigStores) (m : ConfigManager) (entries : List (String × Value)) :
    (ConfigAction.writing m entries).run.run stores = (.ok (), stores.write m entries) := by
  rw [ConfigAction.writing, Attempt.forM_modify_list entries fun e stores => write stores m [e],
    foldl_write]

end ConfigStores

namespace ConfigAction

variable {stores : ConfigStores} {m : ConfigManager} {path : String} {format : FileFormat}
  {content : FileContent} {e : ConfigError}

def outcome (stores : ConfigStores) (m : ConfigManager) :
    Except ConfigError (List (String × Value)) → Except ConfigError Unit × ConfigStores
  | .ok entries => (.ok (), stores.write m entries)
  | .error e => (.error e, stores)

theorem loadingFile_run (stores : ConfigStores) (m : ConfigManager) (format : FileFormat)
    (content : FileContent) :
    (loadingFile m format content).run.run stores =
      outcome stores m (readFile format content >>= rootEntries) := by
  unfold loadingFile
  cases hread : readFile format content with
  | error e => exact Attempt.run_bind_error (Attempt.run_liftM _ stores)
  | ok v =>
    rw [Attempt.run_bind_ok (Attempt.run_liftM _ stores)]
    cases v with
    | object fields => exact stores.writing_run m fields
    | _ => rfl

/-- Done in single steps an action comes to what it does at once: nothing is written before it is
sure to succeed. -/
theorem performing_run (stores : ConfigStores) (m : ConfigManager) (action : ConfigAction) :
    (action.performing m).run.run stores = outcome stores m (action.entries stores m) := by
  cases action with
  | set key v => exact stores.writing_run m _
  | loadEnvironment env => exact stores.writing_run m _
  | loadEnvFile env file? =>
    rw [performing, entries]
    cases hfile : withEnvFile env file? with
    | error e => exact Attempt.run_bind_error (Attempt.run_liftM _ stores)
    | ok env =>
      rw [Attempt.run_bind_ok (Attempt.run_liftM _ stores)]
      exact stores.writing_run m _
  | loadFile path format content => exact loadingFile_run stores m format content
  | loadFileByPath path content =>
    rw [performing, entries]
    cases hpath : FileFormat.ofPath path with
    | error e => exact Attempt.run_bind_error (Attempt.run_liftM _ stores)
    | ok format =>
      rw [Attempt.run_bind_ok (Attempt.run_liftM _ stores)]
      exact loadingFile_run stores m format content
  | merge source =>
    rw [performing, entries]
    by_cases hsame : source.store = m.store
    · rw [if_pos hsame, if_pos hsame, outcome, stores.write_nil m]
      rfl
    · rw [if_neg hsame, if_neg hsame]
      exact stores.writing_run m _

/-! ### How actions end -/

/-- Why an action fails: a file is missing or is no text, does not follow the grammar of its format
or holds no table, a path tells no format, or an environment file cannot be read. -/
inductive Fails : ConfigAction → ConfigError → Prop where
  | envFile {env : Environment} {file? : Option FileContent} {e : ConfigError} :
      withEnvFile env file? = .error e → Fails (loadEnvFile env file?) e
  | unreadable {path : String} {format : FileFormat} {content : FileContent} :
      content.text? = none → Fails (loadFile path format content) .unreadable
  | malformed {path text : String} {format : FileFormat} {content : FileContent}
      {e : ConfigError} : content.text? = some text → format.read text = .error e →
        Fails (loadFile path format content) e
  | notTable {path text : String} {format : FileFormat} {content : FileContent} {v : Value} :
      content.text? = some text → format.read text = .ok v → (∀ fields, v ≠ .object fields) →
        Fails (loadFile path format content) (.rootNotTable v)
  | path {path : String} {content : FileContent} {e : ConfigError} :
      FileFormat.ofPath path = .error e → Fails (loadFileByPath path content) e
  | fileByPath {path : String} {format : FileFormat} {content : FileContent} {e : ConfigError} :
      FileFormat.ofPath path = .ok format → Fails (loadFile path format content) e →
        Fails (loadFileByPath path content) e

/-- The action succeeds, and leaves the value under the key. Where a table has the key more than
once its last field counts. -/
inductive Writes (stores : ConfigStores) (m : ConfigManager) :
    ConfigAction → String → Value → Prop where
  | set (key : String) (v : Value) : Writes stores m (set key v) key v
  | environment {env : Environment} {key raw : String} :
      Assoc.find? ((EnvironmentReader.mk m.namePrefix?).load env) key = some raw →
        Writes stores m (loadEnvironment env) key (typedValue raw)
  | envFile {env more : Environment} {file? : Option FileContent} {key : String} {v : Value} :
      withEnvFile env file? = .ok more → Writes stores m (loadEnvironment more) key v →
        Writes stores m (loadEnvFile env file?) key v
  | file {path text : String} {format : FileFormat} {content : FileContent}
      {fields : List (String × Value)} {key : String} {v : Value} :
      content.text? = some text → format.read text = .ok (.object fields) →
        Value.field? fields.reverse key = some v →
          Writes stores m (loadFile path format content) key v
  | fileByPath {path : String} {format : FileFormat} {content : FileContent} {key : String}
      {v : Value} :
      FileFormat.ofPath path = .ok format → Writes stores m (loadFile path format content) key v →
        Writes stores m (loadFileByPath path content) key v
  | merge {source : ConfigManager} {key : String} {v : Value} : source.store ≠ m.store →
      (stores.content source).find? key = some v → Writes stores m (merge source) key v

theorem rootEntries_of_not_table {v : Value} (hnot : ∀ fields, v ≠ .object fields) :
    rootEntries v = .error (.rootNotTable v) := by
  cases v with
  | object fields => exact absurd rfl (hnot fields)
  | _ => rfl

theorem readFile_cases (format : FileFormat) (content : FileContent) :
    (∃ text fields, content.text? = some text ∧ format.read text = .ok (.object fields) ∧
      (readFile format content >>= rootEntries) = .ok fields) ∨
    ∃ e, (∀ path, Fails (loadFile path format content) e) ∧
      (readFile format content >>= rootEntries) = .error e := by
  cases htext : content.text? with
  | none => exact .inr ⟨_, fun _ => .unreadable htext, by rw [readFile, htext]; rfl⟩
  | some text =>
    have hfile : readFile format content = format.read text := by rw [readFile, htext]
    rw [hfile]
    cases hread : format.read text with
    | error e => exact .inr ⟨e, fun _ => .malformed htext hread, rfl⟩
    | ok v =>
      by_cases htable : ∃ fields, v = .object fields
      · obtain ⟨fields, rfl⟩ := htable
        exact .inl ⟨text, fields, rfl, hread, rfl⟩
      · have hnot : ∀ fields, v ≠ .object fields := fun fields h => htable ⟨fields, h⟩
        exact .inr ⟨_, fun _ => .notTable htext hread hnot, rootEntries_of_not_table hnot⟩

theorem entries_of_fails {action : ConfigAction} (h : Fails action e) :
    action.entries stores m = .error e := by
  induction h with
  | envFile hfile =>
    rw [entries, hfile]
    rfl
  | unreadable htext =>
    rw [entries, readFile, htext]
    rfl
  | malformed htext hread =>
    rw [entries, readFile, htext]
    dsimp only
    rw [hread]
    rfl
  | notTable htext hread hnot =>
    rw [entries, readFile, htext]
    dsimp only
    rw [hread]
    exact rootEntries_of_not_table hnot
  | path hpath =>
    rw [entries, hpath]
    rfl
  | fileByPath hpath _ ih =>
    rw [entries, hpath]
    exact ih

theorem fails_of_entries {action : ConfigAction} (h : action.entries stores m = .error e) :
    Fails action e := by
  have hfile : ∀ path format content, (readFile format content >>= rootEntries) = .error e →
      Fails (loadFile path format content) e := by
    intro path format content h
    rcases readFile_cases format content with ⟨_, fields, -, -, hok⟩ | ⟨e', hfails, herror⟩
    · rw [hok] at h
      cases h
    · rw [herror] at h
      cases h
      exact hfails path
  cases action with
  | set key v => cases h
  | loadEnvironment env => cases h
  | loadEnvFile env file? =>
    rw [entries] at h
    cases hread : withEnvFile env file? with
    | error e' =>
      rw [hread] at h
      cases h
      exact .envFile hread
    | ok env =>
      rw [hread] at h
      cases h
  | loadFile path format content => exact hfile path format content h
  | loadFileByPath path content =>
    rw [entries] at h
    cases hpath : FileFormat.ofPath path with
    | error e' =>
      rw [hpath] at h
      cases h
      exact .path hpath
    | ok format =>
      rw [hpath] at h
      exact .fileByPath hpath (hfile path format content h)
  | merge source => cases h

theorem entries_eq_error_iff {action : ConfigAction} :
    action.entries stores m = .error e ↔ Fails action e :=
  ⟨fails_of_entries, entries_of_fails⟩

/-! ### What actions write -/

theorem field?_eq_find? {α : Type} (fields : List (String × α)) (key : String) :
    Value.field? fields key = Assoc.find? fields key := by
  induction fields with
  | nil => rfl
  | cons e rest ih => rw [Value.field?_cons, ih, Assoc.find?]

theorem field?_loadTyped_reverse (r : EnvironmentReader) (env : Environment) (key : String) :
    Value.field? (r.loadTyped env).reverse key =
      (Assoc.find? (r.load env) key).map typedValue := by
  have hkeys : (Assoc.keys (r.load env)).Nodup :=
    Assoc.nodup_keys_putAll (m := []) List.nodup_nil (r.entries env)
  rw [EnvironmentReader.loadTyped, ← List.map_reverse, Value.field?_map typedValue,
    Value.field?_reverse hkeys, field?_eq_find?]

theorem entries_file_iff {entries : List (String × Value)} :
    (readFile format content >>= rootEntries) = .ok entries ↔
      ∃ text, content.text? = some text ∧ format.read text = .ok (.object entries) := by
  constructor
  · intro h
    rcases readFile_cases format content with ⟨text, fields, htext, hread, hok⟩ | ⟨e, -, herror⟩
    · rw [hok] at h
      cases h
      exact ⟨text, htext, hread⟩
    · rw [herror] at h
      cases h
  · rintro ⟨text, htext, hread⟩
    rw [readFile, htext]
    dsimp only
    rw [hread]
    rfl

theorem ordered_content (hstores : ∀ s ∈ stores, Value.Ordered s) (m : ConfigManager) :
    Value.Ordered (stores.content m) := by
  rw [ConfigStores.content]
  cases hget : stores[m.store]? with
  | none => exact List.Pairwise.nil
  | some s => exact hstores s (List.mem_of_getElem? hget)

theorem exists_entries_of_writes (hstores : ∀ s ∈ stores, Value.Ordered s) {action : ConfigAction}
    {key : String} {v : Value} (h : Writes stores m action key v) :
    ∃ entries, action.entries stores m = .ok entries ∧
      Value.field? entries.reverse key = some v := by
  induction h with
  | set key v => exact ⟨_, rfl, by simp [Value.field?]⟩
  | environment hfind => exact ⟨_, rfl, by rw [field?_loadTyped_reverse, hfind]; rfl⟩
  | envFile hfile _ ih =>
    rw [entries, hfile]
    exact ih
  | file htext hread hfield => exact ⟨_, entries_file_iff.2 ⟨_, htext, hread⟩, hfield⟩
  | fileByPath hpath _ ih =>
    rw [entries, hpath]
    exact ih
  | @merge source key v hne hfind =>
    refine ⟨stores.content source, congrArg Except.ok (if_neg hne), ?_⟩
    rw [Value.field?_reverse (ordered_content hstores source).nodup_keys]
    exact hfind

theorem writes_of_entries (hstores : ∀ s ∈ stores, Value.Ordered s) {action : ConfigAction}
    {entries : List (String × Value)} (h : action.entries stores m = .ok entries) {key : String}
    {v : Value} (hfield : Value.field? entries.reverse key = some v) :
    Writes stores m action key v := by
  have hfile : ∀ path format content, (readFile format content >>= rootEntries) = .ok entries →
      Writes stores m (loadFile path format content) key v := by
    intro path format content hread
    obtain ⟨text, htext, hread⟩ := entries_file_iff.1 hread
    exact .file htext hread hfield
  have henvironment : ∀ env, (EnvironmentReader.mk m.namePrefix?).loadTyped env = entries →
      Writes stores m (loadEnvironment env) key v := by
    rintro env rfl
    rw [field?_loadTyped_reverse] at hfield
    obtain ⟨raw, hraw, rfl⟩ := Option.map_eq_some_iff.1 hfield
    exact .environment hraw
  cases action with
  | set k w =>
    cases h
    rw [List.reverse_singleton, Value.field?_cons] at hfield
    split at hfield
    · next hkey =>
      cases hfield
      exact hkey ▸ .set k v
    · cases hfield
  | loadEnvironment env => exact henvironment env (Except.ok.inj h)
  | loadEnvFile env file? =>
    rw [ConfigAction.entries] at h
    cases hread : withEnvFile env file? with
    | error e =>
      rw [hread] at h
      cases h
    | ok more =>
      rw [hread] at h
      exact .envFile hread (henvironment more (Except.ok.inj h))
  | loadFile path format content => exact hfile path format content h
  | loadFileByPath path content =>
    rw [ConfigAction.entries] at h
    cases hpath : FileFormat.ofPath path with
    | error e =>
      rw [hpath] at h
      cases h
    | ok format =>
      rw [hpath] at h
      exact .fileByPath hpath (hfile path format content h)
  | merge source =>
    obtain rfl := Except.ok.inj h
    split at hfield
    · cases hfield
    · next hne =>
      rw [Value.field?_reverse (ordered_content hstores source).nodup_keys] at hfield
      exact .merge hne hfield

end ConfigAction

namespace ConfigStores

/-! ### One call after another -/

/-- A new manager is made, or one does something. Clones are one manager. -/
inductive Call where
  | create (namePrefix? : Option String)
  | act (m : ConfigManager) (action : ConfigAction)

def after (stores : ConfigStores) : Call → ConfigStores
  | .create namePrefix? => (stores.create namePrefix?).2
  | .act m action => ((action.performing m).run.run stores).2

def run (calls : List Call) : ConfigStores :=
  calls.foldl after []

def value? (stores : ConfigStores) (number : Nat) (key : String) : Option Value :=
  stores[number]?.bind (·.find? key)

inductive Wrote (stores : ConfigStores) (number : Nat) (key : String) (v : Value) :
    Call → Prop where
  | act {m : ConfigManager} {action : ConfigAction} : m.store = number → number < stores.length →
      action.Writes stores m key v → Wrote stores number key v (.act m action)

/-- Of the calls that wrote to the key of the store, the last one wrote this value. -/
def LastWrite (calls : List Call) (number : Nat) (key : String) (v : Value) : Prop :=
  ∃ before call rest, calls = before ++ call :: rest ∧ Wrote (run before) number key v call ∧
    ∀ early next late, rest = early ++ next :: late →
      ∀ w, ¬Wrote (run (before ++ call :: early)) number key w next

section Histories

variable {stores : ConfigStores} {calls : List Call} {call : Call} {number : Nat} {key : String}
  {v : Value}

theorem run_concat (calls : List Call) (call : Call) :
    run (calls ++ [call]) = (run calls).after call := by
  rw [run, List.foldl_append]
  rfl

theorem value?_write (stores : ConfigStores) (m : ConfigManager) (entries : List (String × Value))
    (number : Nat) (key : String) :
    (stores.write m entries).value? number key =
      if m.store = number ∧ number < stores.length then
        (Value.field? entries.reverse key).or (stores.value? number key)
      else stores.value? number key := by
  rw [value?, value?, write, List.getElem?_modify]
  split
  · next hstore =>
    subst hstore
    cases hget : stores[m.store]? with
    | none =>
      have hlt : ¬m.store < stores.length := Nat.not_lt.2 (List.getElem?_eq_none_iff.1 hget)
      rw [if_neg fun h => hlt h.2]
      rfl
    | some s =>
      have hlt : m.store < stores.length := (List.getElem?_eq_some_iff.1 hget).1
      rw [if_pos ⟨rfl, hlt⟩]
      exact Store.find?_putAll s entries key
  · next hstore => simp [hstore]

theorem value?_create (stores : ConfigStores) (namePrefix? : Option String) (number : Nat)
    (key : String) :
    (stores.create namePrefix?).2.value? number key = stores.value? number key := by
  rw [create, value?, value?]
  rcases Nat.lt_trichotomy number stores.length with hlt | rfl | hgt
  · rw [List.getElem?_append_left hlt]
  · rw [List.getElem?_concat_length, List.getElem?_eq_none (Nat.le_refl _)]
    rfl
  · rw [List.getElem?_eq_none (by simp; omega), List.getElem?_eq_none (by omega)]

/-! What calls keep: every store is in the order of its keys. -/

theorem ordered_putAll {s : Store} (hs : Value.Ordered s) (entries : List (String × Value)) :
    Value.Ordered (s.putAll entries) := by
  induction entries generalizing s with
  | nil => exact hs
  | cons e entries ih => exact ih (hs.putField e.1 e.2)

theorem ordered_write (hstores : ∀ s ∈ stores, Value.Ordered s) (m : ConfigManager)
    (entries : List (String × Value)) : ∀ s ∈ stores.write m entries, Value.Ordered s := by
  intro s hs
  obtain ⟨i, hi⟩ := List.mem_iff_getElem?.1 hs
  rw [write, List.getElem?_modify] at hi
  obtain ⟨old, hold, rfl⟩ := Option.map_eq_some_iff.1 hi
  have hordered := hstores old (List.mem_of_getElem? hold)
  split
  · exact ordered_putAll hordered entries
  · exact hordered

theorem after_act (stores : ConfigStores) (m : ConfigManager) (action : ConfigAction) :
    stores.after (.act m action) = (ConfigAction.outcome stores m (action.entries stores m)).2 := by
  rw [after, ConfigAction.performing_run]

theorem ordered_after (hstores : ∀ s ∈ stores, Value.Ordered s) (call : Call) :
    ∀ s ∈ stores.after call, Value.Ordered s := by
  cases call with
  | create namePrefix? =>
    intro s hs
    rcases List.mem_append.1 hs with hs | hs
    · exact hstores s hs
    · rw [List.mem_singleton.1 hs]
      exact List.Pairwise.nil
  | act m action =>
    rw [after_act]
    cases action.entries stores m with
    | error e => exact hstores
    | ok entries => exact ordered_write hstores m entries

theorem ordered_run (calls : List Call) : ∀ s ∈ run calls, Value.Ordered s := by
  induction calls using List.reverseRecOn with
  | nil => exact nofun
  | append_singleton calls call ih =>
    rw [run_concat]
    exact ordered_after ih call

/-! What a call writes is found afterwards, and nothing else has changed. -/

theorem value?_after_of_wrote (hstores : ∀ s ∈ stores, Value.Ordered s)
    (h : Wrote stores number key v call) : (stores.after call).value? number key = some v := by
  cases h with
  | act hstore hlt hwrites =>
    obtain ⟨entries, hentries, hfield⟩ := ConfigAction.exists_entries_of_writes hstores hwrites
    rw [after_act, hentries, ConfigAction.outcome, value?_write, if_pos ⟨hstore, hlt⟩, hfield]
    rfl

theorem value?_after_of_not_wrote (hstores : ∀ s ∈ stores, Value.Ordered s)
    (h : ∀ w, ¬Wrote stores number key w call) :
    (stores.after call).value? number key = stores.value? number key := by
  cases call with
  | create namePrefix? => exact stores.value?_create namePrefix? number key
  | act m action =>
    rw [after_act]
    cases hentries : action.entries stores m with
    | error e => rfl
    | ok entries =>
      rw [ConfigAction.outcome, value?_write]
      split
      · next hstore =>
        cases hfield : Value.field? entries.reverse key with
        | none => rfl
        | some w =>
          exact absurd (.act hstore.1 hstore.2
            (ConfigAction.writes_of_entries hstores hentries hfield)) (h w)
      · rfl

theorem lastWrite_concat_iff :
    LastWrite (calls ++ [call]) number key v ↔
      Wrote (run calls) number key v call ∨
        (∀ w, ¬Wrote (run calls) number key w call) ∧ LastWrite calls number key v := by
  constructor
  · rintro ⟨before, written, rest, hcalls, hwrote, hrest⟩
    rcases List.eq_nil_or_concat rest with rfl | ⟨early, last, rfl⟩
    · obtain ⟨rfl, hlast⟩ := List.append_inj' hcalls rfl
      obtain rfl : call = written := by simpa using hlast
      exact .inl hwrote
    · rw [List.concat_eq_append, ← List.cons_append, ← List.append_assoc] at hcalls
      obtain ⟨rfl, hlast⟩ := List.append_inj' hcalls rfl
      obtain rfl : call = last := by simpa using hlast
      rw [List.concat_eq_append] at hrest
      refine .inr ⟨hrest early call [] rfl, before, written, early, rfl, hwrote, ?_⟩
      rintro first next late rfl
      exact hrest first next (late ++ [call]) (by simp)
  · rintro (hwrote | ⟨hnot, before, written, rest, rfl, hwrote, hrest⟩)
    · exact ⟨calls, call, [], rfl, hwrote, by simp⟩
    · refine ⟨before, written, rest ++ [call], by simp, hwrote, fun early next late hsplit => ?_⟩
      rcases List.eq_nil_or_concat late with rfl | ⟨late, last, rfl⟩
      · obtain ⟨rfl, hlast⟩ := List.append_inj' hsplit rfl
        obtain rfl : call = next := by simpa using hlast
        exact hnot
      · rw [List.concat_eq_append, ← List.cons_append, ← List.append_assoc] at hsplit
        obtain ⟨rfl, -⟩ := List.append_inj' hsplit rfl
        exact hrest early next late rfl

/-- The induction takes the calls from the last one on. -/
theorem value?_run_iff : (run calls).value? number key = some v ↔ LastWrite calls number key v := by
  induction calls using List.reverseRecOn with
  | nil =>
    refine iff_of_false (by simp [run, value?]) ?_
    rintro ⟨before, call, rest, hcalls, -⟩
    simp at hcalls
  | append_singleton calls call ih =>
    rw [run_concat, lastWrite_concat_iff]
    have hordered := ordered_run calls
    by_cases hwrote : ∃ w, Wrote (run calls) number key w call
    · obtain ⟨w, hw⟩ := hwrote
      have hafter := value?_after_of_wrote hordered hw
      constructor
      · intro h
        obtain rfl : w = v := Option.some.inj (hafter.symm.trans h)
        exact .inl hw
      · rintro (hv | ⟨hnot, -⟩)
        · exact value?_after_of_wrote hordered hv
        · exact absurd hw (hnot w)
    · have hnot : ∀ w, ¬Wrote (run calls) number key w call := fun w hw => hwrote ⟨w, hw⟩
      rw [value?_after_of_not_wrote hordered hnot, ih]
      constructor
      · exact fun hlast => .inr ⟨hnot, hlast⟩
      · rintro (hv | ⟨-, hlast⟩)
        · exact absurd hv (hnot v)
        · exact hlast

theorem length_le_after (stores : ConfigStores) (call : Call) :
    stores.length ≤ (stores.after call).length := by
  cases call with
  | create namePrefix? =>
    rw [after, create, List.length_append]
    exact Nat.le_add_right ..
  | act m action =>
    rw [after_act]
    cases action.entries stores m with
    | error e => exact Nat.le_refl _
    | ok entries => exact Nat.le_of_eq (List.length_modify ..).symm

theorem created_lt (before rest : List Call) (namePrefix? : Option String) :
    ((run before).create namePrefix?).1.store <
      (run (before ++ .create namePrefix? :: rest)).length := by
  induction rest using List.reverseRecOn with
  | nil =>
    rw [run_concat, after, create, List.length_append]
    exact Nat.lt_succ_self _
  | append_singleton rest call ih =>
    rw [← List.cons_append, ← List.append_assoc, run_concat]
    exact Nat.lt_of_lt_of_le ih (length_le_after _ call)

end Histories

theorem perform_eq_error_iff {stores : ConfigStores} {m : ConfigManager} {action : ConfigAction}
    {e : ConfigError} : stores.perform m action = .error e ↔ action.Fails e := by
  have hentries : action.entries stores m = .error e ↔ action.Fails e :=
    ConfigAction.entries_eq_error_iff
  rw [← hentries, perform]
  cases action.entries stores m <;> simp [Except.map]

/-- How actions of managers change the stores. An action fails for the reasons in `Fails` alone, and
has then left all stores as they were; one that succeeds has done in its single steps what it does
at once. Merging a manager into a clone of it changes nothing. After any sequence of calls, from the
first manager on, under each key of a store stands what the last successful action that wrote to
that key wrote there, and nothing where there was none; a manager that was made keeps its store. -/
theorem last_write_stands :
    (∀ (stores : ConfigStores) (m : ConfigManager) (action : ConfigAction),
      (∀ e, stores.perform m action = .error e ↔ action.Fails e) ∧
      (∀ e, action.Fails e → (action.performing m).run.run stores = (.error e, stores)) ∧
      ∀ written, stores.perform m action = .ok written →
        (action.performing m).run.run stores = (.ok (), written)) ∧
    (∀ (stores : ConfigStores) (m clone : ConfigManager), clone.store = m.store →
      ((ConfigAction.merge clone).performing m).run.run stores = (.ok (), stores)) ∧
    (∀ (calls : List Call) (number : Nat) (key : String) (v : Value),
      (run calls).value? number key = some v ↔ LastWrite calls number key v) ∧
    ∀ (before rest : List Call) (namePrefix? : Option String),
      ((run before).create namePrefix?).1.store <
        (run (before ++ .create namePrefix? :: rest)).length := by
  refine ⟨fun stores m action => ⟨fun e => perform_eq_error_iff, fun e hfails => ?_,
    fun written hok => ?_⟩, fun stores m clone hsame => ?_, fun _ _ _ _ => value?_run_iff,
    created_lt⟩
  · rw [ConfigAction.performing_run, ConfigAction.entries_of_fails hfails]
    rfl
  · rw [ConfigAction.performing_run]
    rw [perform] at hok
    cases hentries : action.entries stores m with
    | error e =>
      rw [hentries] at hok
      cases hok
    | ok entries =>
      rw [hentries] at hok
      cases hok
      rfl
  · rw [ConfigAction.performing, if_pos hsame]
    rfl

end ConfigStores

end RequestDispatch
