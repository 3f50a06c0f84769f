import RequestDispatch.Config.EnvFile.Reader
import RequestDispatch.Config.Format
import RequestDispatch.Config.Store
import RequestDispatch.Log.Event

/-!
# Configuration managers

A manager writes to its store what it loads from the environment, from files and from other
managers; what is written later counts. A manager and its clones share one store. Every action
first collects what it will write, so an action that fails writes nothing.
-/
namespace RequestDispatch

inductive FileContent where
  | missing
  | bytes (content : List UInt8)
  | text (content : String)

def FileContent.text? : FileContent → Option String
  | missing => none
  | bytes content => String.fromUTF8? ⟨content.toArray⟩
  | text content => some content

structure ConfigManager where
  store : Nat
  namePrefix? : Option String
  deriving DecidableEq, Repr, Inhabited

/-- All stores, by their numbers. -/
abbrev ConfigStores := List Store

namespace ConfigStores

def content (stores : ConfigStores) (m : ConfigManager) : Store :=
  (stores[m.store]?).getD []

def create (stores : ConfigStores) (namePrefix? : Option String) : ConfigManager × ConfigStores :=
  (⟨stores.length, namePrefix?⟩, stores ++ [[]])

def write (stores : ConfigStores) (m : ConfigManager) (entries : List (String × Value)) :
    ConfigStores :=
  stores.modify m.store fun s => s.putAll entries

end ConfigStores

inductive ConfigAction where
  | set (key : String) (v : Value)
  | loadEnvironment (env : Environment)
  /-- The variables of a file, if one is given, go to the environment first. -/
  | loadEnvFile (env : Environment) (file? : Option FileContent)
  | loadFile (path : String) (format : FileFormat) (content : FileContent)
  /-- The format is told by the path. -/
  | loadFileByPath (path : String) (content : FileContent)
  | merge (source : ConfigManager)

namespace ConfigAction

def readFile (format : FileFormat) (content : FileContent) : Except ConfigError Value :=
  match content.text? with
  | none => .error .unreadable
  | some text => format.read text

def rootEntries : Value → Except ConfigError (List (String × Value))
  | .object fields => .ok fields
  | v => .error (.rootNotTable v)

def withEnvFile (env : Environment) : Option FileContent → Except ConfigError Environment
  | none => .ok env
  | some content =>
    match content.text?.bind (EnvFile.load? env) with
    | some env => .ok env
    | none => .error .unreadable

/-- What the action writes to the store of its manager. -/
def entries (stores : ConfigStores) (m : ConfigManager) :
    ConfigAction → Except ConfigError (List (String × Value))
  | set key v => .ok [(key, v)]
  | loadEnvironment env => .ok ((EnvironmentReader.mk m.namePrefix?).loadTyped env)
  | loadEnvFile env file? =>
    (withEnvFile env file?).map (EnvironmentReader.mk m.namePrefix?).loadTyped
  | loadFile _ format content => do rootEntries (← readFile format content)
  | loadFileByPath path content => do
    let format ← FileFormat.ofPath path
    rootEntries (← readFile format content)
  | merge source => .ok (if source.store = m.store then [] else stores.content source)

def environmentEvent (m : ConfigManager) (entries : List (String × Value)) : LogEvent :=
  .debug "Loaded environment configuration" [("count", .number entries.length),
    ("prefix", .text (Text.quotedOption m.namePrefix?))]

/-- A file that could be read is reported even if it holds no table. -/
def fileEvents (path : String) (format : FileFormat) (content : FileContent) : List LogEvent :=
  match readFile format content with
  | .ok _ => [.debug "Loaded configuration file" [("path", .text path), ("format", .text format.text)]]
  | .error _ => []

def events (stores : ConfigStores) (m : ConfigManager) (action : ConfigAction) : List LogEvent :=
  match action with
  | set _ _ | merge _ => []
  | loadEnvironment _ | loadEnvFile _ _ =>
    match action.entries stores m with
    | .ok entries => [environmentEvent m entries]
    | .error _ => []
  | loadFile path format content => fileEvents path format content
  | loadFileByPath path content =>
    match FileFormat.ofPath path with
    | .ok format => fileEvents path format content
    | .error _ => []

end ConfigAction

namespace ConfigStores

def perform (stores : ConfigStores) (m : ConfigManager) (action : ConfigAction) :
    Except ConfigError ConfigStores :=
  (action.entries stores m).map (stores.write m)

def debugText (stores : ConfigStores) (m : ConfigManager) : String :=
  Text.rendered "ConfigManager" [("keys", Text.quotedList (stores.content m).keys),
    ("env_prefix", Text.quotedOption m.namePrefix?)]

end ConfigStores

end RequestDispatch
