import RequestDispatch.Config.Manager
import RequestDispatch.View.Dispatch

/-!
# Views of configuration
-/
namespace RequestDispatch

open View

namespace ConfigError

def kind : ConfigError → String
  | keyNotFound _ => "KeyNotFound"
  | unreadable | noExtension _ | unsupportedFormat _ => "LoadError"
  | malformed | rootNotTable _ => "ParseError"
  | invalid _ => "ValidationError"
  | wrongType => "DeserializationError"
  | dispatch _ => "Mapping"
  | unsetVariable => "EnvError"

def toValue (e : ConfigError) : Value :=
  record (("error", .text e.kind) ::
    (match e.message? with
    | some message => [("message", .text message)]
    | none => []))

end ConfigError

def typedView? : String → Option (Decoder Value)
  | "string" => some fun v => (Decoder.text v).map .text
  | "int" => some fun v => (Decoder.int64 v).map .int
  | "bool" => some fun v => (Decoder.bool v).map .bool
  | "u8" => some fun v => (Decoder.word 8 v).map number
  | "u64" => some fun v => (Decoder.word 64 v).map number
  | "f64" => some fun v => (Decoder.float v).map .float
  | "strings" => some fun v => (Decoder.list Decoder.text v).map texts
  | "string_or_null" => some fun v => (Decoder.optional Decoder.text v).map textOrNull
  | "value" => some Decoder.value
  | _ => none

def resultValue {α : Type} (view : α → Value) : Except ConfigError α → Value
  | .ok a => record [("ok", view a)]
  | .error e => e.toValue

def checkedValue : Rule.Checked → Value
  | .ok () => .text "ok"
  | .error e => e.toValue

def MappingOptions.toValue (o : MappingOptions) : Value :=
  record [("detect_in_ancestor_contexts", .bool o.ancestors), ("url_decode", .bool o.decode)]

def CorsSettings.toValue (s : CorsSettings) : Value :=
  record [("allowed_origins", texts s.origins), ("allowed_origin_patterns", texts s.patterns),
    ("allowed_methods", texts s.methods), ("allowed_headers", texts s.headers),
    ("exposed_headers", texts s.exposed), ("allow_credentials", .bool s.credentials),
    ("max_age", optional number s.maxAge?)]

def CorsSettings.report (s : CorsSettings) : Value :=
  record [("settings", s.toValue), ("valid", checkedValue s.validate),
    ("config", resultValue CorsConfig.toValue s.toCors)]

namespace MappingSettings

def toValue (s : MappingSettings) : Value :=
  withParts s.options.toValue [("naming", .text s.naming.text),
    ("cors", table CorsSettings.toValue s.cors), ("log_level", textOrNull s.logLevel?)]

def report (s : MappingSettings) : Value :=
  record [("settings", s.toValue), ("options", s.options.toValue),
    ("naming_strategy", .bool s.naming.naming?.isSome),
    ("log_level", textOrNull (s.logLevel.map LogLevel.word)),
    ("log_config_level", .text s.logSetup.level.word), ("valid", checkedValue s.validate),
    ("cors_mappings", resultValue (items fun (pattern, cors) => .list [.text pattern, CorsConfig.toValue cors])
      s.corsMappings)]

end MappingSettings

def LogSetup.toValue (s : LogSetup) : Value :=
  record [("level", .text s.level.word), ("format", .text s.format.text),
    ("output", .text s.output.text), ("targets", .bool s.targets),
    ("thread_ids", .bool s.threadIds), ("spans", .bool s.spans), ("colors", .bool s.colors),
    ("env_filter", textOrNull s.filter?)]

end RequestDispatch
