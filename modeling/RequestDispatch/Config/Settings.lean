import RequestDispatch.Config.Decode
import RequestDispatch.Config.Rule
import RequestDispatch.Cors.Config
import RequestDispatch.Http.Method
import RequestDispatch.Log.Setup
import RequestDispatch.Mapping.HandlerMapping
import RequestDispatch.Route.Table

/-!
# Settings of a handler mapping

Settings are decoded from configuration, validated, and applied to a mapping before it starts.
-/
namespace RequestDispatch

/-! ### CORS settings -/

/-- CORS metadata as it is written in configuration. Without `maxAge?` the age of `CorsConfig`
stands. -/
structure CorsSettings where
  origins : List String := []
  patterns : List String := []
  methods : List String := ["GET", "HEAD", "POST"]
  headers : List String := []
  exposed : List String := []
  credentials : Bool := false
  maxAge? : Option Nat := none
  deriving DecidableEq, Repr, Inhabited

namespace CorsSettings

def fieldNames : List String :=
  ["allowed_origins", "allowed_origin_patterns", "allowed_methods", "allowed_headers",
    "exposed_headers", "allow_credentials", "max_age"]

def decode? (v : Value) : Option CorsSettings := do
  let given ← Decoder.fields fieldNames v
  let base : CorsSettings := {}
  let texts := Decoder.list Decoder.text
  return {
    origins := ← Decoder.fieldOr given "allowed_origins" texts base.origins
    patterns := ← Decoder.fieldOr given "allowed_origin_patterns" texts base.patterns
    methods := ← Decoder.fieldOr given "allowed_methods" texts base.methods
    headers := ← Decoder.fieldOr given "allowed_headers" texts base.headers
    exposed := ← Decoder.fieldOr given "exposed_headers" texts base.exposed
    credentials := ← Decoder.fieldOr given "allow_credentials" Decoder.bool base.credentials
    maxAge? := ← Decoder.fieldOr given "max_age" (Decoder.optional (Decoder.word 64)) base.maxAge? }

def isMethod (method : String) : Bool :=
  method = anyValue || (Method.parse? method).isSome

def validate (s : CorsSettings) : Rule.Checked := do
  s.origins.forM fun o => Rule.origin o "cors.allowed_origins"
  s.patterns.forM fun p => Rule.notEmpty p "cors.allowed_origin_patterns"
  s.methods.forM fun m => Rule.require (isMethod m) (.unknownMethod m)
  Rule.require (!(s.credentials && s.origins.contains anyValue)) .openCredentials

def build (s : CorsSettings) : CorsConfig :=
  let c := { CorsConfig.strict.withMethods s.methods with credentials := s.credentials }
  let c := s.origins.foldl CorsConfig.allowOrigin c
  let c := s.patterns.foldl CorsConfig.allowOriginPattern c
  let c := if s.headers = [] then c else c.withHeaders s.headers
  let c := if s.exposed = [] then c else c.expose s.exposed
  match s.maxAge? with
  | some seconds => { c with maxAge := some seconds }
  | none => c

/-- The metadata, if it is valid. -/
def toCors (s : CorsSettings) : Except ConfigError CorsConfig :=
  match s.build.validate with
  | .ok () => .ok s.build
  | .error e => .error (.dispatch e)

end CorsSettings

/-! ### Mapping settings -/

inductive NamingSetting where
  | none
  | initials
  deriving DecidableEq, Repr

def NamingSetting.text : NamingSetting → String
  | none => "none"
  | initials => "initials"

def NamingSetting.naming? : NamingSetting → Option (Naming RouteMapping)
  | none => Option.none
  | initials => some initialsNaming

def MappingOptions.decode? (v : Value) : Option MappingOptions := do
  let given ← Decoder.fields ["detect_in_ancestor_contexts", "url_decode"] v
  let base : MappingOptions := {}
  return {
    ancestors := ← Decoder.fieldOr given "detect_in_ancestor_contexts" Decoder.bool base.ancestors
    decode := ← Decoder.fieldOr given "url_decode" Decoder.bool base.decode }

/-- The CORS settings are in the order of their path patterns. -/
structure MappingSettings where
  options : MappingOptions := {}
  naming : NamingSetting := .none
  cors : List (String × CorsSettings) := []
  logLevel? : Option String := none
  deriving DecidableEq, Repr

namespace MappingSettings

def decode? (v : Value) : Option MappingSettings := do
  let given ← Decoder.fields ["detect_in_ancestor_contexts", "url_decode", "naming", "cors",
    "log_level"] v
  let options ← MappingOptions.decode? (.object given)
  let namings := [("none", NamingSetting.none), ("initials", NamingSetting.initials)]
  return {
    options := options
    naming := ← Decoder.fieldOr given "naming" (Decoder.choice namings) .none
    cors := ← Decoder.fieldOr given "cors" (Decoder.table CorsSettings.decode?) []
    logLevel? := ← Decoder.fieldOr given "log_level" (Decoder.optional Decoder.text) none }

def validate (s : MappingSettings) : Rule.Checked := do
  match s.logLevel? with
  | some level => Rule.require (LogLevel.parse? level).isSome (.unknownLevel level)
  | none => pure ()
  s.cors.forM fun (pattern, cors) => do
    Rule.rooted pattern "cors"
    cors.validate

/-- Longer patterns, counted in bytes, come before shorter ones. -/
def comesBefore (a b : String) : Bool :=
  b.utf8ByteSize < a.utf8ByteSize || (a.utf8ByteSize = b.utf8ByteSize && !(b < a))

def byLength (s : MappingSettings) : List (String × CorsSettings) :=
  s.cors.mergeSort fun a b => comesBefore a.1 b.1

def corsMappings (s : MappingSettings) : Except ConfigError (List (String × CorsConfig)) :=
  s.byLength.mapM fun (pattern, cors) => cors.toCors.map (pattern, ·)

def logLevel (s : MappingSettings) : Option LogLevel :=
  s.logLevel?.bind LogLevel.parse?

def logSetup (s : MappingSettings) : LogSetup :=
  match s.logLevel with
  | some level => { level := level }
  | none => {}

/-- Configures a mapping that has not started. Its naming stays where the settings have none, and
the CORS metadata comes after what the mapping has. -/
def apply (s : MappingSettings) (m : HandlerMapping RouteMapping) :
    Except ConfigError (HandlerMapping RouteMapping) := do
  s.validate
  let mappings ← s.corsMappings
  return { m with options := s.options, naming? := s.naming.naming?.or m.naming?
                  globalCors := m.globalCors ++ mappings }

end MappingSettings

end RequestDispatch
