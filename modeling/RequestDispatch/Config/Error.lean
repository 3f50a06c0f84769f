import RequestDispatch.Data.Json
import RequestDispatch.Error
import RequestDispatch.Text.Quoted

/-!
# What can go wrong in configuration

A `Violation` is a rule that a setting breaks. A `ConfigError` is any failure to load, read or
apply configuration; where its cause is the grammar of a file or the shape of a value there is no
message.
-/
namespace RequestDispatch

inductive Violation where
  | empty (field : String)
  | outOfRange (field low high got : String)
  | notAllowed (field : String) (allowed : List String) (got : String)
  /-- A path pattern has to start at the root. -/
  | notRooted (field pattern : String)
  | notOrigin (field origin : String)
  | unknownMethod (method : String)
  /-- Credentials are allowed to every origin. -/
  | openCredentials
  | unknownLevel (level : String)
  | sectionNotTable (name : String) (found : Value)

namespace Violation

def text : Violation → String
  | empty field => field ++ " cannot be empty"
  | outOfRange field low high got =>
    field ++ " must be between " ++ low ++ " and " ++ high ++ ", got " ++ got
  | notAllowed field allowed got =>
    field ++ " must be one of " ++ Text.quotedList allowed ++ ", got " ++ Text.quoted got
  | notRooted field pattern => field ++ " pattern '" ++ pattern ++ "' must start with '/'"
  | notOrigin field origin =>
    field ++ " origin '" ++ origin ++ "' must be '*' or start with http:// or https://"
  | unknownMethod method => "cors.allowed_methods: unknown HTTP method '" ++ method ++ "'"
  | openCredentials =>
    "cors: allow_credentials cannot be combined with origin '*'; " ++
      "use allowed_origin_patterns = [\"*\"] instead"
  | unknownLevel level => "log_level: unknown level '" ++ level ++ "'"
  | sectionNotTable name found =>
    "'" ++ name ++ "' must be a table, found " ++ Json.write found

end Violation

inductive ConfigError where
  | keyNotFound (key : String)
  /-- The file is missing, or is no text. -/
  | unreadable
  | noExtension (path : String)
  | unsupportedFormat (extension : String)
  /-- The text does not follow the grammar of its format. -/
  | malformed
  | rootNotTable (found : Value)
  | invalid (violation : Violation)
  /-- A value has not the type that was asked for. -/
  | wrongType
  | dispatch (cause : DispatchError)
  | unsetVariable

namespace ConfigError

def message? : ConfigError → Option String
  | keyNotFound key => some ("Configuration key not found: " ++ key)
  | noExtension path => some ("Failed to load configuration: No file extension on " ++ path)
  | unsupportedFormat e => some ("Failed to load configuration: Unsupported format: " ++ e)
  | rootNotTable found =>
    some ("Failed to parse configuration: configuration root must be a table, found " ++
      Json.write found)
  | invalid violation => some ("Validation error: " ++ violation.text)
  | dispatch cause => some ("Mapping configuration error: " ++ cause.message)
  | unsetVariable => some "Environment variable error: environment variable not found"
  | unreadable | malformed | wrongType => none

end ConfigError

end RequestDispatch
