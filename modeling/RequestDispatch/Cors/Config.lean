import RequestDispatch.Cors.Origin
import RequestDispatch.Error
import RequestDispatch.Text.Case

/-!
# CORS metadata

Which origins, methods and headers a handler method accepts from other origins. Methods are kept
in upper case and headers in lower case; both are compared ignoring ASCII case.
-/
namespace RequestDispatch

/-- Stands for every origin, method or header. -/
def anyValue : String := "*"

def addNew (values : List String) (value : String) : List String :=
  if values.contains value then values else values ++ [value]

def addAllNew (values more : List String) : List String :=
  more.foldl addNew values

/-- `maxAge` is how many seconds the answer to a preflight request may be kept. -/
structure CorsConfig where
  origins : List String := []
  patterns : List OriginPattern := []
  methods : List String := ["GET", "HEAD", "POST"]
  headers : List String := []
  exposed : List String := []
  credentials : Bool := false
  maxAge : Option Nat := some 1800
  deriving DecidableEq, Repr, Inhabited

namespace CorsConfig

def strict : CorsConfig := {}

def permissive : CorsConfig :=
  { origins := [anyValue], methods := [anyValue], headers := [anyValue] }

/-- Accepts everything, by a pattern, so that credentials may be allowed as well. -/
def permissiveWithCredentials : CorsConfig :=
  { patterns := [.wildcard anyValue], methods := [anyValue], headers := [anyValue]
    credentials := true }

/-! ### Building -/

def allowOrigin (c : CorsConfig) (origin : String) : CorsConfig :=
  { c with origins := addNew c.origins (withoutEndSlashes origin) }

def allowOriginPattern (c : CorsConfig) (pattern : String) : CorsConfig :=
  { c with patterns := c.patterns ++ [.wildcard (withoutEndSlashes pattern)] }

def allowOriginRegex (c : CorsConfig) (pattern : String) : Except DispatchError CorsConfig :=
  match Regex.Pattern.ofText? pattern with
  | some regex => .ok { c with patterns := c.patterns ++ [.regex regex] }
  | none => .error (.invalidOriginRegex pattern)

def allowMethod (c : CorsConfig) (method : String) : CorsConfig :=
  { c with methods := addNew c.methods (Text.toUpper method) }

/-- Allows these methods and no others. -/
def withMethods (c : CorsConfig) (methods : List String) : CorsConfig :=
  methods.foldl allowMethod { c with methods := [] }

def allowHeader (c : CorsConfig) (header : String) : CorsConfig :=
  { c with headers := addNew c.headers (Text.toLower header) }

/-- Allows these headers and no others. -/
def withHeaders (c : CorsConfig) (headers : List String) : CorsConfig :=
  headers.foldl allowHeader { c with headers := [] }

def expose (c : CorsConfig) (headers : List String) : CorsConfig :=
  { c with exposed := addAllNew c.exposed headers }

/-! ### Validity and combination -/

def credentialsReason : String :=
  "when credentials are allowed, allowed origins cannot contain \"*\" " ++
  "since that value cannot be set on the Access-Control-Allow-Origin header; " ++
  "list the origins explicitly or use an origin pattern"

/-- Credentials do not go together with the origin that stands for all. -/
def validate (c : CorsConfig) : Except DispatchError Unit :=
  if c.credentials && c.origins.contains anyValue then .error (.invalidCors credentialsReason)
  else .ok ()

def Contradictory (config : CorsConfig) : Prop :=
  config.credentials = true ∧ anyValue ∈ config.origins

theorem Contradictory.validate_eq {config : CorsConfig} (h : config.Contradictory) :
    config.validate = .error (.invalidCors credentialsReason) := by
  simp [validate, h.1, h.2]

theorem validate_of_not_contradictory {config : CorsConfig} (h : ¬config.Contradictory) :
    config.validate = .ok () := by
  simpa [validate, Contradictory] using h

/-- Adds a pattern unless one is there that reads the same. -/
def addPattern (patterns : List OriginPattern) (p : OriginPattern) : List OriginPattern :=
  if patterns.any fun q => q.source = p.source then patterns else patterns ++ [p]

/-- Both together. The maximal age of `other` wins if it has one. -/
def combine (c other : CorsConfig) : CorsConfig :=
  { origins := addAllNew c.origins other.origins
    patterns := other.patterns.foldl addPattern c.patterns
    methods := addAllNew c.methods other.methods
    headers := addAllNew c.headers other.headers
    exposed := addAllNew c.exposed other.exposed
    credentials := c.credentials || other.credentials
    maxAge := other.maxAge.or c.maxAge }

/-! ### Checks -/

/-- The origin to grant access to: the one of the request, or all of them. -/
def grantedOrigin? (c : CorsConfig) (origin : String) : Option String :=
  let origin := withoutEndSlashes origin
  if origin = "" then none
  else if c.origins.contains anyValue then some (if c.credentials then origin else anyValue)
  else if c.origins.any (Text.sameIgnoringAsciiCase · origin) || c.patterns.any (·.accepts origin)
  then some origin
  else none

def allowsOrigin (c : CorsConfig) (origin : String) : Bool :=
  (c.grantedOrigin? origin).isSome

/-- A list accepts the value if it names it, or all. -/
def accepts (allowed : List String) (value : String) : Bool :=
  allowed.any fun a => a = anyValue || Text.sameIgnoringAsciiCase a value

def allowsMethod (c : CorsConfig) (method : String) : Bool :=
  accepts c.methods method

def allowsHeader (c : CorsConfig) (header : String) : Bool :=
  accepts c.headers header

end CorsConfig

end RequestDispatch
