import RequestDispatch.Cors.Config
import RequestDispatch.Http.Request
import RequestDispatch.Http.Response
import RequestDispatch.Text.Blank

/-!
# Enforcing CORS metadata

A preflight request is answered or refused and goes no further. Any other request with an origin
goes on only if its method and origin are allowed. A refusal writes no header.
-/
namespace RequestDispatch

def requestedHeaders {D : Type} (r : Request D) : List String :=
  match r.header? "access-control-request-headers" with
  | some names => ((Text.splitText ',' names).map Text.trimText).filter (· ≠ "")
  | none => []

def requestedMethod {D : Type} (r : Request D) : String :=
  (r.header? "access-control-request-method").getD ""

namespace CorsConfig

/-- The first reason to refuse a preflight request, or else the origin to grant access to. -/
def checkPreflight {D : Type} (c : CorsConfig) (r : Request D) : Except DispatchError String :=
  match r.header? "origin" with
  | none => .error (.corsRejected "missing Origin header")
  | some origin =>
    match c.grantedOrigin? origin with
    | none => .error (.corsRejected ("origin '" ++ origin ++ "' not allowed"))
    | some granted =>
      if !c.allowsMethod (requestedMethod r) then
        .error (.corsRejected ("method '" ++ requestedMethod r ++ "' not allowed"))
      else
        match (requestedHeaders r).find? (!c.allowsHeader ·) with
        | some header => .error (.corsRejected ("header '" ++ header ++ "' not allowed"))
        | none => .ok granted

def preflightHeaders {D : Type} (c : CorsConfig) (r : Request D) (granted : String) :
    List (String × String) :=
  [("Access-Control-Allow-Origin", granted),
    ("Vary", "Origin, Access-Control-Request-Method, Access-Control-Request-Headers"),
    ("Access-Control-Allow-Methods",
      if c.methods.contains anyValue then Text.toUpper (requestedMethod r)
      else Text.joinText ", " c.methods)] ++
  (if requestedHeaders r = [] then []
    else [("Access-Control-Allow-Headers", Text.joinText ", " (requestedHeaders r))]) ++
  (if c.credentials then [("Access-Control-Allow-Credentials", "true")] else []) ++
  (c.maxAge.map fun seconds => ("Access-Control-Max-Age", toString seconds)).toList

def grantHeaders (c : CorsConfig) (granted : String) : List (String × String) :=
  (if granted = anyValue then [] else [("Vary", "Origin")]) ++
  [("Access-Control-Allow-Origin", granted)] ++
  (if c.credentials then [("Access-Control-Allow-Credentials", "true")] else []) ++
  (if c.exposed = [] then []
    else [("Access-Control-Expose-Headers", Text.joinText ", " c.exposed)])

def writeHeaders (response : Response) (headers : List (String × String)) : Response :=
  headers.foldl (fun r (name, value) => r.setHeader name value) response

def handlePreflight {D : Type} (c : CorsConfig) (r : Request D) (response : Response) :
    Except DispatchError Response :=
  (c.checkPreflight r).map fun granted => writeHeaders response (c.preflightHeaders r granted)

/-- Grants access to a request that is no preflight, unless its origin is not allowed. -/
def addHeaders? (c : CorsConfig) (response : Response) (origin : String) : Option Response :=
  (c.grantedOrigin? origin).map fun granted => writeHeaders response (c.grantHeaders granted)

end CorsConfig

inductive CorsVerdict where
  | proceed
  | answered (origin : String)
  | refused (reason : String)
  deriving DecidableEq, Repr

def CorsVerdict.events : CorsVerdict → List LogEvent
  | proceed => []
  | answered origin => [.trace "Answered CORS preflight" [("origin", .text origin)]]
  | refused reason => [.debug "Rejecting CORS request" [("reason", .text reason)]]

def Response.refused (r : Response) : Response :=
  { r with status := 403, body := "Invalid CORS request" }

/-- Lets the request go on, answers it, or refuses it. -/
def CorsConfig.enforce {D : Type} (c : CorsConfig) (r : Request D) (response : Response) :
    CorsVerdict × Response :=
  match r.header? "origin" with
  | none => (.proceed, response)
  | some origin =>
    if r.isPreflight then
      match c.handlePreflight r response with
      | .error e => (.refused e.message, response.refused)
      | .ok answer => (.answered origin, { answer with status := 200 })
    else if !c.allowsMethod r.method then
      (.refused ("method '" ++ r.method ++ "' not allowed"), response.refused)
    else
      match c.addHeaders? response origin with
      | none => (.refused ("origin '" ++ origin ++ "' not allowed"), response.refused)
      | some answer => (.proceed, answer)

end RequestDispatch
