import RequestDispatch.Assoc
import RequestDispatch.Handler.HandlerMethod
import RequestDispatch.Http.Attributes
import RequestDispatch.Http.Method
import RequestDispatch.Text.Percent
import RequestDispatch.Text.Split

/-!
# Requests

A request as lookup sees it. Header names are kept in lower case. The lookup path is the
canonical form of the path: no query, no path parameters, no repeated slashes.
-/
namespace RequestDispatch

inductive RequestKey where
  | lookupPath
  | pathWithinMapping
  | bestHandler
  | bestMapping
  | dispatchStart
  /-- Notes of the application, each under the name of its type. -/
  | custom (type : String)
  deriving DecidableEq, Repr

def RequestKey.Note (D : Type) : RequestKey → Type
  | lookupPath => String
  | pathWithinMapping => String
  | bestHandler => HandlerMethod
  | bestMapping => D
  | dispatchStart => Unit
  | custom _ => String

structure Request (D : Type) where
  method : String
  target : String
  headers : List (String × String) := []
  attributes : Attributes RequestKey (RequestKey.Note D) := .empty

/-- The canonical form of a request target. -/
def canonicalPath (target : List Char) : List Char :=
  let uri := Text.upTo '?' target
  let segments := ((Text.split '/' uri).map (Text.upTo ';')).filter (· ≠ [])
  let body := segments.flatMap ('/' :: ·)
  if body = [] then ['/']
  else if uri.getLast? = some '/' then body ++ ['/']
  else body

namespace Request

variable {D : Type}

def withHeader (r : Request D) (name value : String) : Request D :=
  { r with headers := Assoc.put r.headers (Text.toLower name) value }

def header? (r : Request D) (name : String) : Option String :=
  Assoc.find? r.headers (Text.toLower name)

def method? (r : Request D) : Option Method :=
  Method.parse? r.method

def uri (r : Request D) : String :=
  String.ofList (Text.upTo '?' r.target.toList)

/-- A cross-origin probe: `OPTIONS` with an origin and the method that is asked for. -/
def isPreflight (r : Request D) : Bool :=
  Text.sameIgnoringAsciiCase r.method "OPTIONS" && Assoc.contains r.headers "origin" &&
    Assoc.contains r.headers "access-control-request-method"

def isCrossOrigin (r : Request D) : Bool :=
  Assoc.contains r.headers "origin"

/-- The path that handlers are looked up by. A path whose escapes do not decode stays encoded. -/
def pathForLookup (r : Request D) (decode : Bool) : String :=
  let path := String.ofList (canonicalPath r.target.toList)
  if decode then (Text.percentDecode? path).getD path else path

/-- The lookup path noted on the request, or else the one it has. -/
def notedPath (r : Request D) (decode : Bool) : String :=
  match r.attributes.get? .lookupPath with
  | some path => path
  | none => r.pathForLookup decode

def note (r : Request D) (key : RequestKey) (v : RequestKey.Note D key) : Request D :=
  { r with attributes := r.attributes.insert key v }

theorem get?_note_self (r : Request D) (key : RequestKey) (v : RequestKey.Note D key) :
    (r.note key v).attributes.get? key = some v :=
  Attributes.get?_insert_self ..

theorem get?_note_of_ne (r : Request D) {key other : RequestKey} (v : RequestKey.Note D key)
    (h : other ≠ key) : (r.note key v).attributes.get? other = r.attributes.get? other :=
  Attributes.get?_insert_of_ne _ v h

end Request

end RequestDispatch
