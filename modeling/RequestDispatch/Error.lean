/-!
# What can go wrong in dispatch

Each constructor is one cause; `message` is its wording and `status` the response it calls for.
-/
namespace RequestDispatch

inductive DispatchError where
  /-- A descriptor is claimed by a handler method while another one holds it. -/
  | ambiguousMapping (bean method mapping holderBean holderMethod : String)
  /-- The two best matches for a request rank equally. -/
  | ambiguousHandlers (uri first second : String)
  /-- A method of a handler type could not be turned into a descriptor. -/
  | invalidMapping (handlerType method : String) (source : DispatchError)
  | configuration (reason : String)
  | unresolvableType (bean : String)
  | beanNotFound (bean : String)
  | beanCreation (bean reason : String)
  | invalidCors (reason : String)
  /-- The text is no regular expression. -/
  | invalidOriginRegex (pattern : String)
  | corsRejected (reason : String)
  | illegalState (reason : String)
  | interceptor (reason : String)
  | handler (reason : String)
  deriving DecidableEq, Repr

namespace DispatchError

def message : DispatchError → String
  | ambiguousMapping bean method mapping holderBean holderMethod =>
    "Ambiguous mapping. Cannot map '" ++ bean ++ "' method " ++ method ++ " to " ++ mapping ++
      ": There is already '" ++ holderBean ++ "' bean method " ++ holderMethod ++ " mapped."
  | ambiguousHandlers uri first second =>
    "Ambiguous handler methods mapped for '" ++ uri ++ "': \x7b" ++ first ++ ", " ++ second ++ "\x7d"
  | invalidMapping handlerType method _ =>
    "Invalid mapping on handler class [" ++ handlerType ++ "]: " ++ method
  | configuration reason => "Configuration error: " ++ reason
  | unresolvableType bean => "Could not resolve type for bean '" ++ bean ++ "'"
  | beanNotFound bean => "No bean named '" ++ bean ++ "' available"
  | beanCreation bean reason => "Bean creation failed for '" ++ bean ++ "': " ++ reason
  | invalidCors reason => "Invalid CORS configuration: " ++ reason
  | invalidOriginRegex pattern =>
    "Invalid CORS configuration: bad origin pattern '" ++ pattern ++ "'"
  | corsRejected reason => "CORS request rejected: " ++ reason
  | illegalState reason => "Illegal state: " ++ reason
  | interceptor reason => "Interceptor error: " ++ reason
  | handler reason => "Handler error: " ++ reason

/-- The response status: a rejected origin is forbidden, a missing bean is not found, and all
else is a fault of the server. -/
def status : DispatchError → Nat
  | corsRejected _ => 403
  | beanNotFound _ => 404
  | _ => 500

def isClientError (e : DispatchError) : Bool :=
  400 ≤ e.status && e.status < 500

def isServerError (e : DispatchError) : Bool :=
  500 ≤ e.status

end DispatchError

end RequestDispatch
