import RequestDispatch.Cors.Enforce

/-!
# Interceptors

An interceptor acts before the handler, after it, and when the exchange is completed. Each phase
may change the exchange and may fail; what it changed before failing stays changed.
-/
namespace RequestDispatch

structure Exchange (D : Type) where
  request : Request D
  response : Response := .ok
  /-- What the handler produced, for the phase after it. -/
  model : Option ModelView := none
  journal : List String := []
  events : List LogEvent := []

abbrev Phase (D α : Type) := ExceptT DispatchError (StateM (Exchange D)) α

namespace Phase

variable {D : Type}

def emit (events : List LogEvent) : Phase D Unit :=
  modify fun x => { x with events := x.events ++ events }

def jot (line : String) : Phase D Unit :=
  modify fun x => { x with journal := x.journal ++ [line] }

end Phase

structure Interceptor (D : Type) where
  name : String
  /-- Runs before the handler. `false` stops the chain. -/
  before : HandlerMethod → Phase D Bool := fun _ => pure true
  /-- Runs after a handler that succeeded. -/
  after : HandlerMethod → Phase D Unit := fun _ => pure ()
  /-- Runs at the end, with the error that ended the exchange, if one did. -/
  completed : HandlerMethod → Option DispatchError → Phase D Unit := fun _ _ => pure ()
  /-- Runs when handling goes on elsewhere, if the interceptor cares. -/
  suspended? : Option (HandlerMethod → Phase D Unit) := none

namespace Interceptor

variable {D : Type}

def cors (c : CorsConfig) : Interceptor D :=
  { name := "CorsInterceptor"
    before := fun _ => do
      let x ← get
      let (verdict, response) := c.enforce x.request x.response
      set { x with response := response }
      Phase.emit verdict.events
      return verdict = .proceed }

def logging : Interceptor D :=
  { name := "LoggingInterceptor"
    before := fun handler => do
      let r := (← get).request
      Phase.emit [.debug "Dispatching request" [("method", .text r.method), ("path", .text r.target),
        ("handler", .text handler.text)]]
      modify fun x => { x with request := x.request.note .dispatchStart () }
      return true
    completed := fun _ failure => do
      let x ← get
      let common := [("method", .text x.request.method), ("path", .text x.request.target)]
      Phase.emit [match failure with
        | some e => .info "Request failed" (common ++ [("error", .text e.message)])
        | none =>
          .info "Request completed" (common ++ [("status", .number x.response.status.toNat)])] }

end Interceptor

/-! ### Interceptors that keep a journal -/

inductive BeforeAnswer where
  | proceed
  | stop
  | fail
  deriving DecidableEq, Repr

structure RecorderPlan where
  name : String
  headers : List (String × String) := []
  before : BeforeAnswer := .proceed
  afterFails : Bool := false
  completedFails : Bool := false
  /-- Whether the recorder hears of suspended handling, and then whether it fails there. -/
  suspendedFails? : Option Bool := none

namespace RecorderPlan

variable {D : Type}

def failIf (plan : RecorderPlan) (fails : Bool) (phase : String) : Phase D Unit :=
  if fails then throw (.interceptor (plan.name ++ " failed in " ++ phase)) else pure ()

def runBefore (plan : RecorderPlan) (handler : HandlerMethod) : Phase D Bool := do
  let r := (← get).request
  Phase.jot ("pre:" ++ plan.name ++ ":" ++ r.method ++ " " ++ r.target ++ ":" ++ handler.text)
  modify fun x => { x with response := CorsConfig.writeHeaders x.response plan.headers }
  plan.failIf (plan.before = .fail) "pre"
  return plan.before = .proceed

def runAfter (plan : RecorderPlan) : Phase D Unit := do
  match (← get).model with
  | some m =>
    Phase.jot ("post:" ++ plan.name ++ ":model")
    let marked := m.withAttribute plan.name (.int m.model.length)
    modify fun x => { x with model := some marked }
  | none => Phase.jot ("post:" ++ plan.name ++ ":none")
  plan.failIf plan.afterFails "post"

def runCompleted (plan : RecorderPlan) (failure : Option DispatchError) : Phase D Unit := do
  let status := (← get).response.status.toNat
  let reason := (failure.map (·.message)).getD "-"
  Phase.jot ("after:" ++ plan.name ++ ":" ++ toString status ++ ":" ++ reason)
  plan.failIf plan.completedFails "after"

def runSuspended (plan : RecorderPlan) (fails : Bool) (handler : HandlerMethod) : Phase D Unit := do
  Phase.jot ("async:" ++ plan.name ++ ":" ++ handler.text)
  plan.failIf fails "async"

def interceptor (plan : RecorderPlan) : Interceptor D :=
  { name := plan.name
    before := plan.runBefore
    after := fun _ => plan.runAfter
    completed := fun _ failure => plan.runCompleted failure
    suspended? := plan.suspendedFails?.map fun fails => plan.runSuspended fails }

end RecorderPlan

/-- A handler that writes a line, sets the status if one is given, and yields its result. -/
def recordedHandler {D : Type} (status? : Option UInt16)
    (result : Except DispatchError (Option ModelView)) (handler : HandlerMethod) :
    Phase D (Option ModelView) := do
  Phase.jot ("handler:" ++ handler.text)
  modify fun x => { x with response := { x.response with
    status := status?.getD x.response.status } }
  match result with
  | .ok m => return m
  | .error e => throw e

end RequestDispatch
