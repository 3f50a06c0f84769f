import RequestDispatch.Chain.Interceptor

/-!
# Running a chain

A chain is a handler with the interceptors around it. Before the handler they run in order, after
it in reverse. Those that let the request through are told of its completion, in reverse order
and exactly once, whatever fails.
-/
namespace RequestDispatch

structure Chain (D : Type) where
  handler : HandlerMethod
  interceptors : List (Interceptor D) := []

/-- A call that a chain has made, to the interceptor at an index or to the handler. -/
inductive Call where
  | before (index : Nat) (answer : Except DispatchError Bool)
  | handle (failure : Option DispatchError)
  | after (index : Nat) (failure : Option DispatchError)
  | completed (index : Nat) (ending : Option DispatchError)
  | suspended (index : Nat)

/-- A run of a chain: the exchange, the index of the last interceptor that let the request
through, and the calls made. -/
structure Run (D : Type) where
  exchange : Exchange D
  passed : Option Nat := none
  calls : List Call := []

inductive ChainOutcome where
  /-- An interceptor stopped the chain, and the handler was not called. -/
  | shortCircuited
  | completed (model : Option ModelView)

def failure? {α : Type} : Except DispatchError α → Option DispatchError
  | .ok _ => none
  | .error e => some e

namespace Run

variable {D : Type}

def emit (r : Run D) (event : LogEvent) : Run D :=
  { r with exchange := { r.exchange with events := r.exchange.events ++ [event] } }

def call {α : Type} (r : Run D) (phase : Phase D α) (note : Except DispatchError α → Call) :
    Except DispatchError α × Run D :=
  let (answer, x) := phase.run r.exchange
  (answer, { r with exchange := x, calls := r.calls ++ [note answer] })

def report (r : Run D) (message name : String) : Except DispatchError Unit → Run D
  | .ok _ => r
  | .error e => r.emit (.error message [("interceptor", .text name), ("error", .text e.message)])

end Run

namespace Chain

variable {D : Type}

def indexed (c : Chain D) : List (Interceptor D × Nat) :=
  c.interceptors.zipIdx

def passedBy (c : Chain D) (r : Run D) : List (Interceptor D × Nat) :=
  match r.passed with
  | none => []
  | some last => c.indexed.take (last + 1)

/-- Tells of the completion, in reverse order. A failure is reported, and the rest are told all
the same. -/
def complete (c : Chain D) (ending : Option DispatchError) (r : Run D) : Run D :=
  (c.passedBy r).reverse.foldl (fun r (i, index) =>
    let (answer, r) := r.call (i.completed c.handler ending) fun _ => .completed index ending
    r.report "HandlerInterceptor::after_completion failed" i.name answer) r

def beforeFrom (c : Chain D) : List (Interceptor D × Nat) → Run D →
    Except DispatchError Bool × Run D
  | [], r => (.ok true, r)
  | (i, index) :: rest, r =>
    let (answer, r) := r.call (i.before c.handler) (.before index)
    match answer with
    | .ok true => beforeFrom c rest { r with passed := some index }
    | .ok false =>
      (.ok false, c.complete none
        (r.emit (.debug "Interceptor stopped the chain" [("interceptor", .text i.name)])))
    | .error e => (.error e, r)

/-- Runs the interceptors before the handler. If one stops the chain, those before it are told of
the completion. After a failure that is left to the caller. -/
def before (c : Chain D) (r : Run D) : Except DispatchError Bool × Run D :=
  c.beforeFrom c.indexed r

def afterFrom (c : Chain D) : List (Interceptor D × Nat) → Run D →
    Except DispatchError Unit × Run D
  | [], r => (.ok (), r)
  | (i, index) :: rest, r =>
    match r.call (i.after c.handler) fun answer => .after index (failure? answer) with
    | (.ok _, r) => afterFrom c rest r
    | (.error e, r) => (.error e, r)

/-- Runs the interceptors after the handler, in reverse order, up to the first that fails. -/
def after (c : Chain D) (r : Run D) : Except DispatchError Unit × Run D :=
  c.afterFrom c.indexed.reverse r

/-- Tells those who care, in reverse order, that handling goes on elsewhere. -/
def suspend (c : Chain D) (r : Run D) : Run D :=
  c.indexed.reverse.foldl (fun r (i, index) =>
    match i.suspended? with
    | none => r
    | some phase =>
      let (answer, r) := r.call (phase c.handler) fun _ => .suspended index
      r.report "Interceptor failed after concurrent handling started" i.name answer) r

def runHandler (c : Chain D) (handle : HandlerMethod → Phase D (Option ModelView)) (r : Run D) :
    Except DispatchError ChainOutcome × Run D :=
  match c.before r with
  | (.error e, r) => (.error e, r)
  | (.ok false, r) => (.ok .shortCircuited, r)
  | (.ok true, r) =>
    match r.call (handle c.handler) fun answer => .handle (failure? answer) with
    | (.error e, r) => (.error e, r)
    | (.ok model, r) =>
      match c.after { r with exchange := { r.exchange with model := model } } with
      | (.error e, r) => (.error e, r)
      | (.ok _, r) => (.ok (.completed r.exchange.model), r)

def execute (c : Chain D) (handle : HandlerMethod → Phase D (Option ModelView)) (r : Run D) :
    Except DispatchError ChainOutcome × Run D :=
  let r := r.emit (.trace "Executing handler chain"
    [("handler", .text c.handler.text), ("interceptor_count", .number c.interceptors.length)])
  match c.runHandler handle r with
  | (.ok .shortCircuited, r) => (.ok .shortCircuited, r)
  | (.ok outcome, r) => (.ok outcome, c.complete none r)
  | (.error e, r) => (.error e, c.complete (some e) r)

/-- Puts an interceptor at a position, or at the end if the position is beyond it. -/
def insertAt (c : Chain D) (index : Nat) (i : Interceptor D) : Chain D :=
  { c with interceptors := c.interceptors.take index ++ i :: c.interceptors.drop index }

def append (c : Chain D) (more : List (Interceptor D)) : Chain D :=
  { c with interceptors := c.interceptors ++ more }

def text (c : Chain D) : String :=
  "HandlerExecutionChain with [" ++ c.handler.text ++ "] and " ++
    toString c.interceptors.length ++ " interceptors"

def debugText (c : Chain D) (r : Run D) : String :=
  let passed := match r.passed with
    | none => "None"
    | some index => "Some(" ++ toString index ++ ")"
  Text.rendered "HandlerExecutionChain" [("handler", c.handler.debugText),
    ("interceptors", Text.quotedList (c.interceptors.map (·.name))), ("interceptor_index", passed)]

end Chain

end RequestDispatch
