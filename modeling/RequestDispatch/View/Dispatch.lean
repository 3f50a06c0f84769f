import RequestDispatch.Mapping.Lookup
import RequestDispatch.Route.RouteMapping
import RequestDispatch.View.Basic

/-!
# Views of what dispatch works with

Errors, events, handlers, requests, responses, CORS metadata, descriptors, registries and the
endings of chains, as data.
-/
namespace RequestDispatch

open View

/-! ### Errors and events -/

def DispatchError.kind : DispatchError → String
  | ambiguousMapping .. => "AmbiguousMapping"
  | ambiguousHandlers .. => "AmbiguousHandlerMethods"
  | invalidMapping .. => "InvalidMapping"
  | configuration _ => "Configuration"
  | unresolvableType _ => "UnresolvableType"
  | beanNotFound _ => "BeanNotFound"
  | beanCreation .. => "BeanCreation"
  | invalidCors _ => "InvalidCorsConfig"
  | invalidOriginRegex _ => "InvalidCorsConfig"
  | corsRejected _ => "CorsRejected"
  | illegalState _ => "IllegalState"
  | interceptor _ => "Interceptor"
  | handler _ => "Handler"

def DispatchError.ofKind (kind text : String) : DispatchError :=
  match kind with
  | "Configuration" => .configuration text
  | "UnresolvableType" => .unresolvableType text
  | "BeanNotFound" => .beanNotFound text
  | "InvalidCorsConfig" => .invalidCors text
  | "CorsRejected" => .corsRejected text
  | "IllegalState" => .illegalState text
  | "Interceptor" => .interceptor text
  | _ => .handler text

/-- What is wrong with a regular expression is not said. -/
def DispatchError.toValue (e : DispatchError) : Value :=
  let common := [("error", .text e.kind), ("status", number e.status),
    ("client", .bool e.isClientError), ("server", .bool e.isServerError)]
  match e with
  | .invalidOriginRegex _ => record common
  | .invalidMapping _ _ source =>
    record (common ++ [("message", .text e.message), ("source", source.toValue)])
  | _ => record (common ++ [("message", .text e.message)])

def LogLevel.name : LogLevel → String
  | trace => "TRACE"
  | debug => "DEBUG"
  | info => "INFO"
  | warn => "WARN"
  | error => "ERROR"

def LogField.toValue : LogField → Value
  | number n => View.number n
  | text s => .text s

def LogEvent.toValue (e : LogEvent) : Value :=
  .list [.text e.level.name, .text e.message, table LogField.toValue e.fields]

/-! ### Exchanges -/

def Response.toValue (r : Response) : Value :=
  record [("status", number r.status.toNat), ("headers", table .text r.headers),
    ("body", .text r.body)]

def ModelView.toValue (m : ModelView) : Value :=
  record [("view", textOrNull m.view), ("model", .object m.model)]

def HandlerMethod.parts (h : HandlerMethod) : List (String × Value) :=
  [("method", .text h.text), ("bean", .text h.beanDescription), ("bean_name", textOrNull h.beanName?),
    ("deferred", .bool h.isDeferred), ("instance", textOrNull (h.bean?.bind Bean.label?)),
    ("resolved_from", textOrNull (h.origin?.map (·.beanDescription))),
    ("sentinel", .bool h.isPreflight)]

def HandlerMethod.toValue (h : HandlerMethod) : Value :=
  record h.parts

def Request.notesValue {D : Type} (r : Request D) (view : D → Value) : Value :=
  let a := r.attributes
  record [("lookup_path", textOrNull (a.get? .lookupPath)),
    ("within", textOrNull (a.get? .pathWithinMapping)),
    ("best_handler", optional HandlerMethod.toValue (a.get? .bestHandler)),
    ("best_mapping", optional view (a.get? .bestMapping)), ("count", number a.size)]

def ChainOutcome.toValue : Except DispatchError ChainOutcome → Value
  | .ok .shortCircuited => .text "short_circuited"
  | .ok (.completed m) => record [("completed", optional ModelView.toValue m)]
  | .error e => e.toValue

/-! ### Metadata, descriptors and registries -/

def CorsConfig.toValue (c : CorsConfig) : Value :=
  record [("origins", texts c.origins), ("patterns", texts (c.patterns.map (·.source))),
    ("methods", texts c.methods), ("headers", texts c.headers), ("exposed", texts c.exposed),
    ("credentials", .bool c.credentials), ("max_age", optional number c.maxAge)]

def RouteMapping.toValue (m : RouteMapping) : Value :=
  record [("name", textOrNull m.name?), ("patterns", texts m.patterns),
    ("methods", texts (m.methods.map (·.name))), ("display", .text m.text)]

def BeanType.toValue (t : BeanType) : Value :=
  record [("name", .text t.name), ("methods", texts (t.methods.map (·.text)))]

def HandlerMethod.lines (hs : List HandlerMethod) : Value :=
  texts (hs.map fun h => h.beanDescription ++ " " ++ h.text)

def handlersValue {D : Type} (display : D → String) (handlers : List (D × HandlerMethod)) : Value :=
  items (fun (d, h) => texts [display d, h.beanDescription, h.text]) handlers

def Binding.removalValue (display : String) (b : Binding) : Value :=
  record [("mapping", .text display), ("name", textOrNull b.name?),
    ("direct_paths", texts b.directPaths), ("has_cors", .bool b.cors?.isSome)]

def Registry.toValue {D : Type} [DecidableEq D] (display : D → String) (r : Registry D) : Value :=
  let origins : Option CorsConfig → Value := optional fun c => texts c.origins
  let binding (e : D × Binding) : Value :=
    let (d, b) := e
    record [("mapping", .text (display d)), ("handler", .text b.handler.text),
      ("bean", .text b.handler.beanDescription), ("direct_paths", texts b.directPaths),
      ("name", textOrNull b.name?), ("cors", origins b.cors?), ("has_cors", .bool b.cors?.isSome),
      ("handler_cors", origins (r.corsOf? b.handler))]
  record [("registrations", items binding r.bindings),
    ("order", texts (r.bindings.map fun e => display e.1)),
    ("paths", table (fun ds => texts (ds.map display)) r.paths),
    ("names", table HandlerMethod.lines r.names),
    ("len", number r.bindings.length), ("empty", .bool r.bindings.isEmpty),
    ("name_count", number r.names.length), ("cors_count", number r.cors.length),
    ("debug", .text r.debugText)]

end RequestDispatch
