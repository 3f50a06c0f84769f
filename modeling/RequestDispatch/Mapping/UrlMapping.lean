import RequestDispatch.Mapping.Discovery
import RequestDispatch.Mapping.Lookup
import RequestDispatch.Path.Rank

/-!
# Beans mapped by URL

Here a descriptor is a path pattern, and a bean as a whole handles the URLs that a resolver has
for its name.
-/
namespace RequestDispatch

def urlHandlerMethod : String := "handle"

/-- The URLs of a bean. Without any, the bean is no handler. -/
abbrev UrlResolver := String → List String

def beanNameUrls : UrlResolver := fun name =>
  if Text.startsWithText "/" name then [name] else []

def urlStrategy : Strategy String :=
  { isHandler := fun _ => false
    describe := fun _ _ => .ok none
    directPaths := fun pattern => if Path.isPattern pattern then [] else [pattern]
    narrow := fun pattern r =>
      if Path.isMatch pattern (r.notedPath true) then some pattern else none
    compare := fun r a b => Path.comparePatterns (r.notedPath true) a b
    render := Text.quoted }

namespace UrlMapping

/-- The type that a bean's URLs are registered with: its own, or its name if that is unknown. -/
def ownerOf (c : Containers) (name : String) : String :=
  match c.typeOf 0 name with
  | .ok type => type.name
  | .error _ => name

def ownerEvents (c : Containers) (name : String) : List LogEvent :=
  match c.typeOf 0 name with
  | .ok _ => []
  | .error e => [.trace "Using bean name as handler type"
      [("bean", .text name), ("error", .text e.message)]]

structure Step where
  mapping : HandlerMapping String
  events : List LogEvent := []

/-- Registers the URLs of one bean, up to the first that another bean has. -/
def registerUrls (name owner : String) : List String → Step → Except DispatchError Unit × Step
  | [], s => (.ok (), s)
  | url :: rest, s =>
    let source := HandlerSource.bean name
    let method : Signature := ⟨owner, urlHandlerMethod, []⟩
    match s.mapping.register url source method with
    | .error e => (.error e, s)
    | .ok m =>
      registerUrls name owner rest ⟨m, s.events ++ s.mapping.registerEvents url source method⟩

def detectFrom (resolve : UrlResolver) (c : Containers) :
    List String → Step → Except DispatchError Unit × Step
  | [], s => (.ok (), s)
  | name :: rest, s =>
    match resolve name with
    | [] => detectFrom resolve c rest s
    | urls =>
      match registerUrls name (ownerOf c name) urls
          { s with events := s.events ++ ownerEvents c name } with
      | (.error e, s) => (.error e, s)
      | (.ok _, s) => detectFrom resolve c rest s

def start (resolve : UrlResolver) (m : HandlerMapping String) (c : Containers) :
    Except DispatchError Unit × HandlerMapping String × List LogEvent :=
  match m.start c with
  | (.error e, m, events) => (.error e, m, events)
  | (.ok _, m, events) =>
    match detectFrom resolve c (c.names 0 m.options.ancestors) ⟨m, events⟩ with
    | (.error e, s) => (.error e, s.mapping, s.events)
    | (.ok _, s) =>
      (.ok (), s.mapping, s.events ++ [.debug "Detected URL handlers"
        [("urls", .number s.mapping.registry.bindings.length)]])

def urls (m : HandlerMapping String) : List String :=
  Assoc.keys m.registry.bindings

end UrlMapping

end RequestDispatch
