import RequestDispatch.Mapping.Strategy
import RequestDispatch.Route.RouteMapping

/-!
# Route tables

A table declares which methods of which types handle which routes. It is a strategy whose
descriptors are route mappings.
-/
namespace RequestDispatch

structure RouteEntry where
  owner : String
  handler : String
  methods : List Method
  paths : List String
  name? : Option String := none
  cors? : Option CorsConfig := none

def RouteEntry.mapping (e : RouteEntry) : Except DispatchError RouteMapping :=
  match e.paths.find? (!Text.startsWithText "/" ·) with
  | some path => .error (.configuration ("route path '" ++ path ++ "' must start with '/'"))
  | none => .ok (RouteMapping.of e.paths e.methods e.name?)

abbrev RouteTable := List ((String × String) × RouteEntry)

namespace RouteTable

/-- Adds an entry. It takes the place of one for the same method. -/
def route (t : RouteTable) (e : RouteEntry) : RouteTable :=
  Assoc.put t (e.owner, e.handler) e

def entry? (t : RouteTable) (method : Signature) : Option RouteEntry :=
  Assoc.find? t (method.owner, method.name)

def strategy (t : RouteTable) : Strategy RouteMapping :=
  { isHandler := fun type => type.methods.any fun m => (t.entry? m).isSome
    describe := fun method _ =>
      match t.entry? method with
      | none => .ok none
      | some e => e.mapping.map some
    directPaths := fun m => m.patterns.filter (!Path.isPattern ·)
    narrow := fun m r => m.narrow? r (r.notedPath true)
    compare := fun r a b => RouteMapping.compareTo (r.notedPath true) a b
    corsFor := fun _ method _ => (t.entry? method).bind (·.cors?)
    render := RouteMapping.debugText }

end RouteTable

/-- Names a registration by the name of its mapping, or else by the capitals of the type, a hash
sign and the method, as in `UC#show`. -/
def initialsNaming : Naming RouteMapping := fun handler m =>
  match m.name? with
  | some name => some name
  | none =>
    let initials := handler.method.simpleOwner.toList.filter Char.isUpper
    some (String.ofList initials ++ "#" ++ handler.method.name)

end RequestDispatch
