import RequestDispatch.Assoc
import RequestDispatch.Error
import RequestDispatch.Handler.Bean
import RequestDispatch.Log.Event

/-!
# Bean containers

A chain of containers, the nearest first; a name that a container does not have is looked up in
the next. A lazy bean is created by its factory when it is first asked for: the factory is called
until it succeeds once, and the bean it made is kept as long as the definition is.
-/
namespace RequestDispatch

/-- Where a bean comes from. A factory yields the label of the bean, or fails; its argument is
the number of the call, counted from one. -/
inductive Supply where
  | ready (type : BeanType) (label : String)
  | lazy (type? : Option BeanType) (factory : Nat → Except DispatchError String)

structure Declaration where
  name : String
  supply : Supply

inductive Slot where
  | ready (bean : Bean)
  | lazy (serial : Nat) (factory : Nat → Except DispatchError String) (created : Option Bean)

structure Definition where
  type? : Option BeanType
  slot : Slot

structure FactoryRecord where
  serial : Nat
  name : String
  calls : Nat
  deriving DecidableEq, Repr

abbrev Layer := List (String × Definition)

structure Containers where
  layers : List Layer
  records : List FactoryRecord
  /-- The next serial, for a lazy definition or for a bean. -/
  nextSerial : Nat
  deriving Inhabited

namespace Containers

def single : Containers := ⟨[[]], [], 0⟩

def child (parent : Containers) : Containers :=
  { parent with layers := [] :: parent.layers }

def creationEvents : List LogEvent :=
  [.debug "Creating new bean container" []]

def layer (c : Containers) (level : Nat) : Layer :=
  (c.layers[level]?).getD []

def contains (c : Containers) (level : Nat) (name : String) : Bool :=
  Assoc.contains (c.layer level) name

def size (c : Containers) (level : Nat) : Nat :=
  (c.layer level).length

def setLayer (c : Containers) (level : Nat) (f : Layer → Layer) : Containers :=
  { c with layers := c.layers.modify level f }

/-! ### Writing -/

/-- Declares a bean in the container at `level`. A name that is there keeps its place. -/
def declare (c : Containers) (level : Nat) (d : Declaration) : Containers :=
  match d.supply with
  | .ready type label =>
    { c.setLayer level fun l =>
        Assoc.put l d.name ⟨some type, .ready (.created c.nextSerial label)⟩ with
      nextSerial := c.nextSerial + 1 }
  | .lazy type? factory =>
    { c.setLayer level fun l =>
        Assoc.put l d.name ⟨type?, .lazy c.nextSerial factory none⟩ with
      records := c.records ++ [⟨c.nextSerial, d.name, 0⟩]
      nextSerial := c.nextSerial + 1 }

def declareEvents (c : Containers) (level : Nat) (d : Declaration) : List LogEvent :=
  let announcement : LogEvent :=
    match d.supply with
    | .ready type _ =>
      .trace "Registering bean instance" [("bean", .text d.name), ("bean_type", .text type.name)]
    | .lazy _ _ => .trace "Registering lazy bean" [("bean", .text d.name)]
  [announcement, .debug "Bean registered in container"
    [("bean", .text d.name), ("bean_count", .number ((c.declare level d).size level))]]

def remove (c : Containers) (level : Nat) (name : String) : Containers :=
  c.setLayer level fun l => Assoc.remove l name

/-! ### Reading -/

/-- Names in order of declaration, followed by those of the later containers that are new. -/
def namesFrom : List Layer → List String
  | [] => []
  | l :: parents => Assoc.keys l ++ (namesFrom parents).filter fun n => !(Assoc.keys l).contains n

def names (c : Containers) (level : Nat) (ancestors : Bool) : List String :=
  if ancestors then namesFrom (c.layers.drop level) else Assoc.keys (c.layer level)

def locateFrom? (name : String) (level : Nat) : List Layer → Option (Nat × Definition)
  | [] => none
  | l :: parents =>
    match Assoc.find? l name with
    | some d => some (level, d)
    | none => locateFrom? name (level + 1) parents

def locate? (c : Containers) (level : Nat) (name : String) : Option (Nat × Definition) :=
  locateFrom? name level (c.layers.drop level)

/-- The type of a bean, as far as it is known without creating the bean. -/
def typeOf (c : Containers) (level : Nat) (name : String) : Except DispatchError BeanType :=
  match c.locate? level name with
  | none => .error (.beanNotFound name)
  | some (_, d) =>
    match d.type? with
    | some type => .ok type
    | none => .error (.unresolvableType name)

def callsOf (c : Containers) (serial : Nat) : Nat :=
  ((c.records.find? fun r => r.serial = serial).map (·.calls)).getD 0

def countCall (c : Containers) (serial : Nat) : Containers :=
  { c with records := c.records.map fun r =>
      if r.serial = serial then { r with calls := r.calls + 1 } else r }

/-- Asking for `name` calls a factory. -/
def createsBean (c : Containers) (level : Nat) (name : String) : Bool :=
  match c.locate? level name with
  | some (_, ⟨_, .lazy _ _ none⟩) => true
  | _ => false

def bean (c : Containers) (level : Nat) (name : String) :
    Except DispatchError Bean × Containers :=
  match c.locate? level name with
  | none => (.error (.beanNotFound name), c)
  | some (owner, d) =>
    match d.slot with
    | .ready b => (.ok b, c)
    | .lazy _ _ (some b) => (.ok b, c)
    | .lazy serial factory none =>
      let called := c.countCall serial
      match factory (called.callsOf serial) with
      | .error e => (.error (.beanCreation name e.message), called)
      | .ok label =>
        let b := Bean.created called.nextSerial label
        (.ok b, { called.setLayer owner fun l =>
            Assoc.put l name { d with slot := .lazy serial factory (some b) } with
          nextSerial := called.nextSerial + 1 })

def beanEvents (c : Containers) (level : Nat) (name : String) : List LogEvent :=
  if c.createsBean level name then
    [.debug "Creating lazy bean" [("bean", .text name)]]
  else []

/-- For every name that ever was declared lazily, the calls to its latest factory. -/
def factoryCalls (c : Containers) : List (String × Nat) :=
  Assoc.ofList (c.records.map fun r => (r.name, r.calls))

end Containers

end RequestDispatch
