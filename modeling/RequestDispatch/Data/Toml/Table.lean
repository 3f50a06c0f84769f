import RequestDispatch.Assoc
import RequestDispatch.Data.Toml.Quoted
import RequestDispatch.Data.Value

/-!
# Tables and how they come about

A table is opened by its own header, on the way to another table, or by a dotted key. Each table
has one header and each key one value; a dotted key extends only tables that dotted keys opened,
and a table between braces is never extended.
-/
namespace RequestDispatch.Toml

inductive Opening where
  | header
  /-- On the way of a header to a table inside it. -/
  | passage
  | dotted
  deriving DecidableEq, Repr

inductive Node where
  | leaf (v : Value)
  | table (opening : Opening) (entries : List (String × Node))
  /-- A list of tables; only the last one is still extended. -/
  | tables (earlier : List Value) (last : List (String × Node))
  deriving Inhabited

abbrev Entries := List (String × Node)

mutual

def Node.toValue : Node → Value
  | .leaf v => v
  | .table _ entries => .object (fieldValues entries)
  | .tables earlier last => .list (earlier ++ [.object (fieldValues last)])

def fieldValues : List (String × Node) → List (String × Value)
  | [] => []
  | (key, node) :: rest => Value.putField (fieldValues rest) key node.toValue

end

/-- Gives a key its value. The tables of its path are opened where they are missing; the innermost
one must have been opened by a dotted key. -/
def assign : (path : List String) → (name : String) → Value → Entries → Option Entries
  | [], name, v, entries =>
    if Assoc.contains entries name then none else some (Assoc.put entries name (.leaf v))
  | key :: path, name, v, entries =>
    match Assoc.find? entries key with
    | none => (assign path name v []).map fun sub => Assoc.put entries key (.table .dotted sub)
    | some (.table opening sub) =>
      if opening = .dotted || (opening = .passage && path ≠ []) then
        (assign path name v sub).map fun sub => Assoc.put entries key (.table opening sub)
      else none
    | some _ => none

def assignAll (assignments : List (Key × Value)) (entries : Entries) : Option Entries :=
  assignments.foldlM (fun es (k, v) => assign k.path k.name v es) entries

/-- Changes the table at the end of a path, which leads through the last table of a list. -/
def within (change : Entries → Option Entries) : (path : List String) → Entries → Option Entries
  | [], entries => change entries
  | key :: path, entries =>
    match Assoc.find? entries key with
    | none => (within change path []).map fun sub => Assoc.put entries key (.table .passage sub)
    | some (.table opening sub) =>
      (within change path sub).map fun sub => Assoc.put entries key (.table opening sub)
    | some (.tables earlier last) =>
      (within change path last).map fun last => Assoc.put entries key (.tables earlier last)
    | some (.leaf _) => none

structure Section where
  key : Key
  /-- The header adds a table to a list of tables. -/
  listed : Bool
  assignments : List (Key × Value)

def Section.place (s : Section) (root : Entries) : Option Entries :=
  within (fun parent =>
    let put (node : Node) : Entries := Assoc.put parent s.key.name node
    match s.listed, Assoc.find? parent s.key.name with
    | false, none => (assignAll s.assignments []).map fun es => put (.table .header es)
    | false, some (.table .passage sub) =>
      (assignAll s.assignments sub).map fun es => put (.table .header es)
    | true, none => (assignAll s.assignments []).map fun es => put (.tables [] es)
    | true, some (.tables earlier last) =>
      (assignAll s.assignments []).map fun es =>
        put (.tables (earlier ++ [.object (fieldValues last)]) es)
    | _, _ => none) s.key.path root

def document? (top : List (Key × Value)) (sections : List Section) : Option Value := do
  let root ← assignAll top []
  let root ← sections.foldlM (fun root s => s.place root) root
  return .object (fieldValues root)

end RequestDispatch.Toml
