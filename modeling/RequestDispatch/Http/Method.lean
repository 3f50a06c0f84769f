import RequestDispatch.Text.Case

/-!
# Request methods

The methods that routes can name. Reading a name ignores case in the sense of full upper-casing.
-/
namespace RequestDispatch

inductive Method where
  | get | post | put | delete | patch | head | options
  deriving DecidableEq, Repr

namespace Method

def all : List Method :=
  [get, post, put, delete, patch, head, options]

def name : Method → String
  | get => "GET"
  | post => "POST"
  | put => "PUT"
  | delete => "DELETE"
  | patch => "PATCH"
  | head => "HEAD"
  | options => "OPTIONS"

def ofName? (s : String) : Option Method :=
  all.find? fun m => m.name = s

theorem ofName?_name (m : Method) : ofName? m.name = some m := by
  cases m <;> decide

theorem name_of_ofName? {s : String} {m : Method} (h : ofName? s = some m) : m.name = s := by
  simpa using List.find?_some h

def parse? (s : String) : Option Method :=
  ofName? (Text.toUpper s)

theorem parse?_of_sameIgnoringAsciiCase {s : String} {m : Method}
    (h : Text.sameIgnoringAsciiCase s m.name = true) : parse? s = some m := by
  have hcapitals : m.name.toList.all Char.isUpper = true := by cases m <;> decide +kernel
  rw [parse?, Text.toUpper_of_sameIgnoringAsciiCase (List.all_eq_true.1 hcapitals) h, ofName?_name]

/-- The place in the order GET, POST, PUT, DELETE, PATCH, HEAD, OPTIONS. -/
def rank : Method → Nat
  | get => 0 | post => 1 | put => 2 | delete => 3 | patch => 4 | head => 5 | options => 6

def sortUnique (methods : List Method) : List Method :=
  all.filter fun m => methods.contains m

def sort (methods : List Method) : List Method :=
  methods.mergeSort fun a b => a.rank ≤ b.rank

end Method

end RequestDispatch
