import RequestDispatch.Config.Error
import RequestDispatch.Text.Blank
import RequestDispatch.Text.Split

/-!
# Rules for settings

Each rule passes or names the setting that breaks it.
-/
namespace RequestDispatch.Rule

abbrev Checked := Except ConfigError Unit

def require (holds : Bool) (violation : Violation) : Checked :=
  if holds then .ok () else .error (.invalid violation)

theorem require_eq_ok_iff {holds : Bool} {violation : Violation} :
    require holds violation = .ok () ↔ holds = true := by
  cases holds <;> simp [require]

def notEmpty (value field : String) : Checked :=
  require (!(Text.trim value.toList).isEmpty) (.empty field)

def inRange (value low high : Int) (field : String) : Checked :=
  require (low ≤ value && value ≤ high)
    (.outOfRange field (toString low) (toString high) (toString value))

def inTextRange (value low high : String) (field : String) : Checked :=
  require (!(value < low) && !(high < value)) (.outOfRange field low high value)

def oneOf (value : String) (allowed : List String) (field : String) : Checked :=
  require (allowed.contains value) (.notAllowed field allowed value)

def rooted (pattern field : String) : Checked :=
  require (Text.startsWithText "/" pattern) (.notRooted field pattern)

def isOrigin (origin : String) : Bool :=
  origin = "*" || Text.startsWithText "http://" origin || Text.startsWithText "https://" origin

def origin (value field : String) : Checked :=
  require (isOrigin value) (.notOrigin field value)

end RequestDispatch.Rule
