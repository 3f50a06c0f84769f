import RequestDispatch.Log.Event
import RequestDispatch.Text.Case
import RequestDispatch.Text.Quoted

/-!
# The setup of logging

Which events are written, in which form and where to. The setup is a plain value.
-/
namespace RequestDispatch

namespace LogLevel

def parse? (s : String) : Option LogLevel :=
  match Text.toLower s with
  | "trace" => some trace
  | "debug" => some debug
  | "info" => some info
  | "warn" | "warning" => some warn
  | "error" => some error
  | _ => none

def word : LogLevel → String
  | trace => "trace"
  | debug => "debug"
  | info => "info"
  | warn => "warn"
  | error => "error"

end LogLevel

inductive LogFormat where
  | json | plain | pretty | compact
  deriving DecidableEq, Repr

def LogFormat.text : LogFormat → String
  | json => "Json"
  | plain => "Plain"
  | pretty => "Pretty"
  | compact => "Compact"

inductive LogOutput where
  | stdout
  | stderr
  | file (path : String)
  /-- A new file in the directory every day. -/
  | rolling (directory namePrefix : String)
  deriving DecidableEq, Repr

def LogOutput.text : LogOutput → String
  | stdout => "Stdout"
  | stderr => "Stderr"
  | file path => "File(" ++ Text.quoted path ++ ")"
  | rolling directory front =>
    Text.rendered "RollingFile" [("directory", Text.quoted directory), ("prefix", Text.quoted front)]

structure LogSetup where
  level : LogLevel := .info
  format : LogFormat := .json
  output : LogOutput := .stdout
  targets : Bool := true
  threadIds : Bool := false
  spans : Bool := false
  colors : Bool := false
  /-- Takes the place of the level. -/
  filter? : Option String := none
  deriving DecidableEq, Repr

end RequestDispatch
