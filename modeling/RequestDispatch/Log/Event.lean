/-!
# Log events

What an operation reports while it works. Events are returned, never written anywhere.
-/
namespace RequestDispatch

inductive LogLevel where
  | trace | debug | info | warn | error
  deriving DecidableEq, Repr

inductive LogField where
  | number (n : Nat)
  | text (s : String)
  deriving DecidableEq, Repr

structure LogEvent where
  level : LogLevel
  message : String
  fields : List (String × LogField)
  deriving DecidableEq, Repr

namespace LogEvent

def trace (message : String) (fields : List (String × LogField)) : LogEvent :=
  ⟨.trace, message, fields⟩

def debug (message : String) (fields : List (String × LogField)) : LogEvent :=
  ⟨.debug, message, fields⟩

def info (message : String) (fields : List (String × LogField)) : LogEvent :=
  ⟨.info, message, fields⟩

def error (message : String) (fields : List (String × LogField)) : LogEvent :=
  ⟨.error, message, fields⟩

end LogEvent

end RequestDispatch
