import RequestDispatch.Text.Runs
import RequestDispatch.Text.Script.Table

/-!
# Scripts

The script of a character by its four-letter code.
-/
namespace RequestDispatch.Text

def scriptRuns : TaggedRuns String :=
  .ofText id scriptText

def scriptCode (c : Char) : String :=
  (scriptRuns.find? c.toNat).getD "Zzzz"

end RequestDispatch.Text
