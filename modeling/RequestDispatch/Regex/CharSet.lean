import RequestDispatch.Text.Blank
import RequestDispatch.Text.Case
import RequestDispatch.Text.Script

/-!
# Sets of characters

The sets that a regular expression can name, as expressions with a membership test.
-/
namespace RequestDispatch.Regex

inductive CharSet where
  | none
  | range (first last : Char)
  | digit
  | blank
  | word
  | category (members : List Text.Category)
  | alphabetic
  | lowercase
  | uppercase
  | caseIgnorable
  | cased
  | graphemeExtend
  | script (code : String)
  | union (a b : CharSet)
  | inter (a b : CharSet)
  | diff (a b : CharSet)
  | compl (a : CharSet)
  /-- All characters that differ from a member only by case. -/
  | folded (a : CharSet)
  /-- The same for the case of ASCII letters only. -/
  | asciiFolded (a : CharSet)
  deriving DecidableEq, Repr

namespace CharSet

def single (c : Char) : CharSet := .range c c

def ofRanges (ranges : List (Char × Char)) : CharSet :=
  ranges.foldl (fun s r => .union s (.range r.1 r.2)) .none

def any : CharSet := .compl .none

def ascii : CharSet := .range (Char.ofNat 0) (Char.ofNat 0x7F)

def notNewline : CharSet := .compl (.single '\n')

def symDiff (a b : CharSet) : CharSet :=
  .union (.diff a b) (.diff b a)

def swapAsciiCase (c : Char) : Char :=
  if c.isUpper then c.toLower else c.toUpper

def contains : CharSet → Char → Bool
  | none, _ => false
  | range first last, c => first ≤ c && c ≤ last
  | digit, c => Text.isDecimalDigit c
  | blank, c => Text.isBlank c
  | word, c => Text.isWordChar c
  | category members, c => members.contains (Text.category c)
  | alphabetic, c => Text.isAlphabetic c
  | lowercase, c => Text.isLowercase c
  | uppercase, c => Text.isUppercase c
  | caseIgnorable, c => Text.isCaseIgnorable c
  | cased, c => Text.isCased c
  | graphemeExtend, c => Text.isGraphemeExtend c
  | script code, c => Text.scriptCode c = code
  | union a b, c => a.contains c || b.contains c
  | inter a b, c => a.contains c && b.contains c
  | diff a b, c => a.contains c && !b.contains c
  | compl a, c => !a.contains c
  | folded a, c => (Text.caseOrbit c).any a.contains
  | asciiFolded a, c => a.contains c || (c.isAlpha && a.contains (swapAsciiCase c))

/-- About how many ranges it takes to list the set. -/
def rangeCount : CharSet → Nat
  | none => 0
  | range first last => if last.toNat < 128 then 1 else if first = last then 1 else 3
  | digit => 71
  | blank => 10
  | word => 770
  | category members => members.length * 150
  | alphabetic => 740
  | lowercase => 670
  | uppercase => 650
  | caseIgnorable => 440
  | cased => 160
  | graphemeExtend => 370
  | script _ => 20
  | union a b => a.rangeCount + b.rangeCount
  | inter a b => min a.rangeCount b.rangeCount
  | diff a b => a.rangeCount + b.rangeCount
  | compl a => a.rangeCount + 4
  | folded a => 2 * a.rangeCount
  | asciiFolded a => 2 * a.rangeCount

end CharSet

end RequestDispatch.Regex
