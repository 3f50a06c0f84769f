import RequestDispatch.Text.Runs
import RequestDispatch.Text.Category.Table
import RequestDispatch.Text.Property.Table

/-!
# Character classes

The general category of a character, and the properties that follow from it and from short
tables of further members.
-/
namespace RequestDispatch.Text

inductive Category where
  | Lu | Ll | Lt | Lm | Lo
  | Mn | Mc | Me
  | Nd | Nl | No
  | Pc | Pd | Ps | Pe | Pi | Pf | Po
  | Sm | Sc | Sk | So
  | Zs | Zl | Zp
  | Cc | Cf | Cs | Co | Cn
  deriving DecidableEq, Repr

namespace Category

def code : Category → String
  | Lu => "Lu" | Ll => "Ll" | Lt => "Lt" | Lm => "Lm" | Lo => "Lo"
  | Mn => "Mn" | Mc => "Mc" | Me => "Me"
  | Nd => "Nd" | Nl => "Nl" | No => "No"
  | Pc => "Pc" | Pd => "Pd" | Ps => "Ps" | Pe => "Pe" | Pi => "Pi" | Pf => "Pf" | Po => "Po"
  | Sm => "Sm" | Sc => "Sc" | Sk => "Sk" | So => "So"
  | Zs => "Zs" | Zl => "Zl" | Zp => "Zp"
  | Cc => "Cc" | Cf => "Cf" | Cs => "Cs" | Co => "Co" | Cn => "Cn"

def all : List Category :=
  [Lu, Ll, Lt, Lm, Lo, Mn, Mc, Me, Nd, Nl, No, Pc, Pd, Ps, Pe, Pi, Pf, Po, Sm, Sc, Sk, So,
    Zs, Zl, Zp, Cc, Cf, Cs, Co, Cn]

def ofCode (s : String) : Category :=
  (all.find? fun k => k.code = s).getD Cn

def isLetter (k : Category) : Bool :=
  [Lu, Ll, Lt, Lm, Lo].contains k

def isMark (k : Category) : Bool :=
  [Mn, Mc, Me].contains k

def isNumber (k : Category) : Bool :=
  [Nd, Nl, No].contains k

def isSeparator (k : Category) : Bool :=
  [Zs, Zl, Zp].contains k

def isOther (k : Category) : Bool :=
  [Cc, Cf, Cs, Co, Cn].contains k

end Category

def categoryRuns : TaggedRuns Category :=
  .ofText Category.ofCode categoryText

/-- The table is not needed for ASCII letters and digits. -/
def category (c : Char) : Category :=
  if c.isLower then .Ll
  else if c.isUpper then .Lu
  else if c.isDigit then .Nd
  else (categoryRuns.find? c.toNat).getD .Cn

theorem category_of_isLower {c : Char} (h : c.isLower = true) : category c = .Ll := by
  rw [category, if_pos h]

theorem category_of_isDigit {c : Char} (h : c.isDigit = true) : category c = .Nd := by
  have hdigit : c.val ≤ '9'.val := of_decide_eq_true (Bool.and_eq_true_iff.1 h).2
  have hlower : ¬(c.isLower = true) := by
    intro hlower
    have hle : 'a'.val ≤ c.val := of_decide_eq_true (Bool.and_eq_true_iff.1 hlower).1
    exact absurd (UInt32.le_trans hle hdigit) (by decide)
  have hupper : ¬(c.isUpper = true) := by
    intro hupper
    have hle : 'A'.val ≤ c.val := (of_decide_eq_true hupper).1
    exact absurd (UInt32.le_trans hle hdigit) (by decide)
  rw [category, if_neg hlower, if_neg hupper, if_pos h]

def otherGraphemeExtend : CodeRanges := .ofText otherGraphemeExtendText
def otherAlphabetic : CodeRanges := .ofText otherAlphabeticText
def otherLowercase : CodeRanges := .ofText otherLowercaseText
def otherUppercase : CodeRanges := .ofText otherUppercaseText
def otherCaseIgnorable : CodeRanges := .ofText otherCaseIgnorableText

def isGraphemeExtend (c : Char) : Bool :=
  [Category.Mn, .Me].contains (category c) || otherGraphemeExtend.contains c.toNat

def isAlphabetic (c : Char) : Bool :=
  (category c).isLetter || category c = .Nl || otherAlphabetic.contains c.toNat

def isNumeric (c : Char) : Bool :=
  (category c).isNumber

def isAlphanumeric (c : Char) : Bool :=
  isAlphabetic c || isNumeric c

def isLowercase (c : Char) : Bool :=
  category c = .Ll || otherLowercase.contains c.toNat

def isUppercase (c : Char) : Bool :=
  category c = .Lu || otherUppercase.contains c.toNat

def isCased (c : Char) : Bool :=
  isLowercase c || isUppercase c || category c = .Lt

def isCaseIgnorable (c : Char) : Bool :=
  [Category.Mn, .Me, .Cf, .Lm, .Sk].contains (category c) || otherCaseIgnorable.contains c.toNat

def isDecimalDigit (c : Char) : Bool :=
  category c = .Nd

/-- A character that words are made of: letters, marks, decimal digits, connectors and the two
join controls. -/
def isWordChar (c : Char) : Bool :=
  isAlphabetic c || (category c).isMark || category c = .Nd || category c = .Pc ||
    c.toNat = 0x200C || c.toNat = 0x200D

/-- A character that shows as itself in quoted text: no control, unassigned or separator
character other than the space. -/
def isPrintable (c : Char) : Bool :=
  c = ' ' || !((category c).isOther || (category c).isSeparator)

end RequestDispatch.Text
