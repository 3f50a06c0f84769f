import RequestDispatch.Text.Runs

/-!
# Percent escapes

An escape is a percent sign and two hexadecimal digits, and stands for one byte. What looks
otherwise stays as it is. The decoded bytes have to be UTF-8 as a whole.
-/
namespace RequestDispatch.Text

def escapedByte? (high low : UInt8) : Option UInt8 :=
  let digit? (b : UInt8) : Option UInt8 :=
    if 48 ≤ b ∧ b ≤ 57 then some (b - 48)
    else if 65 ≤ b ∧ b ≤ 70 then some (b - 55)
    else if 97 ≤ b ∧ b ≤ 102 then some (b - 87)
    else none
  match digit? high, digit? low with
  | some h, some l => some (16 * h + l)
  | _, _ => none

def decodeBytes : List UInt8 → List UInt8
  | [] => []
  | 37 :: high :: low :: rest =>
    match escapedByte? high low with
    | some byte => byte :: decodeBytes rest
    | none => 37 :: decodeBytes (high :: low :: rest)
  | byte :: rest => byte :: decodeBytes rest

/-- The decoded text, if the decoded bytes are UTF-8. -/
def percentDecode? (s : String) : Option String :=
  if s.toList.contains '%' then
    String.fromUTF8? ⟨(decodeBytes s.toUTF8.toList).toArray⟩
  else some s

end RequestDispatch.Text
