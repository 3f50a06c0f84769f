import RequestDispatch.Text.Case.Table
import RequestDispatch.Text.Category

/-!
# Letter case

Full upper and lower case of a text, the simple case folding of a character, and comparison that
ignores the case of ASCII letters only.
-/
namespace RequestDispatch.Text

def CaseRun.map? (run : CaseRun) (n : Nat) : Option Nat :=
  if run.first ≤ n ∧ n ≤ run.last ∧ (n - run.first) % run.stride = 0 then
    some (run.target + (n - run.first))
  else none

def CaseRun.source? (run : CaseRun) (n : Nat) : Option Nat :=
  if run.target ≤ n ∧ n - run.target ≤ run.last - run.first ∧ (n - run.target) % run.stride = 0 then
    some (run.first + (n - run.target))
  else none

def mapCase (runs : List CaseRun) (c : Char) : Char :=
  match runs.findSome? fun run => run.map? c.toNat with
  | some n => Char.ofNat n
  | none => c

def lowerChar (c : Char) : List Char :=
  if c.toNat < 128 then [c.toLower]
  else if c.toNat = 0x130 then ['i', Char.ofNat 0x307]
  else [mapCase lowerRuns c]

def upperChar (c : Char) : List Char :=
  if c.toNat < 128 then [c.toUpper]
  else
    match upperExpansions.find? fun e => e.1 = c.toNat with
    | some (_, image) => image.map Char.ofNat
    | none => [mapCase upperRuns c]

/-- A cased character comes next, after any that case ignores. -/
def leadsToCased (s : List Char) : Bool :=
  match s.dropWhile isCaseIgnorable with
  | c :: _ => isCased c
  | [] => false

/-- A capital sigma that ends a word becomes a final sigma. `inWord` says that a cased character
stands before, after any that case ignores. -/
def lowerFrom (inWord : Bool) : List Char → List Char
  | [] => []
  | c :: rest =>
    let image :=
      if c.toNat = 0x3A3 then
        [Char.ofNat (if inWord && !leadsToCased rest then 0x3C2 else 0x3C3)]
      else lowerChar c
    image ++ lowerFrom (if isCaseIgnorable c then inWord else isCased c) rest

def toLower (s : String) : String :=
  String.ofList (lowerFrom false s.toList)

def toUpper (s : String) : String :=
  String.ofList (s.toList.flatMap upperChar)

def foldChar (c : Char) : Char :=
  mapCase foldRuns c

def caseOrbit (c : Char) : List Char :=
  let base := foldChar c
  base :: foldRuns.filterMap fun run => (run.source? base.toNat).map Char.ofNat

def sameIgnoringAsciiCase (s t : String) : Bool :=
  s.toList.map Char.toLower = t.toList.map Char.toLower

/-! ### ASCII letters -/

theorem toNat_toLower (c : Char) :
    c.toLower.toNat = if 65 ≤ c.toNat ∧ c.toNat ≤ 90 then c.toNat + 32 else c.toNat := by
  have hcapital : c.val ≥ 'A'.val ∧ c.val ≤ 'Z'.val ↔ 65 ≤ c.toNat ∧ c.toNat ≤ 90 := Iff.rfl
  unfold Char.toLower
  by_cases h : c.val ≥ 'A'.val ∧ c.val ≤ 'Z'.val
  · have hrange := hcapital.1 h
    have hsum : (c.val + 32).toNat = (c.toNat + 32) % 2 ^ 32 := UInt32.toNat_add c.val 32
    rw [dif_pos h, if_pos hrange]
    change (c.val + 32).toNat = c.toNat + 32
    omega
  · rw [dif_neg h, if_neg (mt hcapital.2 h)]

theorem toNat_toUpper (c : Char) :
    c.toUpper.toNat = if 97 ≤ c.toNat ∧ c.toNat ≤ 122 then c.toNat - 32 else c.toNat := by
  have hsmall : 'a'.val ≤ c.val ∧ c.val ≤ 'z'.val ↔ 97 ≤ c.toNat ∧ c.toNat ≤ 122 := Iff.rfl
  unfold Char.toUpper
  by_cases h : 'a'.val ≤ c.val ∧ c.val ≤ 'z'.val
  · have hrange := hsmall.1 h
    -- the case bit is taken off by adding its complement
    have hsum : (c.val + 4294967264).toNat = (c.toNat + 4294967264) % 2 ^ 32 :=
      UInt32.toNat_add c.val 4294967264
    rw [dif_pos h, if_pos hrange]
    change (c.val + 4294967264).toNat = c.toNat - 32
    omega
  · rw [dif_neg h, if_neg (mt hsmall.2 h)]

theorem toLower_toUpper (c : Char) : c.toUpper.toLower = c.toLower := by
  rw [← Char.toNat_inj, toNat_toLower, toNat_toLower, toNat_toUpper]
  repeat' split
  all_goals omega

theorem toLower_toLower (c : Char) : c.toLower.toLower = c.toLower := by
  rw [← Char.toNat_inj, toNat_toLower, toNat_toLower]
  repeat' split
  all_goals omega

theorem toLower_eq_iff_of_beyond {c d : Char} (hc : 128 ≤ c.toNat) : d.toLower = c ↔ d = c := by
  rw [← Char.toNat_inj, ← Char.toNat_inj, toNat_toLower]
  split <;> omega

theorem toNat_ofNat_cases (n : Nat) : (Char.ofNat n).toNat = n ∨ (Char.ofNat n).toNat = 0 := by
  by_cases hvalid : n.isValidChar
  · rw [Char.ofNat, dif_pos hvalid]
    exact .inl rfl
  · rw [Char.ofNat, dif_neg hvalid]
    exact .inr rfl

theorem upperChar_of_toLower {c d : Char} (hd : d.isUpper = true) (h : c.toLower = d.toLower) :
    upperChar c = [d] := by
  have hcapital : 65 ≤ d.toNat ∧ d.toNat ≤ 90 := of_decide_eq_true hd
  have hnat : c.toLower.toNat = d.toLower.toNat := congrArg Char.toNat h
  rw [toNat_toLower, toNat_toLower, if_pos hcapital] at hnat
  have hascii : c.toNat < 128 := by
    split at hnat <;> omega
  have hupper : c.toUpper = d := by
    rw [← Char.toNat_inj, toNat_toUpper]
    split at hnat <;> split <;> omega
  rw [upperChar, if_pos hascii, hupper]

theorem flatMap_upperChar {cs ds : List Char} (hds : ∀ d ∈ ds, d.isUpper = true)
    (h : cs.map Char.toLower = ds.map Char.toLower) : cs.flatMap upperChar = ds := by
  induction cs generalizing ds with
  | nil =>
    cases ds with
    | nil => rfl
    | cons d ds => cases h
  | cons c cs ih =>
    cases ds with
    | nil => cases h
    | cons d ds =>
      obtain ⟨hfirst, hrest⟩ := List.cons.inj h
      rw [List.flatMap_cons, upperChar_of_toLower (hds d List.mem_cons_self) hfirst,
        ih (fun a ha => hds a (List.mem_cons_of_mem d ha)) hrest]
      rfl

theorem toUpper_of_sameIgnoringAsciiCase {s t : String} (ht : ∀ c ∈ t.toList, c.isUpper = true)
    (h : sameIgnoringAsciiCase s t = true) : toUpper s = t := by
  rw [toUpper, flatMap_upperChar ht (of_decide_eq_true h), String.ofList_toList]

end RequestDispatch.Text
