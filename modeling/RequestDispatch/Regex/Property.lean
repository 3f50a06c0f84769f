import RequestDispatch.Regex.CharSet

/-!
# Property names

The sets that `\\p` names: general categories and their groups, scripts, and a few properties.
Names are compared without case, blanks, underscores and hyphens, and without a leading `is`.
-/
namespace RequestDispatch.Regex

open Text (Category)

def normalizeName (name : List Char) : List Char :=
  let lowered := name.map Char.toLower
  let body := match lowered with
    | 'i' :: 's' :: rest => rest
    | all => all
  let kept := body.filter fun c => c ≠ ' ' && c ≠ '_' && c ≠ '-' && c.toNat < 128
  if kept = ['c'] ∧ lowered.length ≠ 1 ∧ body.length ≠ lowered.length then "isc".toList else kept

/-- Each category or group of categories with its short and long names. -/
def categoryNames : List (List String × List Category) := [
  (["lu", "uppercaseletter"], [.Lu]),
  (["ll", "lowercaseletter"], [.Ll]),
  (["lt", "titlecaseletter"], [.Lt]),
  (["lc", "casedletter"], [.Lu, .Ll, .Lt]),
  (["lm", "modifierletter"], [.Lm]),
  (["lo", "otherletter"], [.Lo]),
  (["l", "letter"], [.Lu, .Ll, .Lt, .Lm, .Lo]),
  (["mn", "nonspacingmark"], [.Mn]),
  (["mc", "spacingmark"], [.Mc]),
  (["me", "enclosingmark"], [.Me]),
  (["m", "mark", "combiningmark"], [.Mn, .Mc, .Me]),
  (["nd", "decimalnumber", "digit"], [.Nd]),
  (["nl", "letternumber"], [.Nl]),
  (["no", "othernumber"], [.No]),
  (["n", "number"], [.Nd, .Nl, .No]),
  (["pc", "connectorpunctuation"], [.Pc]),
  (["pd", "dashpunctuation"], [.Pd]),
  (["ps", "openpunctuation"], [.Ps]),
  (["pe", "closepunctuation"], [.Pe]),
  (["pi", "initialpunctuation"], [.Pi]),
  (["pf", "finalpunctuation"], [.Pf]),
  (["po", "otherpunctuation"], [.Po]),
  (["p", "punctuation", "punct"], [.Pc, .Pd, .Ps, .Pe, .Pi, .Pf, .Po]),
  (["sm", "mathsymbol"], [.Sm]),
  (["sc", "currencysymbol"], [.Sc]),
  (["sk", "modifiersymbol"], [.Sk]),
  (["so", "othersymbol"], [.So]),
  (["s", "symbol"], [.Sm, .Sc, .Sk, .So]),
  (["zs", "spaceseparator"], [.Zs]),
  (["zl", "lineseparator"], [.Zl]),
  (["zp", "paragraphseparator"], [.Zp]),
  (["z", "separator"], [.Zs, .Zl, .Zp]),
  (["cc", "control", "cntrl"], [.Cc]),
  (["cf", "format"], [.Cf]),
  (["co", "privateuse"], [.Co]),
  (["cn", "unassigned"], [.Cn]),
  (["c", "other"], [.Cc, .Cf, .Cs, .Co, .Cn])]

def categorySet? (name : List Char) : Option CharSet :=
  let text := String.ofList name
  if text = "any" then some .any
  else if text = "assigned" then some (.compl (.category [.Cn]))
  else if text = "ascii" then some .ascii
  else (categoryNames.find? fun e => e.1.contains text).map fun e => .category e.2

def propertySet? (name : List Char) : Option CharSet :=
  match String.ofList name with
  | "alphabetic" | "alpha" => some .alphabetic
  | "lowercase" | "lower" => some .lowercase
  | "uppercase" | "upper" => some .uppercase
  | "whitespace" | "wspace" | "space" => some .blank
  | "caseignorable" | "ci" => some .caseIgnorable
  | "cased" => some .cased
  | "graphemeextend" | "grext" => some .graphemeExtend
  | "joincontrol" | "joinc" => some (.range (Char.ofNat 0x200C) (Char.ofNat 0x200D))
  | _ => none

def scriptSet? (name : List Char) : Option CharSet :=
  (Text.scriptNames.find? fun e =>
    normalizeName e.1.toList = name || normalizeName e.2.toList = name).map fun e => .script e.1

def namedSet? (name : List Char) : Option CharSet :=
  let normal := normalizeName name
  (propertySet? normal).or ((categorySet? normal).or (scriptSet? normal))

def valuedSet? (property value : List Char) : Option CharSet :=
  match String.ofList (normalizeName property) with
  | "generalcategory" | "gc" => categorySet? (normalizeName value)
  | "script" | "sc" | "scriptextensions" | "scx" => scriptSet? (normalizeName value)
  | _ => none

def asciiClass? (name : List Char) : Option CharSet :=
  let ranges? : Option (List (Char × Char)) :=
    match String.ofList name with
    | "alnum" => some [('0', '9'), ('A', 'Z'), ('a', 'z')]
    | "alpha" => some [('A', 'Z'), ('a', 'z')]
    | "ascii" => some [('\x00', '\x7F')]
    | "blank" => some [('\t', '\t'), (' ', ' ')]
    | "cntrl" => some [('\x00', '\x1F'), ('\x7F', '\x7F')]
    | "digit" => some [('0', '9')]
    | "graph" => some [('!', '~')]
    | "lower" => some [('a', 'z')]
    | "print" => some [(' ', '~')]
    | "punct" => some [('!', '/'), (':', '@'), ('[', '\x60'), ('\x7b', '~')]
    | "space" => some [('\t', '\r'), (' ', ' ')]
    | "upper" => some [('A', 'Z')]
    | "word" => some [('0', '9'), ('A', 'Z'), ('_', '_'), ('a', 'z')]
    | "xdigit" => some [('0', '9'), ('A', 'F'), ('a', 'f')]
    | _ => none
  ranges?.map CharSet.ofRanges

end RequestDispatch.Regex
