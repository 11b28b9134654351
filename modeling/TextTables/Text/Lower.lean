import TextTables.Text.Letters

/-!
# The lower case of a text

Full Unicode lower case, character by character, with two rules that are not a
table of letters: the capital `İ` becomes two characters, and the capital `Σ` at
the end of a word becomes `ς`.
-/

namespace TextTables.Text

/-- The lower case of one character, wherever it stands. -/
def lowerChar (c : Char) : List Char :=
  if c.toNat.blt 0x80 then [c.toLower]
  else if c == 'İ' then ['i', '\u0307']
  else
    match capitalRuns.find? fun run => run.holds c.toNat with
    | some run => [Char.ofNat (Int.ofNat c.toNat + run.shift).toNat]
    | none => [c]

/-- Whether a letter with a case comes next, past the marks that do not count. -/
def meetsCased (cs : List Char) : Bool :=
  match cs.dropWhile (inRanges caseIgnorableRanges) with
  | c :: _ => inRanges casedRanges c
  | [] => false

/-- The lower case of `Σ` between the characters before it, nearest first, and
those after it: `ς` exactly at the end of a word. -/
def lowerSigma (before after : List Char) : Char :=
  if meetsCased before && !meetsCased after then 'ς' else 'σ'

/-- The lower case of the characters that follow `before`, which is given
nearest first. -/
def lowerAfter (before : List Char) : List Char → List Char
  | [] => []
  | c :: rest =>
    if c == 'Σ' then
      lowerSigma before rest :: lowerAfter (c :: before) rest
    else
      lowerChar c ++ lowerAfter (c :: before) rest

/-- The lower case of a text. -/
def lower (s : String) : String :=
  String.ofList (lowerAfter [] s.toList)

@[simp] theorem toList_lower (s : String) :
    (lower s).toList = lowerAfter [] s.toList := by
  simp [lower]

example : lower "ΟΔΟΣ" = "οδος" := by decide +kernel
example : lower "ΣΑΣ'Σ" = "σασ'ς" := by decide +kernel
example : lower "Ångström İ" = "ångström i\u0307" := by decide +kernel

end TextTables.Text
