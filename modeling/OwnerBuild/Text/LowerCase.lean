/-
# OwnerBuild.Text.LowerCase -- lower-casing a text

Lower-casing goes by character but for two rules. The dotted capital I becomes
two characters. The Greek capital sigma becomes the final form at the end of a
word: when, passing over characters that do not count, a cased letter stands
before it and none follows. The second rule needs what was read before, so the
walk carries the part of the text already passed.
-/

import OwnerBuild.Text.CaseTable

namespace OwnerBuild.Text

/-- A letter with a case, among the characters that are not passed over. -/
def isCased (c : Char) : Bool := inRanges casedRanges c.toNat

/-- A character that a search for a neighbouring letter passes over. -/
def isCaseIgnorable (c : Char) : Bool := inRanges caseIgnorableRanges c.toNat

/-- Whether the first character that counts is a cased letter. -/
def startsCased (s : List Char) : Bool :=
  match s.dropWhile isCaseIgnorable with
  | [] => false
  | c :: _ => isCased c

/-- The small letters of one character, wherever it stands. -/
def lowerChar (c : Char) : List Char :=
  if c.toNat < 0x80 then [c.toLower]
  else if c.toNat == 0x130 then ['i', '\u0307']
  else match lowerRuns.find? (·.covers c.toNat) with
    | none => [c]
    | some run => [Char.ofNat ((c.toNat : Int) + run.distance).toNat]

/-- Lower-cases a text that follows the reversed text `before`. -/
def lowerAfter (before : List Char) : List Char → List Char
  | [] => []
  | c :: rest =>
    (if c == 'Σ' then [if startsCased before && !startsCased rest then 'ς' else 'σ']
      else lowerChar c) ++ lowerAfter (c :: before) rest

/-- A text in small letters. -/
def lower (s : List Char) : List Char := lowerAfter [] s

/-- A string in small letters. -/
def lowerString (s : String) : String := String.ofList (lower s.toList)

example : lower ".RS".toList = ".rs".toList := by decide +kernel
example : lower "ΟΔΟΣ Σ".toList = "οδος σ".toList := by decide +kernel

end OwnerBuild.Text
