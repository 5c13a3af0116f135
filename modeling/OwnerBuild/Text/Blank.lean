/-
# OwnerBuild.Text.Blank -- blank characters, line breaks and trimming

The characters that count as blank when the lines of a program's output are
trimmed, and those of them that end a line. Both are finite sets taken from the
Unicode white-space property, extended by the four separators U+001C to U+001F;
U+200B, U+180E and U+FEFF are not blank. Texts are lists of characters here;
strings appear only where a value of the library is stored.
-/

namespace OwnerBuild.Text

/-! ## Classes of characters -/

/-- The characters that end a line. A carriage return directly before a line
feed forms one break with it; that rule belongs to `lines`. -/
def isLineBreak (c : Char) : Bool :=
  (0x0a ≤ c.toNat && c.toNat ≤ 0x0d) || (0x1c ≤ c.toNat && c.toNat ≤ 0x1e) ||
    c.toNat == 0x85 || c.toNat == 0x2028 || c.toNat == 0x2029

/-- White space as a Unicode property, without the four separators. -/
def isSpaceProperty (c : Char) : Bool :=
  (0x09 ≤ c.toNat && c.toNat ≤ 0x0d) || c.toNat == 0x20 || c.toNat == 0x85 ||
    c.toNat == 0xa0 || c.toNat == 0x1680 || (0x2000 ≤ c.toNat && c.toNat ≤ 0x200a) ||
    c.toNat == 0x2028 || c.toNat == 0x2029 || c.toNat == 0x202f || c.toNat == 0x205f ||
    c.toNat == 0x3000

/-- The characters that trimming a line removes. -/
def isBlank (c : Char) : Bool :=
  isSpaceProperty c || (0x1c ≤ c.toNat && c.toNat ≤ 0x1f)

/-- Every line break is blank, so trimming a line never stops at a break. -/
theorem isBlank_of_isLineBreak {c : Char} (h : isLineBreak c = true) : isBlank c = true := by
  simp only [isLineBreak, isBlank, isSpaceProperty, Bool.or_eq_true, Bool.and_eq_true,
    decide_eq_true_eq, beq_iff_eq] at h ⊢
  omega

/-! ## Trimming -/

/-- Drops the leading characters of a class. -/
def trimStartWhere (p : Char → Bool) (s : List Char) : List Char := s.dropWhile p

/-- Drops the trailing characters of a class. -/
def trimEndWhere (p : Char → Bool) (s : List Char) : List Char := (s.reverse.dropWhile p).reverse

/-- Drops the characters of a class at both ends. -/
def trimWhere (p : Char → Bool) (s : List Char) : List Char :=
  trimEndWhere p (trimStartWhere p s)

/-- Drops leading blanks. -/
def trimStart (s : List Char) : List Char := trimStartWhere isBlank s

/-- Drops blanks at both ends. -/
def trim (s : List Char) : List Char := trimWhere isBlank s

end OwnerBuild.Text
