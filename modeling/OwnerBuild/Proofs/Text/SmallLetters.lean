/-
# OwnerBuild.Proofs.Text.SmallLetters -- a text in small letters stays as it is

Lower-casing leaves no capital: no character that comes out of it is lower-cased to another one
(`isSmall_of_mem_lowerAfter`), so doing it a second time changes nothing (`lowerString_lowerString`).
For most characters this is a fact about the table, which moves whole runs of capitals by one
distance. No run is moved onto a capital: most pairs of runs are far apart, and where the moved run
and another one overlap the table is looked up point by point (`lowerRuns_clear`).

The final form of sigma depends on the characters around it, but both forms are small letters, so
nothing depends on them when the text is lower-cased again.
-/

import OwnerBuild.Text.LowerCase

namespace OwnerBuild.Text

namespace LowerRun

variable {run other : LowerRun} {n : Nat}

/-! ## Runs of capitals -/

/-- Where a run moves a code point. -/
def target (run : LowerRun) (n : Nat) : Nat := ((n : Int) + run.distance).toNat

/-- The code points of a run. -/
def codes (run : LowerRun) : List Nat :=
  (List.range ((run.last - run.first) / run.stride + 1)).map fun k => run.first + k * run.stride

/-- Whether a run moves no capital onto one of another run. -/
def clearOf (run other : LowerRun) : Bool :=
  Nat.blt (run.target run.last) other.first || Nat.blt other.last (run.target run.first) ||
    run.codes.all fun n => !other.covers (run.target n)

theorem covers_iff : run.covers n = true ↔
    run.first ≤ n ∧ n ≤ run.last ∧ (n - run.first) % run.stride = 0 := by
  simp [covers, and_assoc]

theorem mem_codes (h : run.covers n = true) : n ∈ run.codes := by
  obtain ⟨lower, upper, strides⟩ := covers_iff.mp h
  refine List.mem_map.mpr ⟨(n - run.first) / run.stride, ?_, ?_⟩
  · have within : (n - run.first) / run.stride ≤ (run.last - run.first) / run.stride :=
      Nat.div_le_div_right (Nat.sub_le_sub_right upper _)
    exact List.mem_range.mpr (Nat.lt_succ_of_le within)
  · have whole : (n - run.first) / run.stride * run.stride = n - run.first :=
      Nat.div_mul_cancel (Nat.dvd_of_mod_eq_zero strides)
    rw [whole]
    exact Nat.add_sub_cancel' lower

theorem not_covers_target (clear : run.clearOf other = true) (h : run.covers n = true) :
    other.covers (run.target n) = false := by
  obtain ⟨lower, upper, _⟩ := covers_iff.mp h
  -- a run is moved as a whole, so its ends bound where a code point of it goes
  have above : run.target run.first ≤ run.target n := by
    unfold target
    omega
  have below : run.target n ≤ run.target run.last := by
    unfold target
    omega
  rw [clearOf, Bool.or_eq_true, Bool.or_eq_true] at clear
  rw [Bool.eq_false_iff, ne_eq, covers_iff]
  rcases clear with (before | behind) | pointwise
  · have := Nat.blt_eq.mp before
    omega
  · have := Nat.blt_eq.mp behind
    omega
  · have uncovered := List.all_eq_true.mp pointwise n (mem_codes h)
    rw [← covers_iff]
    simpa using uncovered

end LowerRun

/-! ## Small letters -/

/-- The capitals: those of the table, and the one that becomes two characters. -/
def capitals : List LowerRun := ⟨0x130, 0x130, 1, 0⟩ :: lowerRuns

/-- Whether a code point is no capital. -/
def isSmall (n : Nat) : Bool := capitals.all fun run => !run.covers n

theorem isSmall_iff {n : Nat} :
    isSmall n = true ↔ n ≠ 0x130 ∧ ∀ run ∈ lowerRuns, run.covers n = false := by
  have dotted : LowerRun.covers ⟨0x130, 0x130, 1, 0⟩ n = false ↔ n ≠ 0x130 := by
    rw [Bool.eq_false_iff, ne_eq, LowerRun.covers_iff]
    dsimp only
    omega
  simp [isSmall, capitals, dotted]

set_option maxRecDepth 100000 in
/-- No run of the table is moved onto a capital. -/
theorem lowerRuns_clear :
    (lowerRuns.all fun run => capitals.all fun other => run.clearOf other) = true := by
  decide +kernel

theorem isSmall_target {run : LowerRun} {n : Nat} (member : run ∈ lowerRuns)
    (h : run.covers n = true) : isSmall (run.target n) = true := by
  have clear := List.all_eq_true.mp lowerRuns_clear run member
  refine List.all_eq_true.mpr fun other isCapital => ?_
  rw [LowerRun.not_covers_target (List.all_eq_true.mp clear other isCapital) h]
  rfl

/-- Below the table's other runs there are the capitals of one alphabet. -/
theorem isSmall_first_iff {n : Nat} (h : n < 0x80) : isSmall n = true ↔ n < 0x41 ∨ 0x5a < n := by
  have runs : ∀ run ∈ capitals, 0x80 ≤ run.first ∨ run.first = 0x41 ∧ run.last = 0x5a := by
    decide +kernel
  constructor
  · intro small
    have uncovered := List.all_eq_true.mp small ⟨0x41, 0x5a, 1, 32⟩ (.tail _ (.head _))
    rw [Bool.not_eq_true', Bool.eq_false_iff, ne_eq, LowerRun.covers_iff] at uncovered
    dsimp only at uncovered
    omega
  · intro outside
    refine List.all_eq_true.mpr fun run member => ?_
    rw [Bool.not_eq_true', Bool.eq_false_iff, ne_eq, LowerRun.covers_iff]
    have := runs run member
    omega

theorem isSmall_toLower {c : Char} (h : c.toNat < 0x80) : isSmall c.toLower.toNat = true := by
  have all : ∀ n < 0x80, (Char.ofNat n).toLower.toNat < 0x80 ∧
      ((Char.ofNat n).toLower.toNat < 0x41 ∨ 0x5a < (Char.ofNat n).toLower.toNat) := by decide
  rw [← Char.ofNat_toNat c]
  obtain ⟨first, outside⟩ := all c.toNat h
  exact (isSmall_first_iff first).mpr outside

theorem toLower_eq_self {c : Char} (h : c.toNat < 0x80) (small : isSmall c.toNat = true) :
    c.toLower = c := by
  have all : ∀ n < 0x80, n < 0x41 ∨ 0x5a < n → (Char.ofNat n).toLower = Char.ofNat n := by decide
  rw [← Char.ofNat_toNat c]
  exact all c.toNat h ((isSmall_first_iff h).mp small)

/-- Small letters that come from elsewhere than the table, and what stands for no character. -/
theorem isSmall_special : [0x69, 0x307, 0x3c2, 0x3c3, 0].all isSmall = true := by
  decide +kernel

theorem isSmall_of_special {n : Nat} (h : n ∈ [0x69, 0x307, 0x3c2, 0x3c3, 0]) :
    isSmall n = true := List.all_eq_true.mp isSmall_special n h

/-- A code point of no character is read as the first one of all. -/
theorem toNat_ofNat_cases (n : Nat) : (Char.ofNat n).toNat = n ∨ (Char.ofNat n).toNat = 0 := by
  by_cases valid : n.isValidChar
  · left
    rw [Char.ofNat, dif_pos valid]
    rfl
  · right
    rw [Char.ofNat, dif_neg valid]
    rfl

/-- **The small letters of a character are small letters.** -/
theorem isSmall_of_mem_lowerChar {c d : Char} (h : d ∈ lowerChar c) : isSmall d.toNat = true := by
  unfold lowerChar at h
  split at h
  · next first =>
    obtain rfl := List.mem_singleton.mp h
    exact isSmall_toLower first
  · split at h
    · apply isSmall_of_special
      obtain rfl | rfl : d = 'i' ∨ d = '\u0307' := by simpa using h
      · decide
      · decide
    · next other =>
      split at h
      · next none =>
        obtain rfl := List.mem_singleton.mp h
        refine isSmall_iff.mpr ⟨by simpa using other, fun run member => ?_⟩
        simpa using List.find?_eq_none.mp none run member
      · next run found =>
        obtain rfl := List.mem_singleton.mp h
        have covers : run.covers c.toNat = true := by simpa using List.find?_some found
        show isSmall (Char.ofNat (run.target c.toNat)).toNat = true
        -- were there no such character, the first one of all would stand for it
        rcases toNat_ofNat_cases (run.target c.toNat) with same | first
        · rw [same]
          exact isSmall_target (List.mem_of_find?_eq_some found) covers
        · rw [first]
          exact isSmall_of_special (by decide)

/-- A small letter has no other small letters. -/
theorem lowerChar_of_isSmall {c : Char} (small : isSmall c.toNat = true) : lowerChar c = [c] := by
  obtain ⟨undotted, uncovered⟩ := isSmall_iff.mp small
  unfold lowerChar
  split
  · next first => rw [toLower_eq_self first small]
  · rw [if_neg (by simpa using undotted), List.find?_eq_none.mpr (by simpa using uncovered)]

/-! ## Texts -/

/-- **Lower-casing leaves no capital.** -/
theorem isSmall_of_mem_lowerAfter {before s : List Char} {d : Char} (h : d ∈ lowerAfter before s) :
    isSmall d.toNat = true := by
  induction s generalizing before with
  | nil => cases h
  | cons c rest ih =>
    rw [lowerAfter] at h
    rcases List.mem_append.mp h with here | behind
    · split at here
      · -- a sigma, in either form
        apply isSmall_of_special
        obtain rfl := List.mem_singleton.mp here
        split <;> decide
      · exact isSmall_of_mem_lowerChar here
    · exact ih behind

/-- A text without capitals is in small letters. -/
theorem lowerAfter_eq_self {before s : List Char} (small : ∀ c ∈ s, isSmall c.toNat = true) :
    lowerAfter before s = s := by
  induction s generalizing before with
  | nil => rfl
  | cons c rest ih =>
    obtain ⟨here, behind⟩ := List.forall_mem_cons.mp small
    have noSigma : (c == 'Σ') = false := by
      have capital : isSmall 'Σ'.toNat = false := by decide +kernel
      refine beq_eq_false_iff_ne.mpr ?_
      rintro rfl
      rw [capital] at here
      cases here
    rw [lowerAfter, noSigma, if_neg Bool.false_ne_true, lowerChar_of_isSmall here, ih behind]
    rfl

/-- **Lower-casing twice is lower-casing once.** -/
@[simp] theorem lowerString_lowerString (s : String) :
    lowerString (lowerString s) = lowerString s := by
  have small : ∀ c ∈ lower s.toList, isSmall c.toNat = true :=
    fun _ member => isSmall_of_mem_lowerAfter member
  rw [lowerString, lowerString, String.toList_ofList]
  exact congrArg String.ofList (lowerAfter_eq_self small)

end OwnerBuild.Text
