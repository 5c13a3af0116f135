/-
# OwnerBuild.Proofs.Watch.DiagnosticLine -- the place that the line of a diagnostic shows

The line of a diagnostic puts a file, a line and a column together with colons. It is printed as
plain text, but emoji codes are looked for in plain text too, and a number between two colons has
the form of one. Where the file has no colon the line number is the only such number: the file, the
column and the severity are shown as they are, and so is the line number exactly if no emoji has it
for its name (`diagnosticLine_eq`, `shownPlace_eq_iff`).
-/

import OwnerBuild.Proofs.Markup.Verbatim
import OwnerBuild.Proofs.Text.SmallLetters
import OwnerBuild.Watch.Changes

namespace OwnerBuild

namespace Markup

variable {s t : List Char}

/-! ## Emoji codes in parts of a text -/

section Parts

variable [EmojiTable]

/-- A text without colons is passed over. -/
theorem replaceEmoji_append (noColon : ':' ∉ s) (t : List Char) :
    replaceEmoji (s ++ t) = s ++ replaceEmoji t := by
  rw [replaceEmoji]
  induction s with
  | nil => rfl
  | cons c s ih =>
    obtain ⟨other, others⟩ := beq_of_notMem noColon
    rw [List.cons_append, replaceEmojiFrom, other, if_neg Bool.false_ne_true, ih others]
    rfl

/-- A colon with a blank behind it begins no code. -/
theorem replaceEmoji_colon_blank (t : List Char) :
    replaceEmoji (':' :: ' ' :: t) = ':' :: ' ' :: replaceEmoji t := by
  rfl

theorem replaceEmojiFrom_keep (s t : List Char) :
    replaceEmojiFrom (.keep s.length) (s ++ t) = s ++ replaceEmoji t := by
  induction s with
  | nil => cases t <;> rfl
  | cons c s ih => exact congrArg (c :: ·) ih

theorem replaceEmojiFrom_drop (s t : List Char) :
    replaceEmojiFrom (.drop s.length) (s ++ t) = replaceEmoji t := by
  induction s with
  | nil => cases t <;> rfl
  | cons c s ih => exact ih

end Parts

/-- Characters of a name behind which no variant is chosen. -/
def IsCodeName (name : List Char) : Prop :=
  ∀ c ∈ name, c ≠ ':' ∧ c ≠ 'e' ∧ c ≠ 't' ∧ Text.isBlank c = false

/-- A name up to a colon is a code. -/
theorem emojiCode?_name {name : List Char} (isName : IsCodeName name) (t : List Char) :
    emojiCode? (name ++ ':' :: t) = some ⟨name, [], name.length + 1⟩ := by
  induction name with
  | nil => rfl
  | cons c name ih =>
    obtain ⟨⟨colon, _, _, visible⟩, others⟩ := List.forall_mem_cons.mp isName
    have unclosed : (emojiVariants.find? fun v => v.1.isPrefixOf (c :: (name ++ ':' :: t))) =
        none := by
      refine List.find?_eq_none.mpr fun v member opens => ?_
      have shape : ∀ v ∈ emojiVariants, v.1[0]? = some ':' ∨ v.1[1]? = some 'e' ∨
          v.1[1]? = some 't' := by decide
      obtain ⟨rest, whole⟩ := List.isPrefixOf_iff_prefix.mp opens
      have first : ∀ (k : Nat) (d : Char), v.1[k]? = some d → (c :: (name ++ ':' :: t))[k]? = some d := by
        intro k d isChar
        obtain ⟨inside, _⟩ := List.getElem?_eq_some_iff.mp isChar
        rw [← whole, List.getElem?_append_left inside, isChar]
      -- what begins a variant is a colon, or a letter that is in no name behind its first character
      have second : ∀ d, d ≠ ':' → d ∉ name → (c :: (name ++ ':' :: t))[1]? ≠ some d := by
        intro d other absent same
        cases name with
        | nil => exact other (Option.some.inj same).symm
        | cons b name => exact absent (Option.some.inj same ▸ .head _)
      rcases shape v member with closes | letter | letter
      · exact colon (Option.some.inj (first 0 _ closes))
      · exact second 'e' (by decide) (fun e => (others _ e).2.1 rfl) (first 1 _ letter)
      · exact second 't' (by decide) (fun t => (others _ t).2.2.1 rfl) (first 1 _ letter)
    rw [List.cons_append, emojiCode?, unclosed]
    dsimp only
    rw [visible, if_neg Bool.false_ne_true, ih others]
    rfl

/-- **A name between two colons is replaced if it is known**, and else passed over with both of
them. -/
theorem replaceEmoji_code [EmojiTable] {name : List Char} (isName : IsCodeName name)
    (t : List Char) :
    replaceEmoji (':' :: (name ++ ':' :: t)) =
      (match EmojiTable.emoji? (Text.lower name) with
        | some emoji => emoji
        | none => ':' :: name ++ [':']) ++ replaceEmoji t := by
  have whole : name ++ ':' :: t = (name ++ [':']) ++ t := by
    rw [List.append_assoc]
    rfl
  have long : name.length + 1 = (name ++ [':']).length := by
    rw [List.length_append]
    rfl
  rw [replaceEmoji, replaceEmojiFrom, beq_self_eq_true, if_pos rfl, emojiCode?_name isName]
  dsimp only
  rw [long, whole]
  cases EmojiTable.emoji? (Text.lower name) with
  | some emoji =>
    dsimp only
    rw [List.append_nil, replaceEmojiFrom_drop]
  | none => exact congrArg (':' :: ·) (replaceEmojiFrom_keep _ t)

/-- What stands behind a name and its colons is looked at by itself. -/
theorem replaceEmoji_code_append [EmojiTable] {name : List Char} (isName : IsCodeName name)
    (t : List Char) : replaceEmoji (':' :: (name ++ ':' :: t)) =
      replaceEmoji (':' :: (name ++ [':'])) ++ replaceEmoji t := by
  rw [replaceEmoji_code isName t, replaceEmoji_code isName []]
  show _ = (_ ++ []) ++ _
  rw [List.append_nil]

/-- **A name between two colons is left alone exactly if it is unknown.** -/
theorem replaceEmoji_code_eq_self_iff [EmojiTable] {name : List Char} (isName : IsCodeName name) :
    replaceEmoji (':' :: (name ++ [':'])) = ':' :: (name ++ [':']) ↔
      EmojiTable.emoji? (Text.lower name) = none := by
  rw [replaceEmoji_code isName []]
  show _ ++ [] = _ ↔ _
  rw [List.append_nil]
  cases known : EmojiTable.emoji? (Text.lower name) with
  | none => exact iff_of_true rfl rfl
  | some emoji =>
    refine iff_of_false (fun same => ?_) (Option.some_ne_none emoji)
    -- the colons cannot come from the emoji
    have isEmoji : emoji = ':' :: (name ++ [':']) := same
    have colon : ':' ∈ emoji := by
      rw [isEmoji]
      exact List.mem_cons_self
    exact EmojiTable.noColon known colon

end Markup

namespace Watch

open Console (Item)
open Markup (EmojiTable Printable)

/-! ## Numbers -/

/-- The characters that numbers are written with. -/
def numerals : List Char := "-0123456789".toList

theorem mem_numerals_of_isDigit {c : Char} (h : c.isDigit = true) : c ∈ numerals := by
  have bounds : 48 ≤ c.toNat ∧ c.toNat < 58 := by
    simp only [Char.isDigit, Bool.and_eq_true, decide_eq_true_eq, UInt32.le_iff_toNat_le] at h
    exact ⟨h.1, Nat.lt_succ_of_le h.2⟩
  have each : ∀ n < 58, 48 ≤ n → Char.ofNat n ∈ numerals := by decide
  rw [← Char.ofNat_toNat c]
  exact each _ bounds.2 bounds.1

theorem mem_numerals {n : Int} {c : Char} (h : c ∈ (toString n).toList) : c ∈ numerals := by
  cases n with
  | ofNat n => exact mem_numerals_of_isDigit (Markup.isDigit_of_mem_repr h)
  | negSucc n =>
    rw [Markup.toList_toString_negSucc] at h
    rcases List.mem_cons.mp h with rfl | digit
    · decide
    · exact mem_numerals_of_isDigit (Markup.isDigit_of_mem_repr digit)

/-- What holds of the characters of numbers holds of those of a number. -/
theorem all_toString {p : Char → Bool} (each : numerals.all p = true) (n : Int) :
    ∀ c ∈ (toString n).toList, p c = true :=
  fun c member => List.all_eq_true.mp each c (mem_numerals member)

theorem isCodeName_toString (n : Int) : Markup.IsCodeName (toString n).toList := by
  have each : (numerals.all fun c =>
      c != ':' && c != 'e' && c != 't' && !Text.isBlank c) = true := by decide
  intro c member
  simpa [and_assoc] using all_toString each n c member

/-- A number is in small letters. -/
theorem lower_toString (n : Int) : Text.lower (toString n).toList = (toString n).toList := by
  have each : (numerals.all fun c => Text.isSmall c.toNat) = true := by decide +kernel
  exact Text.lowerAfter_eq_self (all_toString each n)

/-! ## The line -/

theorem printable_toString (n : Int) : Printable (toString n).toList := by
  intro c member
  have inert := List.all_eq_true.mp (Markup.all_inert_toString n) c member
  simp only [Markup.isInert, Bool.and_eq_true, Bool.not_eq_true'] at inert
  exact inert.2

theorem printable_severity (s : Severity) : Printable s.text.toList := by
  apply Printable.of_all
  cases s <;> decide

/-- What the line of a diagnostic is to show. -/
def diagnosticText (d : Diagnostic) : String :=
  "  " ++ d.file.text ++ ":" ++ toString d.line ++ ":" ++ toString d.column ++ ": " ++
    d.severity.text ++ ": " ++ d.message

theorem toList_diagnosticText (d : Diagnostic) : (diagnosticText d).toList =
    ("  ".toList ++ d.file.text.toList) ++ ':' :: ((toString d.line).toList ++ ':' ::
      ((toString d.column).toList ++ ':' :: ' ' :: (d.severity.text.toList ++ ':' :: ' ' ::
        d.message.toList))) := by
  simp [diagnosticText]

/-- The line number of a diagnostic between the colons around it. -/
def numberText (d : Diagnostic) : List Char := ':' :: ((toString d.line).toList ++ [':'])

theorem printable_numberText (d : Diagnostic) : Printable (numberText d) := by
  intro c member
  rcases List.mem_cons.mp member with rfl | member
  · rfl
  · rcases List.mem_append.mp member with digit | colon
    · exact printable_toString d.line c digit
    · rw [List.mem_singleton.mp colon]
      rfl

variable [EmojiTable]

/-- The place of a diagnostic in its file, and its severity, as they are shown. -/
def shownPlace (d : Diagnostic) : List Char :=
  Markup.printed (numberText d) ++ (toString d.column).toList ++ ": ".toList ++
    d.severity.text.toList ++ ": ".toList

/-- **A place is shown as it is exactly if** its line number is the name of no emoji. -/
theorem shownPlace_eq_iff {d : Diagnostic} :
    shownPlace d = ":".toList ++ (toString d.line).toList ++ ":".toList ++
      (toString d.column).toList ++ ": ".toList ++ d.severity.text.toList ++ ": ".toList ↔
    EmojiTable.emoji? (toString d.line).toList = none := by
  have unknown := Markup.replaceEmoji_code_eq_self_iff (isCodeName_toString d.line)
  rw [lower_toString] at unknown
  have whole : ":".toList ++ (toString d.line).toList ++ ":".toList = numberText d := rfl
  rw [← unknown, shownPlace, whole]
  simp only [List.append_left_inj]
  rw [Markup.printed_eq_self_iff]
  exact and_iff_left (printable_numberText d)

/-- Emoji codes are replaced in the message, and where the line number stands. -/
theorem replaceEmoji_diagnosticText {d : Diagnostic} (noColon : ':' ∉ d.file.text.toList) :
    Markup.replaceEmoji (diagnosticText d).toList =
      "  ".toList ++ d.file.text.toList ++ (Markup.replaceEmoji (numberText d) ++
        ((toString d.column).toList ++ ": ".toList ++ d.severity.text.toList ++ ": ".toList)) ++
        Markup.replaceEmoji d.message.toList := by
  have file : ':' ∉ "  ".toList ++ d.file.text.toList := by simpa using noColon
  have column : ':' ∉ (toString d.column).toList :=
    fun member => (isCodeName_toString d.column _ member).1 rfl
  have severity : ':' ∉ d.severity.text.toList := by cases d.severity <;> decide
  -- the line number is between two colons, but blanks follow the colons behind it
  rw [toList_diagnosticText, Markup.replaceEmoji_append file,
    Markup.replaceEmoji_code_append (isCodeName_toString d.line),
    Markup.replaceEmoji_append column, Markup.replaceEmoji_colon_blank,
    Markup.replaceEmoji_append severity, Markup.replaceEmoji_colon_blank]
  simp [numberText]

/-- **The column and the severity are shown as they are** in a file without colons, and the line
number as a text between two colons is. -/
theorem diagnosticLine_eq {d : Diagnostic} (noColon : ':' ∉ d.file.text.toList) :
    diagnosticLine d = .line [⟨"  ".toList ++ Markup.printed d.file.text.toList ++
      shownPlace d ++ Markup.printed d.message.toList, none⟩] .output := by
  have file : Markup.replaceEmoji d.file.text.toList = d.file.text.toList := by
    have whole := Markup.replaceEmoji_append noColon []
    rwa [List.append_nil, show Markup.replaceEmoji [] = [] from rfl, List.append_nil] at whole
  have words : Printable ((toString d.column).toList ++ ": ".toList ++ d.severity.text.toList ++
      ": ".toList) := by
    have between : Printable ": ".toList := .of_all (by decide)
    exact (((printable_toString d.column).append between).append
      (printable_severity d.severity)).append between
  have shown : Markup.printed (diagnosticText d).toList = "  ".toList ++
      Markup.printed d.file.text.toList ++ shownPlace d ++ Markup.printed d.message.toList := by
    rw [Markup.printed, replaceEmoji_diagnosticText noColon, List.filter_append, List.filter_append,
      List.filter_append, List.filter_append, words.filter_eq_self, Markup.printed, file, shownPlace]
    simp only [List.append_assoc]
    rfl
  show Item.line (Markup.renderPlain (diagnosticText d).toList) .output = _
  rw [Markup.renderPlain, shown]
  rfl

theorem diagnosticLine_eq_verbatim_iff (d : Diagnostic) :
    diagnosticLine d = .verbatim (diagnosticText d) ↔ Console.PrintsAsIs (diagnosticText d) := by
  refine Console.Item.plain_eq_verbatim_iff fun empty => ?_
  simpa [diagnosticText] using congrArg String.toList empty

end Watch

end OwnerBuild
