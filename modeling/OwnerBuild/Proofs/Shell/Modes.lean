/-
# OwnerBuild.Proofs.Shell.Modes -- which texts can be split

Whether a text can be split does not depend on the words in it, only on the mode that the reader
is in at its end. `WordsMode.next` is the table of the modes alone: which mode a character leads
to. A character does to the words what it does and the reader goes on in that mode
(`exists_wordsFrom_cons`), so by induction over the text a text lacks exactly what its last mode
lacks: an open quotation its end, a backslash its character (`wordsFrom_eq_error_iff`).
-/

import OwnerBuild.Shell.Words

namespace OwnerBuild.Shell

/-! ## Modes without words -/

/-- The mode behind a character that is not quoted. -/
def unquotedNext (c : Char) : WordsMode :=
  if isWordBreak c then .between
  else if c == '\'' then .inSingle
  else if c == '"' then .inDouble
  else if c == '\\' then .escaped
  else .inWord

/-- The mode behind a character. -/
def WordsMode.next : WordsMode → Char → WordsMode
  | .between, c => unquotedNext c
  | .inWord, c => unquotedNext c
  | .inSingle, c => if c == '\'' then .inWord else .inSingle
  | .inDouble, c => if c == '"' then .inWord else if c == '\\' then .escapedInDouble else .inDouble
  | .escaped, _ => .inWord
  | .escapedInDouble, _ => .inDouble

/-- The mode behind a text. -/
def WordsMode.after (mode : WordsMode) (s : List Char) : WordsMode := s.foldl next mode

/-- What a text lacks that ends in a mode. -/
def WordsMode.lack : WordsMode → Option WordsError
  | .between | .inWord => none
  | .inSingle | .inDouble => some .noClosingQuote
  | .escaped | .escapedInDouble => some .noEscapedCharacter

/-! ## Texts that can be split -/

/-- **Behind a character the reader goes on in the next mode**, and does something to the words. -/
theorem exists_wordsFrom_cons (mode : WordsMode) (c : Char) (rest : List Char) :
    ∃ f, wordsFrom mode (c :: rest) = (wordsFrom (mode.next c) rest).map f := by
  have same : ∀ words : Except WordsError (List (List Char)), ∃ f, words = words.map f := by
    intro words
    refine ⟨id, ?_⟩
    cases words <;> rfl
  cases mode with
  | between =>
    rw [wordsFrom, WordsMode.next, unquotedNext]
    split
    · exact same _
    split
    · exact same _
    split
    · exact same _
    split
    · exact same _
    · exact ⟨_, rfl⟩
  | inWord =>
    rw [wordsFrom, WordsMode.next, unquotedNext]
    split
    · exact ⟨_, rfl⟩
    split
    · exact same _
    split
    · exact same _
    split
    · exact same _
    · exact ⟨_, rfl⟩
  | inSingle =>
    rw [wordsFrom, WordsMode.next]
    split
    · exact same _
    · exact ⟨_, rfl⟩
  | inDouble =>
    rw [wordsFrom, WordsMode.next]
    split
    · exact same _
    split
    · exact same _
    · exact ⟨_, rfl⟩
  | escaped => exact ⟨_, rfl⟩
  | escapedInDouble => exact ⟨_, rfl⟩

theorem map_eq_error_iff {α β ε : Type} {x : Except ε α} {f : α → β} {e : ε} :
    x.map f = .error e ↔ x = .error e := by
  cases x <;> simp [Except.map]

/-- **A text cannot be split exactly if** its last mode lacks something. -/
theorem wordsFrom_eq_error_iff {mode : WordsMode} {s : List Char} {e : WordsError} :
    wordsFrom mode s = .error e ↔ (mode.after s).lack = some e := by
  induction s generalizing mode with
  | nil => cases mode <;> simp [wordsFrom, WordsMode.after, WordsMode.lack]
  | cons c rest ih =>
    obtain ⟨f, split⟩ := exists_wordsFrom_cons mode c rest
    rw [split, map_eq_error_iff, ih]
    rfl

/-- What a text lacks to be split into words, if anything. -/
def lack (s : String) : Option WordsError := (WordsMode.between.after s.toList).lack

theorem words_eq_error_iff {s : String} {e : WordsError} :
    words s = .error e ↔ lack s = some e := by
  rw [words, map_eq_error_iff, wordsFrom_eq_error_iff]
  rfl

theorem exists_words_iff {s : String} : (∃ ws, words s = .ok ws) ↔ lack s = none := by
  cases split : words s with
  | ok ws =>
    refine iff_of_true ⟨ws, rfl⟩ (Option.eq_none_iff_forall_ne_some.mpr ?_)
    intro e lacks
    rw [words_eq_error_iff.mpr lacks] at split
    cases split
  | error e =>
    rw [words_eq_error_iff.mp split]
    simp

example : lack "--a '--b c' \"d \\\" e\"" = none := by rfl
example : lack "--copt='-DNAME=a" = some .noClosingQuote := by rfl
example : lack "--copt=\"a\\" = some .noEscapedCharacter := by rfl

end OwnerBuild.Shell
