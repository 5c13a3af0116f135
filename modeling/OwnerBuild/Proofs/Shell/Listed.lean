/-
# OwnerBuild.Proofs.Shell.Listed -- any list of words can be written as a text

A word in single quotes stands for itself, but for a single quote in it: the quotes are closed
there, and a double quoted single quote stands between them and the next ones (`singleQuoted`).
The reader never sees a word break between these pieces, so it joins them to one word, whatever
comes behind (`wordsFrom_singleQuoted`). A list of words is written with gaps between them
(`Listed`), and by induction over the list it is what the text is split into (`words_of_listed`),
empty words and gaps of any width included.
-/

import OwnerBuild.Shell.Words

namespace OwnerBuild.Shell

variable {word gap rest text : List Char}

/-! ## Quoted words -/

/-- A character inside single quotes. A single quote is put between double quotes, outside of
the single ones. -/
def quotedChar (c : Char) : List Char := if c = '\'' then "'\"'\"'".toList else [c]

/-- A word in single quotes. -/
def singleQuoted (word : List Char) : List Char := '\'' :: word.flatMap quotedChar ++ ['\'']

example : singleQuoted "it's".toList = "'it'\"'\"'s'".toList := by rfl

theorem extendWord_cons (c : Char) (cs : List Char) (words : List (List Char)) :
    extendWord (c :: cs) words = extendWord [c] (extendWord cs words) := rfl

theorem extendWord_first (cs : List Char) (first : List Char) (words : List (List Char)) :
    extendWord cs (first :: words) = (cs ++ first) :: words := by
  induction cs with
  | nil => rfl
  | cons c cs ih =>
    rw [extendWord_cons, ih]
    rfl

/-- What is left of a quoted word is put in front of the word that it joins. -/
theorem wordsFrom_quoted (word rest : List Char) :
    wordsFrom .inSingle (word.flatMap quotedChar ++ '\'' :: rest) =
      (wordsFrom .inWord rest).map (extendWord word) := by
  induction word with
  | nil =>
    show wordsFrom .inWord rest = (wordsFrom .inWord rest).map id
    rw [Except.map_id]
    rfl
  | cons c word ih =>
    rw [List.flatMap_cons, List.append_assoc]
    have further : (wordsFrom .inSingle (word.flatMap quotedChar ++ '\'' :: rest)).map
        (extendWord [c]) = (wordsFrom .inWord rest).map (extendWord (c :: word)) := by
      rw [ih]
      cases wordsFrom .inWord rest <;> rfl
    by_cases quote : c = '\''
    · -- out of the quotes, through the double quoted one, and into quotes again
      subst quote
      exact further
    · rw [quotedChar, if_neg quote, List.singleton_append, wordsFrom]
      rw [if_neg (by simpa using quote)]
      exact further

/-- **A quoted word is read as the word**, in front of what it touches. -/
theorem wordsFrom_singleQuoted (word rest : List Char) :
    wordsFrom .between (singleQuoted word ++ rest) =
      (wordsFrom .inWord rest).map (extendWord word) := by
  rw [← wordsFrom_quoted, singleQuoted, List.append_assoc]
  rfl

/-! ## Gaps -/

/-- That a text is a gap between words: blanks, tabs and line feeds, at least one. -/
def IsGap (gap : List Char) : Prop := gap ≠ [] ∧ ∀ c ∈ gap, c = ' ' ∨ c = '\t' ∨ c = '\n'

theorem isWordBreak_of_mem_gap (isGap : IsGap gap) {c : Char} (member : c ∈ gap) :
    isWordBreak c = true := by
  rcases isGap.2 c member with rfl | rfl | rfl <;> decide

theorem wordsFrom_between_gap (breaks : ∀ c ∈ gap, isWordBreak c = true) (rest : List Char) :
    wordsFrom .between (gap ++ rest) = wordsFrom .between rest := by
  induction gap with
  | nil => rfl
  | cons c gap ih =>
    obtain ⟨isBreak, breaks⟩ := List.forall_mem_cons.mp breaks
    rw [List.cons_append, wordsFrom, if_pos isBreak, ih breaks]

/-- A gap ends a word. -/
theorem wordsFrom_inWord_gap (isGap : IsGap gap) (rest : List Char) :
    wordsFrom .inWord (gap ++ rest) = (wordsFrom .between rest).map ([] :: ·) := by
  obtain ⟨c, more, rfl⟩ := List.exists_cons_of_ne_nil isGap.1
  have breaks : ∀ c' ∈ c :: more, isWordBreak c' = true := by
    intro c' member
    exact isWordBreak_of_mem_gap isGap member
  obtain ⟨isBreak, breaks⟩ := List.forall_mem_cons.mp breaks
  rw [List.cons_append, wordsFrom, if_pos isBreak, wordsFrom_between_gap breaks]

/-! ## Lists of words -/

/-- That a text is a list of words, each in single quotes, with gaps between them. -/
inductive Listed : List String → List Char → Prop where
  | empty : Listed [] []
  | single (word : String) : Listed [word] (singleQuoted word.toList)
  | more (word : String) {next : String} {others : List String} {gap text : List Char} :
      IsGap gap → Listed (next :: others) text →
      Listed (word :: next :: others) (singleQuoted word.toList ++ (gap ++ text))

/-- **Any list of words can be written.** -/
theorem exists_listed (words : List String) : ∃ text : String, Listed words text.toList := by
  suffices ∃ text, Listed words text by
    obtain ⟨text, listed⟩ := this
    refine ⟨String.ofList text, ?_⟩
    rwa [String.toList_ofList]
  induction words with
  | nil => exact ⟨[], .empty⟩
  | cons word others ih =>
    cases others with
    | nil => exact ⟨_, .single word⟩
    | cons next others =>
      obtain ⟨text, listed⟩ := ih
      have isGap : IsGap [' '] := ⟨List.cons_ne_nil _ _, by simp⟩
      exact ⟨_, .more word isGap listed⟩

theorem wordsFrom_of_listed {words : List String} (listed : Listed words text) :
    wordsFrom .between text = .ok (words.map String.toList) := by
  induction listed with
  | empty => rfl
  | single word =>
    have alone := wordsFrom_singleQuoted word.toList []
    rw [List.append_nil] at alone
    rw [alone]
    show Except.ok (extendWord word.toList [[]]) = _
    rw [extendWord_first, List.append_nil]
    rfl
  | more word isGap _ ih =>
    rw [wordsFrom_singleQuoted, wordsFrom_inWord_gap isGap, ih]
    show Except.ok (extendWord word.toList ([] :: _)) = _
    rw [extendWord_first, List.append_nil]
    rfl

/-- **A text is split into the words that it lists.** -/
theorem words_of_listed {list : List String} {s : String} (listed : Listed list s.toList) :
    words s = .ok list := by
  rw [words, wordsFrom_of_listed listed]
  show Except.ok ((list.map String.toList).map String.ofList) = _
  rw [List.map_map]
  have readBack : String.ofList ∘ String.toList = id := by
    funext word
    exact String.ofList_toList
  rw [readBack, List.map_id]

end OwnerBuild.Shell
