/-
# OwnerBuild.Proofs.Markup.Verbatim -- texts that are printed as they are

A text that is no markup still goes through two changes before it is laid out: its emoji codes are
replaced, and the control characters that a terminal would act on are taken out. A code that is
replaced takes its colons away and nothing puts any in, so a text is printed as it is exactly if
neither change finds anything in it (`renderPlain_eq_iff`), whatever table of emoji there is. A
code is a word with two colons in it; where no word has two, there is none
(`replaceEmoji_eq_self`).

A text without brackets and backslashes means the same as markup and as plain text
(`render_eq_renderPlain`). If it has no colons and control characters either, nothing at all happens
to it (`render_eq_of_inert`); the digits of numbers are such texts. What escaping does to a text is
not looked at.
-/

import OwnerBuild.Console

namespace OwnerBuild.Markup

/-- A text without a character does not begin with it, and has none further on. -/
theorem beq_of_notMem {c d : Char} {s : List Char} (h : d ∉ c :: s) :
    (c == d) = false ∧ d ∉ s :=
  ⟨beq_eq_false_iff_ne.mpr (List.ne_of_not_mem_cons h).symm, List.not_mem_of_not_mem_cons h⟩

/-! ## Emoji codes -/

/-- The sign of a variant is no colon. -/
theorem noColon_variant {s : List Char} {code : EmojiCode} (h : emojiCode? s = some code) :
    ':' ∉ code.variant := by
  induction s generalizing code with
  | nil => cases h
  | cons c rest ih =>
    rw [emojiCode?] at h
    split at h
    · next v found =>
      cases h
      have signs : ∀ v ∈ emojiVariants, ':' ∉ v.2 := by decide
      exact signs v (List.mem_of_find?_eq_some found)
    · split at h
      · cases h
      · obtain ⟨inner, isInner, rfl⟩ := Option.map_eq_some_iff.mp h
        have signs := ih isInner
        exact signs

/-- The number of characters that are left out next. -/
def EmojiMode.dropped : EmojiMode → Nat
  | .drop n => n
  | _ => 0

/-- That no word of a text has two colons in it. -/
def HasLoneColons (s : List Char) : Prop :=
  ∀ before after, s = before ++ ':' :: after →
    ':' ∉ after.takeWhile fun c => !Text.isBlank c

theorem HasLoneColons.tail {c : Char} {rest : List Char} (h : HasLoneColons (c :: rest)) :
    HasLoneColons rest := by
  intro before after split
  exact h (c :: before) after (by rw [split, List.cons_append])

/-- What begins a text without blanks is part of its first word. -/
theorem mem_takeWhile_of_prefix {p s : List Char} {c : Char} (opens : p <+: s)
    (visible : ∀ d ∈ p, Text.isBlank d = false) (h : c ∈ p) :
    c ∈ s.takeWhile fun d => !Text.isBlank d := by
  obtain ⟨rest, rfl⟩ := opens
  rw [List.takeWhile_append_of_pos (by simpa using visible)]
  exact List.mem_append_left _ h

/-- Without a colon in the first word no code begins. -/
theorem emojiCode?_eq_none {s : List Char}
    (h : ':' ∉ s.takeWhile fun c => !Text.isBlank c) : emojiCode? s = none := by
  induction s with
  | nil => rfl
  | cons c rest ih =>
    have unclosed : (emojiVariants.find? fun v => v.1.isPrefixOf (c :: rest)) = none := by
      refine List.find?_eq_none.mpr fun v member opens => h ?_
      have shape : emojiVariants.all
          (fun v => v.1.contains ':' && v.1.all fun d => !Text.isBlank d) = true := by decide
      obtain ⟨colon, visible⟩ : ':' ∈ v.1 ∧ ∀ d ∈ v.1, Text.isBlank d = false := by
        simpa using List.all_eq_true.mp shape v member
      exact mem_takeWhile_of_prefix (List.isPrefixOf_iff_prefix.mp opens) visible colon
    rw [emojiCode?, unclosed]
    dsimp only
    split
    · rfl
    · next visible =>
      have inner : ':' ∉ rest.takeWhile fun c => !Text.isBlank c := by
        rw [List.takeWhile_cons_of_pos (by simpa using visible)] at h
        exact fun member => h (List.mem_cons_of_mem _ member)
      rw [ih inner]
      rfl

section Codes

variable [EmojiTable]

/-- **Where no word has two colons there is no emoji code.** -/
theorem replaceEmoji_eq_self {s : List Char} (h : HasLoneColons s) : replaceEmoji s = s := by
  rw [replaceEmoji]
  induction s with
  | nil => rfl
  | cons c rest ih =>
    rw [replaceEmojiFrom]
    split
    · next colon =>
      obtain rfl : c = ':' := by simpa using colon
      rw [emojiCode?_eq_none (h [] rest rfl)]
      dsimp only
      rw [ih h.tail]
    · rw [ih h.tail]

/-- **A code that is replaced takes a colon away**, and none is ever put in. -/
theorem replaceEmojiFrom_eq_or_lt (m : EmojiMode) (s : List Char) :
    replaceEmojiFrom m s = s.drop m.dropped ∨
      (replaceEmojiFrom m s).count ':' < (s.drop m.dropped).count ':' := by
  induction s generalizing m with
  | nil => exact .inl (by cases m <;> simp [replaceEmojiFrom])
  | cons c rest ih =>
    -- what is done with the rest is done behind a character that is kept
    have behind : ∀ m, EmojiMode.dropped m = 0 →
        c :: replaceEmojiFrom m rest = c :: rest ∨
          (c :: replaceEmojiFrom m rest).count ':' < (c :: rest).count ':' := by
      intro m none
      have rest := ih m
      rw [none, List.drop_zero] at rest
      refine rest.imp (congrArg (c :: ·)) fun fewer => ?_
      rw [List.count_cons, List.count_cons]
      exact Nat.add_lt_add_right fewer _
    have looked : replaceEmojiFrom .look (c :: rest) = c :: rest ∨
        (replaceEmojiFrom .look (c :: rest)).count ':' < (c :: rest).count ':' := by
      rw [replaceEmojiFrom]
      split
      · next colon =>
        split
        · exact behind .look rfl
        · next code found =>
          split
          · next emoji known =>
            right
            have left : (replaceEmojiFrom (.drop code.length) rest).count ':' ≤ rest.count ':' := by
              have fewer := (List.drop_sublist code.length rest).count_le ':'
              rcases ih (.drop code.length) with same | less
              · rw [same]
                exact fewer
              · exact Nat.le_trans (Nat.le_of_lt less) fewer
            rw [List.count_append, List.count_append,
              List.count_eq_zero.mpr (EmojiTable.noColon known),
              List.count_eq_zero.mpr (noColon_variant found), Nat.zero_add, List.count_cons,
              if_pos colon]
            exact Nat.lt_succ_of_le left
          · exact behind (.keep code.length) rfl
      · exact behind .look rfl
    cases m with
    | look => exact looked
    | keep n =>
      cases n with
      | zero => exact looked
      | succ n => exact behind (.keep n) rfl
    | drop n =>
      cases n with
      | zero => exact looked
      | succ n => exact ih (.drop n)

theorem replaceEmoji_eq_or_lt (s : List Char) :
    replaceEmoji s = s ∨ (replaceEmoji s).count ':' < s.count ':' :=
  replaceEmojiFrom_eq_or_lt .look s

end Codes

/-! ## Printing -/

/-- That no character of a text is one of those that are never printed. -/
def Printable (s : List Char) : Prop := ∀ c ∈ s, isTerminalControl c = false

theorem Printable.filter_eq_self {s : List Char} (h : Printable s) :
    (s.filter fun c => !isTerminalControl c) = s :=
  List.filter_eq_self.mpr fun c member => by rw [h c member]; rfl

theorem Printable.append {s t : List Char} (h : Printable s) (h' : Printable t) :
    Printable (s ++ t) :=
  fun c member => (List.mem_append.mp member).elim (h c) (h' c)

theorem Printable.of_all {s : List Char} (h : (s.all fun c => !isTerminalControl c) = true) :
    Printable s := by
  intro c member
  simpa using List.all_eq_true.mp h c member

section Printed

variable [EmojiTable]

/-- Taking out control characters leaves every colon where it is. -/
theorem count_printed (s : List Char) : (printed s).count ':' = (replaceEmoji s).count ':' := by
  rw [printed, List.count_filter]
  rfl

/-- **A text is printed as it is exactly if** it has no known emoji code and none of the control
characters that are taken out. -/
theorem printed_eq_self_iff {s : List Char} :
    printed s = s ↔ replaceEmoji s = s ∧ ∀ c ∈ s, isTerminalControl c = false := by
  constructor
  · intro same
    -- a code that is replaced would be missed by its colons
    have unchanged : replaceEmoji s = s := by
      refine (replaceEmoji_eq_or_lt s).resolve_right fun fewer => ?_
      rw [← count_printed, same] at fewer
      exact Nat.lt_irrefl _ fewer
    rw [printed, unchanged, List.filter_eq_self] at same
    exact ⟨unchanged, by simpa using same⟩
  · rintro ⟨unchanged, visible⟩
    rw [printed, unchanged, List.filter_eq_self]
    simpa using visible

/-- A text that is printed as it is, as one run without a style. -/
theorem renderPlain_eq_iff {s : List Char} (h : s ≠ []) :
    renderPlain s = [⟨s, none⟩] ↔ printed s = s := by
  rw [renderPlain, mergeRuns]
  cases shown : printed s with
  | nil => simp [mergeRuns, h.symm]
  | cons c rest => simp [mergeRuns]

end Printed

/-! ## Markup without marks -/

/-- Characters that mean nothing in markup are read one by one. -/
theorem scan_append_eq {s : List Char} (h : ∀ c ∈ s, c ≠ '[' ∧ c ≠ '\\') (rest : List Char) :
    scan (.outside 0) (s ++ rest) = s.map .char ++ scan (.outside 0) rest := by
  induction s with
  | nil => rfl
  | cons c s ih =>
    obtain ⟨bracket, backslash⟩ := h c List.mem_cons_self
    rw [List.cons_append, scan]
    simp [bracket, backslash, backslashes, ih fun d hd => h d (List.mem_cons_of_mem _ hd)]

theorem scan_eq_map {s : List Char} (h : ∀ c ∈ s, c ≠ '[' ∧ c ≠ '\\') :
    scan (.outside 0) s = s.map .char := by
  have read := scan_append_eq h []
  rw [List.append_nil] at read
  exact read.trans (List.append_nil _)

theorem stretches_map_char (styles : List String) (s : List Char) :
    stretches styles (s.map .char) = [⟨s, styles.head?⟩] := by
  induction s with
  | nil => rfl
  | cons c rest ih =>
    rw [List.map_cons, stretches, ih]
    rfl

theorem unescapeBrackets_eq_self {s : List Char} (h : ∀ c ∈ s, c ≠ '\\') :
    unescapeBrackets s = s := by
  induction s with
  | nil => rfl
  | cons c rest ih =>
    have others := ih fun d hd => h d (List.mem_cons_of_mem _ hd)
    cases rest with
    | nil => rfl
    | cons d rest =>
      have plain : (c == '\\') = false := by simpa using h c List.mem_cons_self
      rw [unescapeBrackets, plain, Bool.false_and, if_neg Bool.false_ne_true, others]

/-- **A text without brackets and backslashes is the same as markup.** -/
theorem render_eq_renderPlain [EmojiTable] {s : List Char} (h : ∀ c ∈ s, c ≠ '[' ∧ c ≠ '\\') :
    render s = renderPlain s := by
  rw [render, styledStretches, scan_eq_map h, stretches_map_char]
  simp only [List.map_cons, List.map_nil, unescapeBrackets_eq_self fun c hc => (h c hc).2]
  rfl

/-! ## Characters without a meaning -/

/-- Whether a character means nothing in markup and to printing, wherever it stands. -/
def isInert (c : Char) : Bool := c != '[' && c != '\\' && c != ':' && !isTerminalControl c

/-- **A text of such characters is printed as it is, as markup too.** -/
theorem render_eq_of_inert [EmojiTable] {s : List Char} (h : s ≠ []) (inert : s.all isInert = true) :
    render s = [⟨s, none⟩] := by
  have each : ∀ c ∈ s, ((c ≠ '[' ∧ c ≠ '\\') ∧ c ≠ ':') ∧ isTerminalControl c = false := by
    simpa [isInert] using inert
  have noColon : ':' ∉ s := fun member => (each ':' member).1.2 rfl
  have noCodes : replaceEmoji s = s := by
    refine replaceEmoji_eq_self fun before after split => ?_
    exact absurd (by simp [split] : ':' ∈ s) noColon
  rw [render_eq_renderPlain fun c hc => (each c hc).1.1, renderPlain_eq_iff h, printed_eq_self_iff]
  exact ⟨noCodes, fun c hc => (each c hc).2⟩

theorem isInert_of_isDigit {c : Char} (h : c.isDigit = true) : isInert c = true := by
  have other : ∀ d : Char, d.isDigit = false → c ≠ d := by
    rintro d isNone rfl
    rw [h] at isNone
    cases isNone
  simp [isInert, isTerminalControl, other]

theorem isDigit_of_mem_repr {n : Nat} {c : Char} (h : c ∈ n.repr.toList) : c.isDigit = true := by
  rw [Nat.toList_repr] at h
  exact Nat.isDigit_of_mem_toDigits (by decide) (by decide) h

theorem toList_toString_negSucc (n : Nat) :
    (toString (Int.negSucc n)).toList = '-' :: (n + 1).repr.toList := by
  show ("-" ++ (n + 1).repr).toList = _
  rw [String.toList_append]
  rfl

theorem all_inert_repr (n : Nat) : n.repr.toList.all isInert = true := by
  rw [List.all_eq_true]
  exact fun c digit => isInert_of_isDigit (isDigit_of_mem_repr digit)

/-- The digits of a whole number, with or without a sign, are such characters. -/
theorem all_inert_toString (n : Int) : (toString n).toList.all isInert = true := by
  cases n with
  | ofNat n => exact all_inert_repr n
  | negSucc n =>
    rw [toList_toString_negSucc, List.all_cons, all_inert_repr]
    rfl

theorem toString_ne_empty (n : Int) : toString n ≠ "" := by
  cases n with
  | ofNat n => exact Nat.repr_ne_empty
  | negSucc n =>
    intro empty
    have none := toList_toString_negSucc n
    rw [empty] at none
    cases none

theorem all_inert_intercalate {separator : List Char} {texts : List (List Char)}
    (between : separator.all isInert = true) (inert : ∀ text ∈ texts, text.all isInert = true) :
    (separator.intercalate texts).all isInert = true := by
  induction texts with
  | nil => rfl
  | cons first rest ih =>
    obtain ⟨front, others⟩ := List.forall_mem_cons.mp inert
    cases rest with
    | nil => simpa using front
    | cons second rest =>
      rw [List.intercalate_cons_cons, List.all_append, List.all_append, front, between, ih others]
      rfl

end OwnerBuild.Markup

/-! ## Lines as they are -/

namespace OwnerBuild.Console

/-- The line that says a text as it is. -/
def Item.verbatim (s : String) : Item := .line [⟨s.toList, none⟩] .output

variable [Markup.EmojiTable]

/-- That printing finds nothing in a text to replace or to take out before it is laid out. -/
def PrintsAsIs (s : String) : Prop :=
  Markup.replaceEmoji s.toList = s.toList ∧
    ∀ c ∈ s.toList, Markup.isTerminalControl c = false

theorem Item.plain_eq_verbatim_iff {s : String} (h : s ≠ "") :
    Item.plain s = Item.verbatim s ↔ PrintsAsIs s := by
  have visible : s.toList ≠ [] := by simpa using h
  rw [Item.plain, Item.verbatim, PrintsAsIs, ← Markup.printed_eq_self_iff,
    ← Markup.renderPlain_eq_iff visible]
  simp

end OwnerBuild.Console
