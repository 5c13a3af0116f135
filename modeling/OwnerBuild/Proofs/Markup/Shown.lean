/-
# OwnerBuild.Proofs.Markup.Shown -- where an escaped text is shown as it is

A text that is escaped and printed by itself is shown without a style, in one piece
(`renderWith_escape`), and as it is exactly if three things hold (`shown_eq_iff`): no character of
it is taken out, no backslash stands in front of a bracket that begins no tag, and it does not end
in exactly one backslash.

Emoji codes are looked for piece by piece and are left aside at first: `renderWith` prints with any
rule for them, and with the rule that leaves every text alone it shows what escaping does by
itself. Where no code is found the two are the same (`render_eq_of_noCodes`), and where one is
found the text is not printed as it is (`text_render_escape_iff`).
-/

import OwnerBuild.Proofs.Markup.Escaped

namespace OwnerBuild.Markup

variable {s t : List Char}

/-! ## Printing with any rule for emoji codes -/

/-- A text without the characters that are never printed. -/
def kept (s : List Char) : List Char := s.filter fun c => !isTerminalControl c

/-- The runs that markup is printed as where emoji codes are replaced by a rule of their own. -/
def renderWith (codes : List Char → List Char) (s : List Char) : List Run :=
  mergeRuns ((styledStretches s).map fun run => { run with text := kept (codes run.text) })

section Codes

variable [EmojiTable]

/-- That no stretch of markup has a known emoji code in it. -/
def NoCodes (s : List Char) : Prop := ∀ run ∈ styledStretches s, replaceEmoji run.text = run.text

theorem render_eq_renderWith (s : List Char) : render s = renderWith replaceEmoji s := rfl

/-- **Where there is no emoji code** the rule for them makes no difference. -/
theorem render_eq_of_noCodes (h : NoCodes s) : render s = renderWith id s := by
  rw [render_eq_renderWith, renderWith, renderWith]
  refine congrArg mergeRuns (List.map_congr_left fun run member => ?_)
  rw [h run member]
  rfl

/-- Nor does it where no stretch has a colon. -/
theorem render_eq_of_noColon (h : ∀ run ∈ styledStretches s, ':' ∉ run.text) :
    render s = renderWith id s := by
  refine render_eq_of_noCodes fun run member => replaceEmoji_eq_self fun before after split => ?_
  exact absurd (by simp [split] : ':' ∈ run.text) (h run member)

end Codes

theorem kept_append (s t : List Char) : kept (s ++ t) = kept s ++ kept t := List.filter_append ..

theorem kept_flatMap {α : Type} (items : List α) (f : α → List Char) :
    kept (items.flatMap f) = items.flatMap fun item => kept (f item) := by
  induction items with
  | nil => rfl
  | cons item rest ih => rw [List.flatMap_cons, kept_append, ih, List.flatMap_cons]

theorem printable_kept (s : List Char) : Printable (kept s) := by
  intro c member
  simpa using (List.mem_filter.mp member).2

theorem Printable.kept_eq (h : Printable s) : kept s = s := h.filter_eq_self

/-! ## Joining runs -/

theorem mergeRuns_congr {run : Run} {rest rest' : List Run} (h : mergeRuns rest = mergeRuns rest') :
    mergeRuns (run :: rest) = mergeRuns (run :: rest') := by
  rw [mergeRuns, mergeRuns, h]

/-- Two neighbours of one style are joined as if they had been one. -/
theorem mergeRuns_join (text text' : List Char) (style : Option String) (rest : List Run) :
    mergeRuns (⟨text, style⟩ :: ⟨text', style⟩ :: rest) =
      mergeRuns (⟨text ++ text', style⟩ :: rest) := by
  cases text with
  | nil => rfl
  | cons c text =>
    cases text' with
    | nil =>
      rw [List.append_nil]
      exact mergeRuns_congr rfl
    | cons d text' =>
      simp only [mergeRuns, List.isEmpty_cons, List.cons_append, Bool.false_eq_true, if_false]
      cases mergeRuns rest with
      | nil => simp
      | cons next others =>
        dsimp only
        by_cases same : style = next.style
        · simp [same]
        · simp [same]

/-- **Stretches of one style are one run.** -/
theorem mergeRuns_uniform {runs : List Run} {style : Option String}
    (uniform : ∀ run ∈ runs, run.style = style) (rest : List Run) :
    mergeRuns (runs ++ rest) = mergeRuns (⟨runs.flatMap (·.text), style⟩ :: rest) := by
  induction runs with
  | nil => rfl
  | cons run runs ih =>
    obtain ⟨first, others⟩ := List.forall_mem_cons.mp uniform
    obtain ⟨text, style'⟩ := run
    obtain rfl : style' = style := first
    rw [List.cons_append, mergeRuns_congr (ih others), mergeRuns_join]
    rfl

/-- Joining keeps the text. -/
theorem flatMap_mergeRuns (runs : List Run) :
    (mergeRuns runs).flatMap (·.text) = runs.flatMap (·.text) := by
  induction runs with
  | nil => rfl
  | cons run rest ih =>
    rw [mergeRuns, List.flatMap_cons, ← ih]
    split
    · next empty =>
      have none : run.text = [] := by simpa using empty
      rw [none, List.nil_append]
    · cases mergeRuns rest with
      | nil => rfl
      | cons next others =>
        dsimp only
        split <;> simp

/-! ## Stretches of tokens -/

theorem style_of_tagless {styles : List String} {tokens : List Token} (tagless : Tagless tokens) :
    ∀ run ∈ stretches styles tokens, run.style = styles.head? := by
  induction tokens with
  | nil =>
    intro run member
    rw [List.mem_singleton.mp member]
  | cons token tokens ih =>
    obtain ⟨noTag, others⟩ := List.forall_mem_cons.mp tagless
    intro run member
    cases token with
    | char c =>
      obtain ⟨old, isOld, same⟩ := mem_extendRun member
      rw [← same]
      exact ih others old isOld
    | cut =>
      rcases List.mem_cons.mp member with rfl | behind
      · rfl
      · exact ih others run behind
    | tag body => cases noTag

/-- The texts of stretches do not depend on the styles. -/
theorem map_text_stretches (styles styles' : List String) (tokens : List Token) :
    (stretches styles tokens).map (·.text) = (stretches styles' tokens).map (·.text) := by
  have extend (c : Char) (runs : List Run) :
      (extendRun c runs).map (·.text) = (runs.map (·.text)).modifyHead (c :: ·) := by
    cases runs <;> rfl
  induction tokens generalizing styles styles' with
  | nil => rfl
  | cons token tokens ih =>
    cases token with
    | char c => rw [stretches, stretches, extend, extend, ih]
    | cut => exact congrArg ([] :: ·) (ih styles styles')
    | tag body => exact congrArg ([] :: ·) (ih _ _)

theorem textOf_eq (styles : List String) (tokens : List Token) :
    textOf tokens = (stretches styles tokens).flatMap fun run => unescapeBrackets run.text := by
  have ofTexts (runs : List Run) : runs.flatMap (fun run => unescapeBrackets run.text) =
      (runs.map (·.text)).flatMap unescapeBrackets := by
    rw [List.flatMap_map]
  rw [textOf, ofTexts, ofTexts, map_text_stretches [] styles tokens]

theorem textOf_tag (body : List Char) (tokens : List Token) :
    textOf (.tag body :: tokens) = textOf tokens := (textOf_eq _ tokens).symm

/-- A tag ends the stretches in front of it. -/
theorem stretches_append_tag {tokens : List Token} (tagless : Tagless tokens)
    (styles : List String) (body : List Char) (rest : List Token) :
    stretches styles (tokens ++ .tag body :: rest) =
      stretches styles tokens ++ stretches (applyTag styles body) rest := by
  induction tokens with
  | nil => rfl
  | cons token tokens ih =>
    obtain ⟨noTag, others⟩ := List.forall_mem_cons.mp tagless
    cases token with
    | char c =>
      obtain ⟨text, more, split⟩ := stretches_eq_cons styles tokens
      rw [List.cons_append, stretches, stretches, ih others, split]
      rfl
    | cut =>
      rw [List.cons_append, stretches, stretches, ih others]
      rfl
    | tag body => cases noTag

/-- **What is printed of markup, apart from its styles**, is what its tokens are seen as. -/
theorem flatMap_renderWith (s : List Char) :
    (renderWith id s).flatMap (·.text) = kept (textOf (scan (.outside 0) s)) := by
  rw [renderWith, flatMap_mergeRuns, styledStretches, List.flatMap_map, List.flatMap_map, textOf,
    kept_flatMap]
  rfl

/-- The printed stretches of some tokens. -/
def printedStretches (codes : List Char → List Char) (styles : List String)
    (tokens : List Token) : List Run :=
  (stretches styles tokens).map fun run =>
    { run with text := kept (codes (unescapeBrackets run.text)) }

theorem renderWith_eq (codes : List Char → List Char) (s : List Char) :
    renderWith codes s = mergeRuns (printedStretches codes [] (scan (.outside 0) s)) := by
  rw [renderWith, styledStretches, List.map_map]
  rfl

theorem style_of_printedStretches {codes : List Char → List Char} {styles : List String}
    {tokens : List Token} (tagless : Tagless tokens) :
    ∀ run ∈ printedStretches codes styles tokens, run.style = styles.head? := by
  intro run member
  obtain ⟨stretch, isStretch, rfl⟩ := List.mem_map.mp member
  exact style_of_tagless tagless stretch isStretch

theorem flatMap_printedStretches (styles : List String) (tokens : List Token) :
    (printedStretches id styles tokens).flatMap (·.text) = kept (textOf tokens) := by
  rw [printedStretches, List.flatMap_map, textOf_eq styles, kept_flatMap]
  rfl

/-- Tokens without a tag are printed as one run, if they are seen at all. -/
theorem mergeRuns_printedStretches {styles : List String} {tokens : List Token}
    (tagless : Tagless tokens) (rest : List Run) :
    mergeRuns (printedStretches id styles tokens ++ rest) =
      mergeRuns (⟨kept (textOf tokens), styles.head?⟩ :: rest) := by
  rw [mergeRuns_uniform (style_of_printedStretches tagless), flatMap_printedStretches]

/-! ## Texts that are read as they are -/

/-- That what follows an opening bracket makes it begin a tag: there is one of the characters that
a tag begins with, and a closing bracket comes before another opening one. -/
def StartsTag (after : List Char) : Prop :=
  ∃ c body rest, after = c :: (body ++ ']' :: rest) ∧ isTagStart c = true ∧ '[' ∉ body

theorem closes_iff : closes s = true ↔ ∃ body rest, s = body ++ ']' :: rest ∧ '[' ∉ body := by
  constructor
  · intro closed
    induction s with
    | nil => cases closed
    | cons c s ih =>
      rw [closes] at closed
      split at closed
      · next close =>
        obtain rfl : c = ']' := by simpa using close
        exact ⟨[], s, rfl, List.not_mem_nil⟩
      split at closed
      · cases closed
      · next bracket =>
        obtain ⟨body, rest, rfl, unopened⟩ := ih closed
        have other : '[' ≠ c := fun same => bracket (by rw [same, beq_self_eq_true])
        exact ⟨c :: body, rest, rfl, List.not_mem_cons_of_ne_of_not_mem other unopened⟩
  · rintro ⟨body, rest, rfl, unopened⟩
    exact closes_append_of_unopened unopened rest

theorem isTag_iff : isTag s = true ↔ StartsTag s := by
  cases s with
  | nil => exact iff_of_false Bool.false_ne_true (by rintro ⟨_, _, _, split, _⟩; cases split)
  | cons c s =>
    rw [isTag, Bool.and_eq_true, closes_iff, StartsTag]
    constructor
    · rintro ⟨starts, body, rest, rfl, unopened⟩
      exact ⟨c, body, rest, rfl, starts, unopened⟩
    · rintro ⟨d, body, rest, split, starts, unopened⟩
      obtain ⟨rfl, rfl⟩ := List.cons.inj split
      exact ⟨starts, body, rest, rfl, unopened⟩

/-- That no backslash of a text is lost: none stands in front of a bracket that begins no tag. -/
def KeepsBackslashes (s : List Char) : Prop :=
  ∀ before after, s = before ++ '\\' :: '[' :: after → StartsTag after

theorem isLost_iff {c : Char} : isLost c s = true ↔
    ∃ after, c = '\\' ∧ s = '[' :: after ∧ ¬ StartsTag after := by
  cases s with
  | nil => exact iff_of_false Bool.false_ne_true (by rintro ⟨_, _, split, _⟩; cases split)
  | cons d s =>
    constructor
    · intro lost
      simp only [isLost, Bool.and_eq_true, beq_iff_eq, Bool.not_eq_true'] at lost
      obtain ⟨⟨rfl, rfl⟩, noTag⟩ := lost
      refine ⟨s, rfl, rfl, ?_⟩
      rw [← isTag_iff, noTag]
      exact Bool.false_ne_true
    · rintro ⟨after, rfl, split, noTag⟩
      obtain ⟨rfl, rfl⟩ := List.cons.inj split
      rw [← isTag_iff, Bool.not_eq_true] at noTag
      rw [isLost, noTag]
      rfl

theorem keepsBackslashes_cons {c : Char} :
    KeepsBackslashes (c :: s) ↔ isLost c s = false ∧ KeepsBackslashes s := by
  constructor
  · intro keeps
    constructor
    · rw [Bool.eq_false_iff]
      intro lost
      obtain ⟨after, rfl, rfl, noTag⟩ := isLost_iff.mp lost
      exact noTag (keeps [] after rfl)
    · intro before after split
      exact keeps (c :: before) after (by rw [split, List.cons_append])
  · rintro ⟨stays, others⟩ before after split
    cases before with
    | nil =>
      obtain ⟨rfl, rfl⟩ := List.cons.inj split
      refine Classical.byContradiction fun noTag => ?_
      rw [isLost_iff.mpr ⟨after, rfl, rfl, noTag⟩] at stays
      cases stays
    | cons d before => exact others before after (List.cons.inj split).2

theorem withoutLost_sublist (s : List Char) : (withoutLost s).Sublist s := by
  induction s with
  | nil => exact .slnil
  | cons c s ih =>
    rw [withoutLost]
    split
    · exact .cons c ih
    · exact .cons_cons c ih

/-- Nothing that is put at the end makes up for a backslash that is lost. -/
theorem withoutLost_append_eq_iff {added : List Char} :
    withoutLost s ++ added = s ↔ added = [] ∧ KeepsBackslashes s := by
  induction s with
  | nil =>
    have keeps : KeepsBackslashes [] := fun before after split => by simp at split
    simp [withoutLost, keeps]
  | cons c s ih =>
    rw [keepsBackslashes_cons, withoutLost]
    cases lost : isLost c s with
    | true =>
      refine iff_of_false ?_ (by rintro ⟨_, stays, _⟩; cases stays)
      -- the bracket comes where the backslash was
      obtain ⟨after, rfl, rfl, _⟩ := isLost_iff.mp lost
      rw [if_pos rfl, withoutLost, isLost_other (by decide), if_neg Bool.false_ne_true]
      intro same
      cases same
    | false =>
      rw [if_neg Bool.false_ne_true, List.cons_append, List.cons_inj_right, ih]
      simp

/-- What is left of a text, with or without something at its end, is the text itself only if all of
the text is left and nothing else. -/
theorem kept_withoutLost_append_iff {added : List Char} (visible : Printable added) :
    kept (withoutLost s ++ added) = s ↔ added = [] ∧ Printable s ∧ KeepsBackslashes s := by
  constructor
  · intro same
    have printable : Printable s := same ▸ printable_kept _
    have left : Printable (withoutLost s) :=
      fun c member => printable c ((withoutLost_sublist s).subset member)
    rw [(left.append visible).kept_eq] at same
    obtain ⟨none, keeps⟩ := withoutLost_append_eq_iff.mp same
    exact ⟨none, printable, keeps⟩
  · rintro ⟨none, printable, keeps⟩
    rw [withoutLost_append_eq_iff.mpr ⟨none, keeps⟩]
    exact printable.kept_eq

theorem kept_withoutLost_iff : kept (withoutLost s) = s ↔ Printable s ∧ KeepsBackslashes s := by
  have alone : kept (withoutLost s ++ []) = s ↔ _ := kept_withoutLost_append_iff nofun
  rw [List.append_nil] at alone
  simp [alone]

theorem endsInOneBackslash_iff : endsInOneBackslash s = true ↔ EndsIn 1 s := by
  obtain ⟨k, text, -, -⟩ := exists_endsIn s
  rw [text.endsInOneBackslash_eq, beq_iff_eq]
  constructor
  · rintro rfl
    exact text
  · exact text.unique

/-- **An escaped text is shown as it is exactly if** all of its characters are printed, none of its
backslashes is lost, and it does not end in exactly one. -/
theorem shown_eq_iff :
    kept (unescaped s) = s ↔ Printable s ∧ KeepsBackslashes s ∧ ¬ EndsIn 1 s := by
  have backslash : Printable ['\\'] := by
    intro c member
    rw [List.mem_singleton.mp member]
    rfl
  rw [← endsInOneBackslash_iff, unescaped]
  split
  · next one => simp [kept_withoutLost_append_iff backslash, one]
  · next other => simp [kept_withoutLost_iff, other]

/-! ## An escaped text by itself -/

theorem Shows.textOf_eq {tokens : List Token} (h : Shows tokens s) : textOf tokens = s := by
  have whole := h.textOf_append []
  rwa [List.append_nil, show textOf [] = [] from rfl, List.append_nil] at whole

theorem textOf_backslashes (n : Nat) : textOf (backslashes n) = List.replicate n '\\' := by
  rw [textOf, ← map_char_replicate, stretches_map_char, List.flatMap_cons,
    unescapeBrackets_replicate]
  exact List.append_nil _

theorem scan_escape_alone (s : List Char) :
    Tagless (scan (.outside 0) (escape s)) ∧
      textOf (scan (.outside 0) (escape s)) = unescaped s := by
  obtain ⟨tokens, front, k, scanned, shows, whole, -⟩ := readAs_escape (t := []) rfl s
  rw [List.append_nil] at scanned
  rw [scanned]
  show Tagless (tokens ++ backslashes k) ∧ textOf (tokens ++ backslashes k) = _
  refine ⟨shows.tagless.append (tagless_backslashes k), ?_⟩
  rw [shows.textOf_append, textOf_backslashes, whole]

theorem mergeRuns_singleton (text : List Char) (style : Option String) :
    mergeRuns [⟨text, style⟩] = if text.isEmpty then [] else [⟨text, style⟩] := rfl

/-- **An escaped text opens no style**: there is one run without a style, or none. -/
theorem renderWith_escape (codes : List Char → List Char) (s : List Char) :
    renderWith codes (escape s) = [] ∨ ∃ text, renderWith codes (escape s) = [⟨text, none⟩] := by
  have uniform : ∀ run ∈ printedStretches codes [] (scan (.outside 0) (escape s)),
      run.style = none := style_of_printedStretches (scan_escape_alone s).1
  have joined := mergeRuns_uniform uniform []
  rw [List.append_nil, ← renderWith_eq, mergeRuns_singleton] at joined
  rw [joined]
  split
  · exact .inl rfl
  · exact .inr ⟨_, rfl⟩

/-- Its text is what it is read as. -/
theorem text_renderWith_escape (s : List Char) :
    (renderWith id (escape s)).flatMap (·.text) = kept (unescaped s) := by
  rw [flatMap_renderWith, (scan_escape_alone s).2]

/-! ## An escaped text and its emoji codes -/

theorem count_kept (s : List Char) : (kept s).count ':' = s.count ':' := by
  rw [kept, List.count_filter]
  rfl

/-- Escaping makes no colons. -/
theorem count_unescaped_le (s : List Char) : (unescaped s).count ':' ≤ s.count ':' := by
  have less := (withoutLost_sublist s).count_le ':'
  rw [unescaped]
  split
  · rwa [List.count_append, show List.count ':' ['\\'] = 0 from rfl, Nat.add_zero]
  · exact less

variable [EmojiTable]

/-- Where a stretch has a known code, fewer colons are printed than the stretches have. -/
theorem noCodes_or_lt (runs : List Run) :
    (∀ run ∈ runs, replaceEmoji run.text = run.text) ∨
      (runs.flatMap fun run => printed run.text).count ':' <
        (runs.flatMap fun run => kept run.text).count ':' := by
  induction runs with
  | nil => exact .inl nofun
  | cons run runs ih =>
    rw [List.flatMap_cons, List.flatMap_cons, List.count_append, List.count_append, count_printed,
      count_kept]
    rcases replaceEmoji_eq_or_lt run.text with same | fewer
    · rw [same, List.forall_mem_cons]
      exact ih.imp (⟨same, ·⟩) fun fewer => Nat.add_lt_add_left fewer _
    · right
      refine Nat.add_lt_add_of_lt_of_le fewer ?_
      rcases ih with same | fewer
      · have each : ∀ run ∈ runs, printed run.text = kept run.text := by
          intro run member
          rw [printed, same run member]
          rfl
        have texts : runs.map (fun run => printed run.text) = runs.map (fun run => kept run.text) :=
          List.map_congr_left each
        rw [List.flatMap_def, List.flatMap_def]
        exact Nat.le_of_eq (congrArg (fun texts => List.count ':' texts.flatten) texts)
      · exact Nat.le_of_lt fewer

/-- **An escaped text is printed as it is exactly if** no piece of it has a known emoji code, and it
is shown as it is where codes are left aside. -/
theorem text_render_escape_iff : (render (escape s)).flatMap (·.text) = s ↔
    NoCodes (escape s) ∧ Printable s ∧ KeepsBackslashes s ∧ ¬ EndsIn 1 s := by
  have aside := text_renderWith_escape s
  rw [← shown_eq_iff, ← aside]
  constructor
  · intro same
    have none : NoCodes (escape s) := by
      refine (noCodes_or_lt (styledStretches (escape s))).resolve_right fun fewer => ?_
      -- the colons of a code would be missing from the text
      rw [renderWith, flatMap_mergeRuns, List.flatMap_map] at aside
      rw [render, flatMap_mergeRuns, List.flatMap_map] at same
      have most := count_unescaped_le s
      rw [← count_kept, ← aside] at most
      rw [same] at fewer
      exact Nat.lt_irrefl _ (Nat.lt_of_lt_of_le fewer most)
    exact ⟨none, render_eq_of_noCodes none ▸ same⟩
  · rintro ⟨none, same⟩
    rw [render_eq_of_noCodes none]
    exact same

end OwnerBuild.Markup
