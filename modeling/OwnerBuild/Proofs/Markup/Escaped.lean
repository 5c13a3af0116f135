/-
# OwnerBuild.Proofs.Markup.Escaped -- what escaping keeps from being carried out

In an escaped text no tag is carried out, so the styles of a line that is put together from words
and escaped texts are the ones that the words open (`style_render_line`). What is between two tags
stays there: a blank is never part of an emoji code and is never taken out, so a stretch with a
blank in it is seen in its style (`exists_render_line`).
-/

import OwnerBuild.Proofs.Markup.Reading

namespace OwnerBuild.Markup

variable {s t : List Char}

/-! ## Styled lines -/

theorem ReadTo.trans {mode : ScanMode} {s' : List Char} (first : ReadTo mode s s')
    (second : ∀ n, ReadTo (.outside n) s' t) : ReadTo mode s t := by
  obtain ⟨tokens, n, tagless, scanned⟩ := first
  exact (second n).after tokens tagless scanned

/-- Words in which no bracket opens are read without a tag. -/
theorem readTo_words {words : List Char} (unopened : '[' ∉ words) (n : Nat) (t : List Char) :
    ReadTo (.outside n) (words ++ t) t := by
  induction words generalizing n with
  | nil => exact ⟨[], n, tagless_nil, rfl⟩
  | cons c words ih =>
    obtain ⟨noBracket, others⟩ := beq_of_notMem unopened
    cases backslash : c == '\\' with
    | true =>
      obtain rfl : c = '\\' := by simpa using backslash
      exact ih others (n + 1)
    | false =>
      refine (ih others 0).after (backslashes n ++ [.char c]) ?_ ?_
      · exact .append (tagless_backslashes n) (.cons rfl tagless_nil)
      · rw [List.cons_append, scan_plain n backslash (by rw [noBracket, Bool.false_and]),
          List.append_assoc]
        rfl

/-- In such words there is no tag to the end. -/
theorem tagless_scan {words : List Char} (unopened : '[' ∉ words) (n : Nat) :
    Tagless (scan (.outside n) words) := by
  obtain ⟨tokens, m, tagless, scanned⟩ := readTo_words unopened n []
  rw [List.append_nil] at scanned
  rw [scanned]
  exact tagless.append (tagless_backslashes m)

/-- That a word between brackets is a tag. -/
structure IsTagName (name : List Char) : Prop where
  starts : ∃ c rest, name = c :: rest ∧ isTagStart c = true
  unopened : '[' ∉ name
  unclosed : ']' ∉ name

variable {name : List Char}

theorem closes_append_of_unopened (unopened : '[' ∉ name) (rest : List Char) :
    closes (name ++ ']' :: rest) = true := by
  induction name with
  | nil => rfl
  | cons c name ih =>
    obtain ⟨noBracket, others⟩ := beq_of_notMem unopened
    rw [List.cons_append, closes, noBracket, ih others]
    simp

/-- An opening bracket is looked for no further than the next one. -/
theorem closes_append_of_unclosed (unclosed : ']' ∉ name) (rest : List Char) :
    closes (name ++ '[' :: rest) = false := by
  induction name with
  | nil => rfl
  | cons c name ih =>
    obtain ⟨noBracket, others⟩ := beq_of_notMem unclosed
    rw [List.cons_append, closes, noBracket, ih others]
    simp

namespace IsTagName

theorem isTag (isName : IsTagName name) (rest : List Char) :
    Markup.isTag (name ++ ']' :: rest) = true := by
  obtain ⟨⟨c, others, rfl, starts⟩, unopened, unclosed⟩ := isName
  have closed : closes (others ++ ']' :: rest) = true :=
    closes_append_of_unopened (beq_of_notMem unopened).2 rest
  rw [List.cons_append, Markup.isTag, starts, closed]
  rfl

/-- With a slash in front it is a tag, too. -/
theorem closing (isName : IsTagName name) : IsTagName ('/' :: name) where
  starts := ⟨'/', name, rfl, rfl⟩
  unopened := by simpa using isName.unopened
  unclosed := by simpa using isName.unclosed

end IsTagName

theorem scan_tag (unclosed : ']' ∉ name) (read rest : List Char) :
    scan (.tag read) (name ++ ']' :: rest) =
      .tag (read.reverse ++ name) :: scan (.outside 0) rest := by
  induction name generalizing read with
  | nil =>
    rw [List.append_nil]
    rfl
  | cons c name ih =>
    obtain ⟨noBracket, others⟩ := beq_of_notMem unclosed
    rw [List.cons_append, scan, noBracket, if_neg Bool.false_ne_true, ih others]
    simp

theorem tagless_scan_literal {words : List Char} (unopened : '[' ∉ words) :
    Tagless (scan .literal words) := by
  induction words with
  | nil => exact tagless_nil
  | cons c words ih =>
    have others : '[' ∉ words := (beq_of_notMem unopened).2
    rw [scan]
    split
    · -- a closing bracket ends what is literal, and what follows is words again
      exact .cons rfl (.cons rfl (tagless_scan others 0))
    · exact .cons rfl (ih others)

/-- A tag that is not behind a backslash is carried out. -/
theorem scan_opening (isName : IsTagName name) (rest : List Char) :
    scan (.outside 0) ('[' :: (name ++ ']' :: rest)) =
      .cut :: .cut :: .tag name :: scan (.outside 0) rest := by
  rw [scan, isName.isTag rest]
  exact congrArg (Token.cut :: Token.cut :: ·) (scan_tag isName.unclosed [] rest)

/-- Of a tag with words behind it there is no other tag, whether it is carried out or not. -/
theorem tag_mem_scan_bracket {words body : List Char} (isName : IsTagName name)
    (unopened : '[' ∉ words) {n : Nat}
    (h : .tag body ∈ scan (.outside n) ('[' :: (name ++ ']' :: words))) : body = name := by
  have untagged : ∀ tokens, Tagless tokens → .tag body ∉ tokens := by
    intro tokens tagless member
    cases tagless _ member
  have whole : '[' ∉ name ++ ']' :: words := by
    simp [isName.unopened, unopened]
  rw [scan_bracket n (isName.isTag words), scan_tag isName.unclosed] at h
  rcases List.mem_append.mp h with front | behind
  · exact absurd front (untagged _ (.cons rfl (tagless_backslashes _)))
  · rcases List.mem_cons.mp behind with cut | behind
    · cases cut
    · split at behind
      · exact absurd behind (untagged _ (.cons rfl (tagless_scan_literal whole)))
      · rcases List.mem_cons.mp behind with same | later
        · simpa using same
        · exact absurd later (untagged _ (tagless_scan unopened 0))

/-- **The only tags of a styled line are those that style it**, whatever text is escaped in it. -/
theorem tag_mem_scan_line {words after body : List Char} (isName : IsTagName name)
    (unopened : '[' ∉ words) (unclosed : ']' ∉ words) (unopened' : '[' ∉ after) (text : List Char)
    (h : .tag body ∈ scan (.outside 0) ('[' :: (name ++ ']' :: (escape text ++
      (words ++ '[' :: ('/' :: name ++ ']' :: after)))))) :
    body = name ∨ body = '/' :: name := by
  rw [scan_opening isName] at h
  have inner : ReadTo (.outside 0)
      (escape text ++ (words ++ '[' :: ('/' :: name ++ ']' :: after)))
      ('[' :: ('/' :: name ++ ']' :: after)) :=
    (scan_escape (closes_append_of_unclosed unclosed _) text).trans
      fun n => readTo_words unopened n _
  obtain ⟨tokens, n, tagless, scanned⟩ := inner
  rw [scanned] at h
  rcases List.mem_cons.mp h with cut | h
  · cases cut
  rcases List.mem_cons.mp h with cut | h
  · cases cut
  rcases List.mem_cons.mp h with same | h
  · left
    simpa using same
  rcases List.mem_append.mp h with within | behind
  · cases tagless _ within
  · exact .inr (tag_mem_scan_bracket isName.closing unopened' behind)

/-! ## Runs and their styles -/

theorem mem_extendRun {c : Char} {runs : List Run} {run : Run} (h : run ∈ extendRun c runs) :
    ∃ old ∈ runs, old.style = run.style := by
  cases runs with
  | nil => cases h
  | cons first rest =>
    rcases List.mem_cons.mp h with rfl | behind
    · exact ⟨first, .head _, rfl⟩
    · exact ⟨run, .tail _ behind, rfl⟩

/-- The style that a tag opens. -/
def styleOf (body : List Char) : String := String.ofList (Text.trim body)

/-- A tag opens its own style, or closes one. -/
theorem mem_applyTag {styles : List String} {body : List Char} {style : String}
    (h : style ∈ applyTag styles body) :
    style ∈ styles ∨ body.head? ≠ some '/' ∧ style = styleOf body := by
  unfold applyTag at h
  split at h
  · split at h
    · exact .inl (List.mem_of_mem_tail h)
    · exact .inl (List.mem_of_mem_erase h)
  · next opens =>
    rcases List.mem_cons.mp h with rfl | outer
    · right
      refine ⟨fun slash => ?_, rfl⟩
      obtain ⟨rest, rfl⟩ := List.head?_eq_some_iff.mp slash
      exact opens rest rfl
    · exact .inl outer

/-- **A stretch has a style that was open, or one that a tag opens.** -/
theorem style_mem_stretches {styles : List String} {tokens : List Token} {run : Run}
    {style : String} (h : run ∈ stretches styles tokens) (isStyle : run.style = some style) :
    style ∈ styles ∨ ∃ body, .tag body ∈ tokens ∧ body.head? ≠ some '/' ∧ style = styleOf body := by
  induction tokens generalizing styles run with
  | nil =>
    rw [List.mem_singleton.mp h] at isStyle
    exact .inl (List.mem_of_head? isStyle)
  | cons token tokens ih =>
    have later : ∀ {styles : List String} {run : Run}, run ∈ stretches styles tokens →
        run.style = some style →
        style ∈ styles ∨ ∃ body, .tag body ∈ token :: tokens ∧ body.head? ≠ some '/' ∧
          style = styleOf body := by
      intro styles run member isStyle
      refine (ih member isStyle).imp_right ?_
      rintro ⟨body, isTag, opens⟩
      exact ⟨body, .tail _ isTag, opens⟩
    cases token with
    | char c =>
      obtain ⟨old, member, same⟩ := mem_extendRun h
      exact later member (same.trans isStyle)
    | cut =>
      rcases List.mem_cons.mp h with rfl | behind
      · exact .inl (List.mem_of_head? isStyle)
      · exact later behind isStyle
    | tag body =>
      rcases List.mem_cons.mp h with rfl | behind
      · exact .inl (List.mem_of_head? isStyle)
      · rcases later behind isStyle with inner | opened
        · refine (mem_applyTag inner).imp_right ?_
          rintro ⟨opens, same⟩
          exact ⟨body, .head _, opens, same⟩
        · exact .inr opened

/-- Joining leaves the styles of the stretches that have any text. -/
theorem style_mem_mergeRuns_iff {runs : List Run} {style : Option String} :
    (∃ run ∈ mergeRuns runs, run.style = style) ↔
      ∃ run ∈ runs, run.text ≠ [] ∧ run.style = style := by
  induction runs with
  | nil => simp [mergeRuns]
  | cons run rest ih =>
    rw [mergeRuns]
    split
    · next empty =>
      have none : run.text = [] := by simpa using empty
      rw [ih]
      simp [none]
    · next visible =>
      have some : run.text ≠ [] := by simpa using visible
      have front : (∃ r ∈ run :: rest, r.text ≠ [] ∧ r.style = style) ↔
          run.style = style ∨ ∃ r ∈ mergeRuns rest, r.style = style := by
        rw [ih]
        simp [some]
      rw [front]
      cases mergeRuns rest with
      | nil => simp
      | cons next others =>
        dsimp only
        split
        · next same => simp [same]
        · simp

/-- What is seen in a style is what is printed of the stretches in that style. -/
theorem style_mem_render_iff [EmojiTable] {style : Option String} :
    (∃ run ∈ render s, run.style = style) ↔
      ∃ run ∈ stretches [] (scan (.outside 0) s),
        printed (unescapeBrackets run.text) ≠ [] ∧ run.style = style := by
  rw [render, style_mem_mergeRuns_iff, styledStretches, List.map_map]
  constructor
  · rintro ⟨_, member, visible, isStyle⟩
    obtain ⟨stretch, isStretch, rfl⟩ := List.mem_map.mp member
    exact ⟨stretch, isStretch, visible, isStyle⟩
  · rintro ⟨stretch, isStretch, visible, isStyle⟩
    exact ⟨_, List.mem_map.mpr ⟨stretch, isStretch, rfl⟩, visible, isStyle⟩

/-- **A styled line has no other style**, whatever text is escaped in it. -/
theorem style_render_line [EmojiTable] {words after : List Char} (isName : IsTagName name)
    (unopened : '[' ∉ words) (unclosed : ']' ∉ words) (unopened' : '[' ∉ after) (text : List Char)
    {run : Run} {style : String}
    (h : run ∈ render ('[' :: (name ++ ']' :: (escape text ++
      (words ++ '[' :: ('/' :: name ++ ']' :: after))))))
    (isStyle : run.style = some style) : style = styleOf name := by
  obtain ⟨stretch, member, _, same⟩ := style_mem_render_iff.mp ⟨run, h, isStyle⟩
  rcases style_mem_stretches member same with none | ⟨body, isTag, opens, rfl⟩
  · cases none
  · rcases tag_mem_scan_line isName unopened unclosed unopened' text isTag with rfl | rfl
    · rfl
    · exact absurd rfl opens

/-! ## What is seen -/

/-- There is no blank in an emoji code. -/
theorem emojiCode?_visible {code : EmojiCode} (h : emojiCode? s = some code) :
    ∀ c ∈ s.take code.length, Text.isBlank c = false := by
  induction s generalizing code with
  | nil => cases h
  | cons c rest ih =>
    rw [emojiCode?] at h
    split at h
    · next v found =>
      cases h
      have opens : v.1 <+: c :: rest := by simpa using List.find?_some found
      have visible : ∀ v ∈ emojiVariants, v.1.all (fun c => !Text.isBlank c) = true := by decide
      rw [List.prefix_iff_eq_take.mp opens |>.symm]
      simpa using visible v (List.mem_of_find?_eq_some found)
    · split at h
      · cases h
      · next visible =>
        obtain ⟨inner, isInner, rfl⟩ := Option.map_eq_some_iff.mp h
        rw [List.take_succ_cons]
        exact List.forall_mem_cons.mpr ⟨by simpa using visible, ih isInner⟩

/-- Replacing emoji codes leaves the blanks where they are. -/
theorem mem_replaceEmojiFrom [EmojiTable] {c : Char} (blank : Text.isBlank c = true) (m : EmojiMode)
    (h : c ∈ s.drop m.dropped) : c ∈ replaceEmojiFrom m s := by
  induction s generalizing m with
  | nil => simp at h
  | cons d rest ih =>
    have looked : c ∈ d :: rest → c ∈ replaceEmojiFrom .look (d :: rest) := by
      intro member
      have kept : ∀ m, EmojiMode.dropped m = 0 → c ∈ d :: replaceEmojiFrom m rest := by
        intro m none
        rcases List.mem_cons.mp member with rfl | behind
        · exact .head _
        · exact .tail _ (ih m (by rwa [none]))
      rw [replaceEmojiFrom]
      split
      · next colon =>
        split
        · exact kept .look rfl
        · next code found =>
          split
          · -- a known code is left out, and there is no blank in it
            have notColon : c ≠ d := by
              obtain rfl : d = ':' := by simpa using colon
              rintro rfl
              cases blank
            have behind : c ∈ rest := (List.mem_cons.mp member).resolve_left notColon
            rw [← List.take_append_drop code.length rest] at behind
            rcases List.mem_append.mp behind with inside | after
            · rw [emojiCode?_visible found c inside] at blank
              cases blank
            · exact List.mem_append_right _ (ih (.drop code.length) after)
          · exact kept (.keep code.length) rfl
      · exact kept .look rfl
    cases m with
    | look => exact looked h
    | keep n =>
      cases n with
      | zero => exact looked h
      | succ n =>
        rcases List.mem_cons.mp h with rfl | behind
        · exact .head _
        · exact .tail _ (ih (.keep n) behind)
    | drop n =>
      cases n with
      | zero => exact looked h
      | succ n => exact ih (.drop n) h

theorem mem_unescapeBrackets {c : Char} (plain : c ≠ '\\') (h : c ∈ s) :
    c ∈ unescapeBrackets s := by
  fun_induction unescapeBrackets s with
  | case1 => exact h
  | case2 d => exact h
  | case3 d e rest escaped ih =>
    have backslash : d = '\\' := by simpa using (Bool.and_eq_true_iff.mp escaped).1
    rcases List.mem_cons.mp h with rfl | behind
    · exact absurd backslash plain
    · rcases List.mem_cons.mp behind with rfl | later
      · exact .head _
      · exact .tail _ (ih later)
  | case4 d e rest unescaped ih =>
    rcases List.mem_cons.mp h with rfl | behind
    · exact .head _
    · exact .tail _ (ih behind)

/-- A blank that is no control character is printed. -/
theorem printed_ne_nil [EmojiTable] {c : Char} (blank : Text.isBlank c = true)
    (visible : isTerminalControl c = false) (h : c ∈ s) : printed s ≠ [] := by
  have kept : c ∈ replaceEmoji s := mem_replaceEmojiFrom blank .look h
  have member : c ∈ printed s := List.mem_filter.mpr ⟨kept, by rw [visible]; rfl⟩
  exact List.ne_nil_of_mem member

/-- A character is in a stretch of the style that is open there. -/
theorem exists_stretch (styles : List String) {first : List Token} (tagless : Tagless first)
    (c : Char) (rest : List Token) :
    ∃ run ∈ stretches styles (first ++ .char c :: rest),
      c ∈ run.text ∧ run.style = styles.head? := by
  induction first with
  | nil =>
    obtain ⟨text, others, split⟩ := stretches_eq_cons styles rest
    refine ⟨⟨c :: text, styles.head?⟩, ?_, .head _, rfl⟩
    rw [List.nil_append, stretches, split]
    exact .head _
  | cons token first ih =>
    obtain ⟨notTag, others⟩ := List.forall_mem_cons.mp tagless
    obtain ⟨run, member, inside, isStyle⟩ := ih others
    cases token with
    | char d =>
      rw [List.cons_append, stretches]
      generalize stretches styles (first ++ .char c :: rest) = runs at member
      cases member with
      | head => exact ⟨_, .head _, .tail _ inside, isStyle⟩
      | tail _ behind => exact ⟨run, .tail _ behind, inside, isStyle⟩
    | cut => exact ⟨run, .tail _ member, inside, isStyle⟩
    | tag body => cases notTag

/-- **A styled line with a blank among its words is seen in its style.** -/
theorem exists_render_line [EmojiTable] {words : List Char} (isName : IsTagName name)
    (opens : name.head? ≠ some '/') (unopened : '[' ∉ words) (unclosed : ']' ∉ words)
    (blank : ' ' ∈ words) (text after : List Char) :
    ∃ run ∈ render ('[' :: (name ++ ']' :: (escape text ++
      (words ++ '[' :: ('/' :: name ++ ']' :: after))))), run.style = some (styleOf name) := by
  obtain ⟨before, behind, rfl⟩ := List.append_of_mem blank
  have unopened' : '[' ∉ before := fun member => unopened (List.mem_append_left _ member)
  have inner : ReadTo (.outside 0)
      (escape text ++ ((before ++ ' ' :: behind) ++ '[' :: ('/' :: name ++ ']' :: after)))
      (' ' :: (behind ++ '[' :: ('/' :: name ++ ']' :: after))) := by
    refine (scan_escape (closes_append_of_unclosed unclosed _) text).trans fun n => ?_
    rw [List.append_assoc]
    exact readTo_words unopened' n _
  obtain ⟨tokens, n, tagless, scanned⟩ := inner
  have opened : applyTag [] name = [styleOf name] := by
    obtain ⟨⟨c, rest, rfl, _⟩, _⟩ := isName
    have noSlash : c ≠ '/' := by simpa using opens
    unfold applyTag
    split
    · next slash => exact absurd (List.cons.inj slash).1 noSlash
    · rfl
  obtain ⟨run, member, inside, isStyle⟩ := exists_stretch [styleOf name]
    (tagless.append (tagless_backslashes n)) ' '
    (scan (.outside 0) (behind ++ '[' :: ('/' :: name ++ ']' :: after)))
  refine style_mem_render_iff.mpr ⟨run, ?_, ?_, isStyle⟩
  · rw [scan_opening isName, scanned, scan_plain n rfl rfl, ← List.append_assoc]
    refine .tail _ (.tail _ (.tail _ ?_))
    rwa [opened]
  · exact printed_ne_nil (by decide) (by decide) (mem_unescapeBrackets (by decide) inside)

end OwnerBuild.Markup
