/-
# OwnerBuild.Proofs.Markup.StyledLine -- where an escaped text is shown as it is in a styled line

A styled line is words in a style, an escaped text among them, and some words behind it. What is
read of it is said in two steps: up to the closing tag it is read as the words and as what the text
is read as by itself (`readAs_line`), and the backslashes that are left there are read together with
the tag. An even number of them is halved and the style is closed (`renderWith_closed`); behind an
odd number the tag is text and the style goes on to the end of the line
(`text_renderWith_unclosed`).

So the place of the text decides. In front of words it is shown as it is exactly if it is so by
itself (`renderWith_lineMarkup_words_iff`). In front of the closing tag one backslash at its end
does no harm, because escaping has made it two, but two become one and three keep the style open
(`renderWith_lineMarkup_iff`).
-/

import OwnerBuild.Proofs.Markup.Shown

namespace OwnerBuild.Markup

variable {s t : List Char}

/-! ## Tags and words -/

/-- That a tag opens a style, and the closing tag of the same name closes it. -/
structure StyleTag (name : List Char) (style : String) : Prop extends IsTagName name where
  plain : '\\' ∉ name
  opened : applyTag [] name = [style]
  closed : applyTag [style] ('/' :: name) = []

/-- Words that are printed as they are wherever they stand. -/
structure Plain (words : List Char) : Prop where
  unmarked : ∀ c ∈ words, c ≠ '[' ∧ c ≠ '\\'
  printable : Printable words

variable {name before text words after : List Char} {style : String}

theorem Plain.cons {c : Char} (h : Plain (c :: words)) : (c ≠ '[' ∧ c ≠ '\\') ∧ Plain words := by
  obtain ⟨first, others⟩ := List.forall_mem_cons.mp h.unmarked
  exact ⟨first, others, (List.forall_mem_cons.mp h.printable).2⟩

theorem Plain.append (h : Plain words) (h' : Plain after) : Plain (words ++ after) where
  unmarked := by
    intro c member
    rcases List.mem_append.mp member with front | behind
    · exact h.unmarked c front
    · exact h'.unmarked c behind
  printable := h.printable.append h'.printable

/-- Whether a character is printed as it is wherever it stands. -/
def isPlain (c : Char) : Bool := c != '[' && c != '\\' && !isTerminalControl c

theorem plain_iff : words.all isPlain = true ↔ Plain words := by
  constructor
  · intro all
    have each : ∀ c ∈ words, (c ≠ '[' ∧ c ≠ '\\') ∧ isTerminalControl c = false := by
      simpa [isPlain] using all
    exact ⟨fun c member => (each c member).1, fun c member => (each c member).2⟩
  · intro plain
    rw [List.all_eq_true]
    intro c member
    simp [isPlain, plain.unmarked c member, plain.printable c member]

instance (words : List Char) : Decidable (Plain words) := decidable_of_iff _ plain_iff

/-- Digits are such words. -/
theorem plain_repr (n : Nat) : Plain n.repr.toList := by
  rw [← plain_iff, List.all_eq_true]
  intro c digit
  have inert : isInert c = true := List.all_eq_true.mp (all_inert_repr n) c digit
  simp only [isInert, Bool.and_eq_true] at inert
  simp only [isPlain, Bool.and_eq_true]
  exact ⟨inert.1.1, inert.2⟩

theorem shows_char {c : Char} (other : c ≠ '\\') : Shows [.char c] [c] := by
  have group := shows_group 0 other
  rwa [ite_self] at group

theorem shows_chars (plain : '\\' ∉ words) : Shows (words.map .char) words := by
  induction words with
  | nil => exact shows_nil
  | cons c words ih =>
    have others := ih (List.not_mem_of_not_mem_cons plain)
    exact (shows_char (List.ne_of_not_mem_cons plain).symm).append others

/-! ## Words around what is read -/

/-- Words in front of what is read are read as they are. -/
theorem ReadAs.behind (plain : Plain words) (h : ReadAs (.outside 0) s t text) :
    ReadAs (.outside 0) (words ++ s) t (words ++ text) := by
  induction words with
  | nil => exact h
  | cons c words ih =>
    obtain ⟨⟨bracket, backslash⟩, others⟩ := plain.cons
    have shows : Shows [.char c] ([] ++ [c]) := shows_char backslash
    refine .after shows backslash ?_ (ih others)
    rw [List.cons_append, scan_plain 0 (by simpa using backslash) (by simp [bracket])]
    rfl

/-- Words behind it settle what becomes of its backslashes, and are read as they are. -/
theorem ReadAs.inFront {mode : ScanMode} (plain : Plain words)
    (h : ReadAs mode s (words ++ t) text) : ReadAs mode s t (text ++ words) := by
  cases words with
  | nil => rwa [List.append_nil]
  | cons c words =>
    obtain ⟨tokens, front, k, scanned, shows, rfl, -⟩ := h
    obtain ⟨⟨bracket, backslash⟩, others⟩ := plain.cons
    have noBackslash : '\\' ∉ c :: words := fun member => (plain.unmarked _ member).2 rfl
    have noBracket : (c == '[') = false := beq_eq_false_iff_ne.mpr bracket
    have group : Shows (backslashes k ++ [.char c]) (List.replicate k '\\' ++ [c]) := by
      have shown := shows_group k backslash
      rwa [noBracket, if_neg Bool.false_ne_true] at shown
    have behind := group.append (shows_chars (List.not_mem_of_not_mem_cons noBackslash))
    refine ⟨_, _, 0, ?_, shows.append behind, by simp, fun last => noBackslash ?_⟩
    · rw [scanned, List.cons_append, scan_plain k (by simpa using backslash) (by simp [bracket]),
        scan_append_eq others.unmarked]
      simp
    · have ended : (c :: words).getLast? = some '\\' := by
        simpa [List.getLast?_append, List.getLast?_cons] using last
      exact List.mem_of_getLast? ended

/-! ## The closing tag -/

/-- Words in a style and words behind them, as far as there are any. -/
def styledRuns (style : String) (inside after : List Char) : List Run :=
  [⟨inside, some style⟩, ⟨after, none⟩].filter fun run => !run.text.isEmpty

theorem mergeRuns_pair (style : String) (inside after : List Char) :
    mergeRuns [⟨inside, some style⟩, ⟨after, none⟩] = styledRuns style inside after := by
  cases inside <;> cases after <;> simp [mergeRuns, styledRuns]

theorem flatMap_styledRuns (style : String) (inside after : List Char) :
    (styledRuns style inside after).flatMap (·.text) = inside ++ after := by
  rw [← mergeRuns_pair, flatMap_mergeRuns]
  simp

theorem styledRuns_inj {inside inside' : List Char} :
    styledRuns style inside after = styledRuns style inside' after ↔ inside = inside' := by
  constructor
  · intro same
    have texts := congrArg (fun runs : List Run => runs.flatMap (·.text)) same
    rw [flatMap_styledRuns, flatMap_styledRuns] at texts
    exact List.append_cancel_right texts
  · rintro rfl
    rfl

theorem scan_literal_name (unclosed : ']' ∉ name) (rest : List Char) :
    scan .literal (name ++ ']' :: rest) =
      name.map .char ++ .char ']' :: .cut :: scan (.outside 0) rest := by
  induction name with
  | nil => rfl
  | cons c name ih =>
    obtain ⟨noBracket, others⟩ := beq_of_notMem unclosed
    rw [List.cons_append, scan, noBracket, if_neg Bool.false_ne_true, ih others]
    rfl

/-- What stands between the tags is one run in the style, and what stands behind them one without
it. -/
theorem mergeRuns_styled (isStyle : StyleTag name style) (plain : Plain after)
    {inside : List Token} (tagless : Tagless inside) :
    mergeRuns (printedStretches id [] (.cut :: .cut :: .tag name ::
        (inside ++ .tag ('/' :: name) :: after.map .char))) =
      styledRuns style (kept (textOf inside)) after := by
  have noBackslash : ∀ c ∈ after, c ≠ '\\' := fun c member => (plain.unmarked c member).2
  have behind : printedStretches id [] (after.map .char) = [⟨after, none⟩] := by
    rw [printedStretches, stretches_map_char, List.map_singleton,
      unescapeBrackets_eq_self noBackslash]
    exact congrArg (fun text => [Run.mk text none]) plain.printable.kept_eq
  -- the stretches in front of the opening tag are empty
  have split : printedStretches id [] (.cut :: .cut :: .tag name ::
        (inside ++ .tag ('/' :: name) :: after.map .char)) =
      ⟨[], none⟩ :: ⟨[], none⟩ :: ⟨[], none⟩ ::
        (printedStretches id [style] inside ++ [⟨after, none⟩]) := by
    rw [← behind, printedStretches, stretches, stretches, stretches, isStyle.opened,
      stretches_append_tag tagless, isStyle.closed]
    simp [printedStretches, unescapeBrackets, kept]
  rw [split, ← mergeRuns_pair]
  exact mergeRuns_printedStretches tagless [⟨after, none⟩]

section Closing

variable {inner front : List Char} {tokens : List Token} {k : Nat}
variable (isStyle : StyleTag name style) (plain : Plain after)
  (scanned : scan (.outside 0) inner =
    tokens ++ scan (.outside k) ('[' :: ('/' :: name ++ ']' :: after)))
  (shows : Shows tokens front)
include isStyle plain scanned shows

/-- **Behind an even number of backslashes the style is closed**, and half of them are seen. -/
theorem renderWith_closed (even : k % 2 = 0) :
    renderWith id ('[' :: (name ++ ']' :: inner)) =
      styledRuns style (kept (front ++ List.replicate (k / 2) '\\')) after := by
  have inside : Shows (tokens ++ (.cut :: backslashes (k / 2) ++ [.cut]))
      (front ++ List.replicate (k / 2) '\\') :=
    shows.append (shows_cut.append (shows_backslashes (k / 2)))
  have read : scan (.outside 0) ('[' :: (name ++ ']' :: inner)) =
      .cut :: .cut :: .tag name :: (tokens ++ (.cut :: backslashes (k / 2) ++ [.cut]) ++
        .tag ('/' :: name) :: after.map .char) := by
    rw [scan_opening isStyle.toIsTagName, scanned,
      scan_bracket k (isStyle.closing.isTag after), scan_tag isStyle.closing.unclosed,
      scan_eq_map plain.unmarked, even]
    simp
  rw [renderWith_eq, read, mergeRuns_styled isStyle plain inside.tagless, inside.textOf_eq]

/-- Behind an odd number of backslashes the closing tag is text. -/
theorem text_renderWith_unclosed (odd : k % 2 = 1) :
    (renderWith id ('[' :: (name ++ ']' :: inner))).flatMap (·.text) =
      kept (front ++ List.replicate (k / 2) '\\' ++ '[' :: '/' :: name) ++ ']' :: after := by
  have literal : Shows (('[' :: '/' :: name ++ [']']).map .char ++ [.cut])
      ('[' :: '/' :: name ++ [']'] ++ []) :=
    (shows_chars (by simp [isStyle.plain])).append shows_cut
  have inside := (shows.append (shows_cut.append (shows_backslashes (k / 2)))).append literal
  have read : scan (.outside 0) ('[' :: (name ++ ']' :: inner)) =
      .cut :: .cut :: .tag name :: (tokens ++ ([.cut] ++ (backslashes (k / 2) ++ [.cut])) ++
        (('[' :: '/' :: name ++ [']']).map .char ++ [.cut]) ++ after.map .char) := by
    rw [scan_opening isStyle.toIsTagName, scanned,
      scan_bracket k (isStyle.closing.isTag after), scan_literal_name isStyle.closing.unclosed,
      scan_eq_map plain.unmarked, odd]
    simp
  have behind : textOf (after.map .char) = after :=
    (shows_chars fun member => (plain.unmarked _ member).2 rfl).textOf_eq
  rw [flatMap_renderWith, read, textOf_cut, textOf_cut, textOf_tag, inside.textOf_append, behind,
    kept_append, plain.printable.kept_eq]
  have whole : front ++ ([] ++ List.replicate (k / 2) '\\') ++ ('[' :: '/' :: name ++ [']'] ++ []) =
      (front ++ List.replicate (k / 2) '\\' ++ '[' :: '/' :: name) ++ [']'] := by simp
  rw [whole, kept_append, List.append_assoc]
  rfl

end Closing

/-! ## Styled lines -/

/-- The markup of a line that begins with words in a style, an escaped text among them, and goes on
with other words. -/
def lineMarkup (name before text words after : List Char) : List Char :=
  '[' :: (name ++ ']' :: (before ++ (escape text ++
    (words ++ '[' :: ('/' :: name ++ ']' :: after)))))

theorem readAs_line (plainBefore : Plain before) (plainWords : Plain words)
    (unclosed : ']' ∉ words) (text rest : List Char) :
    ReadAs (.outside 0) (before ++ (escape text ++ (words ++ '[' :: rest))) ('[' :: rest)
      (before ++ (unescaped text ++ words)) := by
  have read := readAs_escape (closes_append_of_unclosed unclosed rest) text
  apply ReadAs.behind plainBefore
  exact read.inFront plainWords

/-- **In front of words a text is shown as it is exactly if** it is so by itself. -/
theorem renderWith_lineMarkup_words_iff (isStyle : StyleTag name style)
    (plainBefore : Plain before) (plainWords : Plain words) (some : words ≠ [])
    (unclosed : ']' ∉ words) (plainAfter : Plain after) (text : List Char) :
    renderWith id (lineMarkup name before text words after) =
        styledRuns style (before ++ (text ++ words)) after ↔
      Printable text ∧ KeepsBackslashes text ∧ ¬ EndsIn 1 text := by
  obtain ⟨tokens, front, k, scanned, shows, whole, last⟩ :=
    readAs_line plainBefore plainWords unclosed text ('/' :: name ++ ']' :: after)
  -- the last of the words is no backslash
  obtain ⟨words', c, rfl⟩ := List.eq_nil_or_concat words |>.resolve_left some
  have other : c ≠ '\\' := (plainWords.unmarked c (by simp)).2
  have none : k = 0 := by
    refine EndsIn.unique ⟨front, whole, last⟩ ⟨_, (List.append_nil _).symm, ?_⟩
    simpa [← List.append_assoc] using other
  subst none
  rw [List.replicate_zero, List.append_nil] at whole
  have shown := renderWith_closed isStyle plainAfter scanned shows rfl
  rw [lineMarkup, shown, styledRuns_inj, ← shown_eq_iff, Nat.zero_div, List.replicate_zero,
    List.append_nil, ← whole, kept_append, kept_append, plainBefore.printable.kept_eq,
    plainWords.printable.kept_eq, List.append_cancel_left_eq, List.append_cancel_right_eq]

/-- What is left of a text, and what it is read as, differ in the backslashes at the end. -/
theorem exists_front (s : List Char) : ∃ front k, EndsIn k s ∧ front.getLast? ≠ some '\\' ∧
    withoutLost s = front ++ List.replicate k '\\' ∧
    unescaped s = front ++ List.replicate (if k = 1 then 2 else k) '\\' := by
  obtain ⟨k, text, ⟨front, left, last⟩, -⟩ := exists_endsIn s
  refine ⟨front, k, text, last, left, ?_⟩
  rw [unescaped, text.endsInOneBackslash_eq, left]
  by_cases one : k = 1
  · subst one
    exact List.append_assoc ..
  · simp [one]

theorem EndsIn.isSuffix_iff {k : Nat} (h : EndsIn k s) (n : Nat) :
    List.replicate n '\\' <:+ s ↔ n ≤ k := by
  constructor
  · rintro ⟨before, rfl⟩
    obtain ⟨m, ⟨inner, rfl, last⟩, -⟩ := exists_endsIn before
    have more : EndsIn (m + n) (inner ++ List.replicate m '\\' ++ List.replicate n '\\') :=
      ⟨inner, by rw [List.append_assoc, List.replicate_append_replicate], last⟩
    rw [h.unique more]
    exact Nat.le_add_left n m
  · intro enough
    obtain ⟨front, rfl, -⟩ := h
    obtain ⟨m, rfl⟩ := Nat.exists_eq_add_of_le' enough
    rw [← List.replicate_append_replicate, ← List.append_assoc]
    exact List.suffix_append ..

theorem Plain.getLast?_append (plain : Plain words) (last : s.getLast? ≠ some '\\') :
    (words ++ s).getLast? ≠ some '\\' := by
  rw [List.getLast?_append]
  cases ended : s.getLast? with
  | some d => simpa [ended] using last
  | none => exact fun isLast => (plain.unmarked _ (List.mem_of_getLast? isLast)).2 rfl

section AtTag

variable (isStyle : StyleTag name style) (plainBefore : Plain before) (plainAfter : Plain after)

include plainBefore in
/-- Up to the closing tag a line is read as what is left of the text, with one backslash at its end
counted twice. -/
theorem exists_scan_line (text rest : List Char) : ∃ tokens front n, EndsIn n text ∧
    withoutLost text = front ++ List.replicate n '\\' ∧ Shows tokens (before ++ front) ∧
    scan (.outside 0) (before ++ (escape text ++ '[' :: rest)) =
      tokens ++ scan (.outside (if n = 1 then 2 else n)) ('[' :: rest) := by
  have noWords : Plain [] := ⟨nofun, nofun⟩
  obtain ⟨tokens, whole, k, scanned, shows, split, last⟩ :=
    readAs_line plainBefore noWords List.not_mem_nil text rest
  obtain ⟨front, n, ends, frontLast, left, read⟩ := exists_front text
  obtain ⟨rfl, rfl⟩ : before ++ front = whole ∧ (if n = 1 then 2 else n) = k := by
    apply eq_of_append_backslashes (plainBefore.getLast?_append frontLast) last
    rw [← split, List.append_nil, read, List.append_assoc]
  exact ⟨tokens, front, n, ends, left, shows, scanned⟩

include isStyle plainBefore plainAfter

/-- Up to one backslash in front of the closing tag is shown. -/
theorem renderWith_lineMarkup_few (text : List Char) (few : ¬ ['\\', '\\'] <:+ text) :
    renderWith id (lineMarkup name before text [] after) =
      styledRuns style (before ++ kept (withoutLost text)) after := by
  obtain ⟨tokens, front, n, ends, left, shows, scanned⟩ :=
    exists_scan_line plainBefore text ('/' :: name ++ ']' :: after)
  have small : ¬ 2 ≤ n := fun many => few ((ends.isSuffix_iff 2).mpr many)
  have even : (if n = 1 then 2 else n) % 2 = 0 := by split <;> omega
  have half : (if n = 1 then 2 else n) / 2 = n := by split <;> omega
  have shown := renderWith_closed isStyle plainAfter scanned shows even
  rw [half, List.append_assoc, ← left, kept_append, plainBefore.printable.kept_eq] at shown
  exact shown

/-- Two of them are not. -/
theorem renderWith_lineMarkup_many (text : List Char) (many : ['\\', '\\'] <:+ text) :
    renderWith id (lineMarkup name before text [] after) ≠
      styledRuns style (before ++ text) after := by
  obtain ⟨tokens, front, n, ends, left, shows, scanned⟩ :=
    exists_scan_line plainBefore text ('/' :: name ++ ']' :: after)
  have two : 2 ≤ n := (ends.isSuffix_iff 2).mp many
  rw [if_neg (by omega)] at scanned
  intro shown
  rw [lineMarkup, List.nil_append] at shown
  rcases Nat.mod_two_eq_zero_or_one n with even | odd
  · -- half of the backslashes at the end are gone, and nothing makes up for them
    rw [renderWith_closed isStyle plainAfter scanned shows even, styledRuns_inj] at shown
    have most := List.length_filter_le (fun c => !isTerminalControl c)
      (before ++ front ++ List.replicate (n / 2) '\\')
    have fewer := (withoutLost_sublist text).length_le
    have lengths := congrArg List.length shown
    simp only [kept, left, List.length_append, List.length_replicate] at most fewer lengths
    omega
  · -- the text would end in the closing tag
    have texts := text_renderWith_unclosed isStyle plainAfter scanned shows odd
    rw [shown, flatMap_styledRuns, List.append_cons] at texts
    have closing := congrArg List.getLast? (List.append_cancel_right texts)
    obtain ⟨inner, rfl⟩ := many
    simp at closing

/-- **In front of the closing tag a text is shown as it is exactly if** all of its characters are
printed, none of its backslashes is lost, and it does not end in two. -/
theorem renderWith_lineMarkup_iff (text : List Char) :
    renderWith id (lineMarkup name before text [] after) =
        styledRuns style (before ++ text) after ↔
      Printable text ∧ KeepsBackslashes text ∧ ¬ ['\\', '\\'] <:+ text := by
  by_cases many : ['\\', '\\'] <:+ text
  · have differs := renderWith_lineMarkup_many isStyle plainBefore plainAfter text many
    simp [differs, many]
  · rw [renderWith_lineMarkup_few isStyle plainBefore plainAfter text many, styledRuns_inj,
      List.append_cancel_left_eq, kept_withoutLost_iff]
    simp [many]

end AtTag

end OwnerBuild.Markup
