/-
# OwnerBuild.Proofs.Markup.Reading -- how an escaped text is read

Escaping and reading markup both count the backslashes in front of a bracket, and do different
things with the number: the one doubles it and adds one, the other halves it. They look for tags at
the same brackets, so every bracket that begins a tag stands behind an odd number of backslashes
once it has been escaped, and is read as text (`scan_escape`).

What is read as text is not always the text that was escaped. A bracket that begins no tag loses
the backslash in front of it, if there is one, because it is taken for an escaped bracket; and a
text that ends in one backslash ends in two when it has been escaped. `unescaped` says this by
itself, and `readAs_escape` that it is what is read, whatever stands behind the escaped text as long
as it closes no bracket that the text leaves open. The backslashes at the very end are counted
together with what stands behind them, so they are kept apart (`ReadAs`).

All inductions go over the groups that a text consists of, each some backslashes and a character
that is none (`backslashes_induction`), since neither scan decides anything before the end of a
group.
-/

import OwnerBuild.Proofs.Markup.Verbatim

namespace OwnerBuild.Markup

variable {s t : List Char}

/-! ## Groups of backslashes -/

/-- What holds of backslashes alone, and of a text behind some backslashes and another character if
it holds of the text, holds of every text. -/
theorem backslashes_induction {P : List Char → Prop}
    (all : ∀ n, P (List.replicate n '\\'))
    (group : ∀ n c rest, c ≠ '\\' → P rest → P (List.replicate n '\\' ++ c :: rest))
    (s : List Char) : P s := by
  suffices behind : ∀ n, P (List.replicate n '\\' ++ s) from behind 0
  induction s with
  | nil =>
    intro n
    rw [List.append_nil]
    exact all n
  | cons c rest ih =>
    intro n
    by_cases backslash : c = '\\'
    · rw [backslash, List.append_cons, ← List.replicate_succ']
      exact ih (n + 1)
    · exact group n c rest backslash (ih 0)

/-- Whether a character is a bracket that begins a tag. -/
def beginsTag (c : Char) (rest : List Char) : Bool := c == '[' && isTag rest

theorem escapeFrom_backslashes (m n : Nat) (s : List Char) :
    escapeFrom m (List.replicate n '\\' ++ s) = escapeFrom (m + n) s := by
  induction n generalizing m with
  | zero => rfl
  | succ n ih =>
    show escapeFrom (m + 1) (List.replicate n '\\' ++ s) = _
    rw [ih, Nat.add_assoc, Nat.add_comm 1 n]

/-- Backslashes alone are not escaped. -/
theorem escapeFrom_replicate (n : Nat) :
    escapeFrom 0 (List.replicate n '\\') = List.replicate n '\\' := by
  have read := escapeFrom_backslashes 0 n []
  rwa [List.append_nil, Nat.zero_add] at read

/-- In front of a bracket that begins a tag backslashes are doubled, and one more is put there. -/
theorem escapeFrom_group {c : Char} (n : Nat) (other : c ≠ '\\') (rest : List Char) :
    escapeFrom 0 (List.replicate n '\\' ++ c :: rest) =
      List.replicate (if beginsTag c rest then 2 * n + 1 else n) '\\' ++
        c :: escapeFrom 0 rest := by
  rw [escapeFrom_backslashes, Nat.zero_add, escapeFrom, beq_eq_false_iff_ne.mpr other,
    if_neg Bool.false_ne_true]
  cases begins : c == '[' && isTag rest with
  | true =>
    obtain rfl : c = '[' := by simpa using (Bool.and_eq_true_iff.mp begins).1
    rw [if_pos rfl, beginsTag, begins, if_pos rfl]
  | false => rw [if_neg Bool.false_ne_true, beginsTag, begins, if_neg Bool.false_ne_true]

/-! ## Brackets that begin a tag -/

theorem closes_backslashes (n : Nat) (s : List Char) :
    closes (List.replicate n '\\' ++ s) = closes s := by
  induction n with
  | zero => rfl
  | succ n ih => exact ih

theorem isTag_backslashes (n : Nat) (s : List Char) :
    isTag (List.replicate (n + 1) '\\' ++ s) = false := rfl

/-- A tag is closed before any bracket opens. -/
theorem closes_of_isTag (h : isTag s = true) : closes s = true := by
  cases s with
  | nil => exact h
  | cons c rest =>
    obtain ⟨starts, closed⟩ := Bool.and_eq_true_iff.mp h
    have other : (c == '[') = false := by
      refine beq_eq_false_iff_ne.mpr ?_
      rintro rfl
      cases starts
    rw [closes, other, closed]
    simp

section Behind

variable (open_ : closes t = false)
include open_

/-- Escaping neither closes a bracket nor opens one. -/
theorem closes_escapeFrom (s : List Char) : closes (escapeFrom 0 s ++ t) = closes s := by
  induction s using backslashes_induction with
  | all n =>
    have none : closes (List.replicate n '\\') = false := by
      have read := closes_backslashes n []
      rwa [List.append_nil] at read
    rw [escapeFrom_replicate, closes_backslashes, open_, none]
  | group n c rest other ih =>
    rw [escapeFrom_group n other, List.append_assoc, closes_backslashes, closes_backslashes,
      List.cons_append, closes, closes, ih]

/-- The brackets that begin a tag are the same behind escaping. -/
theorem isTag_escapeFrom (s : List Char) : isTag (escapeFrom 0 s ++ t) = isTag s := by
  induction s using backslashes_induction with
  | all n =>
    rw [escapeFrom_replicate]
    cases n with
    | zero =>
      show isTag t = false
      rw [Bool.eq_false_iff]
      intro tag
      rw [closes_of_isTag tag] at open_
      cases open_
    | succ n => rfl
  | group n c rest other _ =>
    rw [escapeFrom_group n other]
    cases begins : beginsTag c rest with
    | true =>
      -- no tag begins with a bracket, and none with the backslash that is put in front of it
      obtain rfl : c = '[' := by simpa using (Bool.and_eq_true_iff.mp begins).1
      rw [if_pos rfl, List.append_assoc, isTag_backslashes]
      cases n <;> rfl
    | false =>
      rw [if_neg Bool.false_ne_true]
      cases n with
      | zero =>
        show (isTagStart c && closes (escapeFrom 0 rest ++ t)) = (isTagStart c && closes rest)
        rw [closes_escapeFrom open_]
      | succ n => rfl

end Behind

/-! ## What is read of an escaped text -/

/-- Whether a character is a backslash that is lost, because the bracket behind it begins no tag. -/
def isLost (c : Char) : List Char → Bool
  | [] => false
  | d :: rest => c == '\\' && d == '[' && !isTag rest

/-- A text without the backslashes that are lost. -/
def withoutLost : List Char → List Char
  | [] => []
  | c :: rest => if isLost c rest then withoutLost rest else c :: withoutLost rest

/-- What an escaped text is read as. -/
def unescaped (s : List Char) : List Char :=
  if endsInOneBackslash s then withoutLost s ++ ['\\'] else withoutLost s

theorem isLost_other {c : Char} (other : c ≠ '\\') (rest : List Char) : isLost c rest = false := by
  have backslash : (c == '\\') = false := beq_eq_false_iff_ne.mpr other
  cases rest with
  | nil => rfl
  | cons d rest => rw [isLost, backslash, Bool.false_and, Bool.false_and]

theorem withoutLost_replicate (n : Nat) :
    withoutLost (List.replicate n '\\') = List.replicate n '\\' := by
  induction n with
  | zero => rfl
  | succ n ih =>
    have kept : isLost '\\' (List.replicate n '\\') = false := by cases n <;> rfl
    rw [List.replicate_succ, withoutLost, kept, if_neg Bool.false_ne_true, ih]

/-- The number of backslashes that are left of those in front of a character. -/
def leftOf (n : Nat) (c : Char) (rest : List Char) : Nat :=
  if c == '[' && !isTag rest then n - 1 else n

/-- Of a group the last backslash is lost, or none. -/
theorem withoutLost_group {c : Char} (n : Nat) (other : c ≠ '\\') (rest : List Char) :
    withoutLost (List.replicate n '\\' ++ c :: rest) =
      List.replicate (leftOf n c rest) '\\' ++ c :: withoutLost rest := by
  induction n with
  | zero =>
    have none : leftOf 0 c rest = 0 := ite_self 0
    rw [none]
    show withoutLost (c :: rest) = c :: withoutLost rest
    rw [withoutLost, isLost_other other, if_neg Bool.false_ne_true]
  | succ n ih =>
    rw [List.replicate_succ, List.cons_append, withoutLost, ih]
    cases n with
    | zero =>
      show (if c == '[' && !isTag rest then _ else _) = _
      rw [leftOf, leftOf]
      split <;> rfl
    | succ n =>
      -- the character behind this backslash is another one
      show '\\' :: _ = _
      rw [leftOf, leftOf]
      split <;> rfl

/-! ## What tokens show -/

/-- Whether a token is a tag. -/
def Token.isTag : Token → Bool
  | .tag _ => true
  | _ => false

/-- That there is no tag among some tokens. -/
def Tagless (tokens : List Token) : Prop := ∀ token ∈ tokens, token.isTag = false

theorem tagless_nil : Tagless [] := nofun

theorem Tagless.cons {token : Token} {tokens : List Token} (first : token.isTag = false)
    (others : Tagless tokens) : Tagless (token :: tokens) :=
  List.forall_mem_cons.mpr ⟨first, others⟩

theorem Tagless.append {tokens others : List Token} (h : Tagless tokens) (h' : Tagless others) :
    Tagless (tokens ++ others) :=
  fun token member => (List.mem_append.mp member).elim (h token) (h' token)

theorem tagless_backslashes (n : Nat) : Tagless (backslashes n) := by
  intro token member
  rw [List.eq_of_mem_replicate member]
  rfl

/-- The first stretch has the style that is open. -/
theorem stretches_eq_cons (styles : List String) (tokens : List Token) :
    ∃ text rest, stretches styles tokens = ⟨text, styles.head?⟩ :: rest := by
  induction tokens with
  | nil => exact ⟨_, _, rfl⟩
  | cons token tokens ih =>
    cases token with
    | char c =>
      obtain ⟨text, rest, split⟩ := ih
      exact ⟨c :: text, rest, by rw [stretches, split]; rfl⟩
    | cut => exact ⟨_, _, rfl⟩
    | tag body => exact ⟨_, _, rfl⟩

/-- The text that tokens are seen as, apart from its styles and before it is printed. -/
def textOf (tokens : List Token) : List Char :=
  (stretches [] tokens).flatMap fun run => unescapeBrackets run.text

theorem textOf_cut (tokens : List Token) : textOf (.cut :: tokens) = textOf tokens := rfl

/-- Characters are seen together with the rest of their stretch. -/
theorem exists_textOf (tokens : List Token) : ∃ first others, ∀ front : List Char,
    textOf (front.map .char ++ tokens) = unescapeBrackets (front ++ first) ++ others := by
  obtain ⟨first, rest, split⟩ := stretches_eq_cons [] tokens
  refine ⟨first, rest.flatMap fun run => unescapeBrackets run.text, fun front => ?_⟩
  have together : stretches [] (front.map .char ++ tokens) =
      ⟨front ++ first, none⟩ :: rest := by
    induction front with
    | nil => exact split
    | cons c front ih =>
      show extendRun c (stretches [] (front.map .char ++ tokens)) = _
      rw [ih]
      rfl
  rw [textOf, together, List.flatMap_cons]

theorem unescapeBrackets_cons {c : Char} (other : c ≠ '\\') (s : List Char) :
    unescapeBrackets (c :: s) = c :: unescapeBrackets s := by
  cases s with
  | nil => rfl
  | cons d s =>
    rw [unescapeBrackets, beq_eq_false_iff_ne.mpr other, Bool.false_and,
      if_neg Bool.false_ne_true]

theorem unescapeBrackets_replicate (n : Nat) :
    unescapeBrackets (List.replicate n '\\') = List.replicate n '\\' := by
  induction n with
  | zero => rfl
  | succ n ih =>
    cases n with
    | zero => rfl
    | succ n => exact congrArg ('\\' :: ·) ih

/-- Of the backslashes in front of a bracket the last one is left out. -/
theorem unescapeBrackets_group {c : Char} (n : Nat) (other : c ≠ '\\') (s : List Char) :
    unescapeBrackets (List.replicate n '\\' ++ c :: s) =
      List.replicate (if c == '[' then n - 1 else n) '\\' ++ c :: unescapeBrackets s := by
  induction n with
  | zero =>
    have none : (if c == '[' then 0 - 1 else 0) = 0 := ite_self 0
    rw [none]
    exact unescapeBrackets_cons other s
  | succ n ih =>
    cases n with
    | zero =>
      show unescapeBrackets ('\\' :: c :: s) = _
      rw [unescapeBrackets, beq_self_eq_true, Bool.true_and]
      split
      · rfl
      · exact congrArg ('\\' :: ·) (unescapeBrackets_cons other s)
    | succ n =>
      show '\\' :: unescapeBrackets (List.replicate (n + 1) '\\' ++ c :: s) = _
      rw [ih]
      split <;> rfl

/-- That some tokens are seen as a text wherever they stand, and open and close no style. -/
structure Shows (tokens : List Token) (text : List Char) : Prop where
  tagless : Tagless tokens
  textOf_append : ∀ behind, textOf (tokens ++ behind) = text ++ textOf behind

theorem shows_nil : Shows [] [] := ⟨tagless_nil, fun _ => rfl⟩

theorem Shows.append {tokens others : List Token} (h : Shows tokens s) (h' : Shows others t) :
    Shows (tokens ++ others) (s ++ t) where
  tagless := h.tagless.append h'.tagless
  textOf_append := by
    intro behind
    rw [List.append_assoc, h.textOf_append, h'.textOf_append, List.append_assoc]

theorem shows_cut : Shows [.cut] [] := ⟨.cons rfl tagless_nil, textOf_cut⟩

theorem map_char_replicate (n : Nat) : (List.replicate n '\\').map .char = backslashes n :=
  List.map_replicate

/-- Backslashes in front of a cut are seen. -/
theorem shows_backslashes (n : Nat) : Shows (backslashes n ++ [.cut]) (List.replicate n '\\') where
  tagless := (tagless_backslashes n).append (.cons rfl tagless_nil)
  textOf_append := by
    intro behind
    have together : stretches [] (backslashes n ++ .cut :: behind) =
        ⟨List.replicate n '\\', none⟩ :: stretches [] behind := by
      induction n with
      | zero => rfl
      | succ n ih =>
        show extendRun '\\' (stretches [] (backslashes n ++ .cut :: behind)) = _
        rw [ih]
        rfl
    rw [List.append_assoc, textOf]
    show (stretches [] (backslashes n ++ .cut :: behind)).flatMap _ = _
    rw [together, List.flatMap_cons, unescapeBrackets_replicate]
    rfl

/-- Backslashes in front of a character are seen, but for the last one in front of a bracket. -/
theorem shows_group {c : Char} (n : Nat) (other : c ≠ '\\') : Shows (backslashes n ++ [.char c])
    (List.replicate (if c == '[' then n - 1 else n) '\\' ++ [c]) where
  tagless := (tagless_backslashes n).append (.cons rfl tagless_nil)
  textOf_append := by
    intro behind
    obtain ⟨first, others, together⟩ := exists_textOf behind
    have whole : backslashes n ++ [.char c] ++ behind =
        (List.replicate n '\\' ++ [c]).map .char ++ behind := by
      rw [List.map_append, map_char_replicate]
      rfl
    have alone : textOf behind = unescapeBrackets first ++ others := together []
    rw [whole, together, List.append_assoc, List.singleton_append, unescapeBrackets_group n other,
      alone]
    simp

/-! ## Escaped texts are read without tags -/

/-- Backslashes are counted. -/
theorem scan_backslashes (n k : Nat) (s : List Char) :
    scan (.outside n) (List.replicate k '\\' ++ s) = scan (.outside (n + k)) s := by
  induction k generalizing n with
  | zero => rfl
  | succ k ih =>
    show scan (.outside (n + 1)) (List.replicate k '\\' ++ s) = _
    rw [ih, Nat.add_assoc, Nat.add_comm 1 k]

theorem scan_literal_backslashes (k : Nat) (s : List Char) :
    scan .literal (List.replicate k '\\' ++ s) = backslashes k ++ scan .literal s := by
  induction k with
  | zero => rfl
  | succ k ih => exact congrArg (Token.char '\\' :: ·) ih

/-- A character that is no backslash, and no bracket that begins a tag, is read as it is. -/
theorem scan_plain {c : Char} (n : Nat) (backslash : (c == '\\') = false)
    (plain : (c == '[' && isTag s) = false) :
    scan (.outside n) (c :: s) = backslashes n ++ .char c :: scan (.outside 0) s := by
  rw [scan, backslash, plain]
  rfl

/-- A bracket that begins a tag is literal behind an odd number of backslashes. -/
theorem scan_bracket (n : Nat) (begins : isTag s = true) :
    scan (.outside n) ('[' :: s) = .cut :: backslashes (n / 2) ++
      .cut :: if n % 2 == 1 then .char '[' :: scan .literal s else scan (.tag []) s := by
  rw [scan, begins]
  rfl

/-- That a text is read as another one, without a tag, up to where a third one begins. The
backslashes at its end are only counted: what becomes of them is settled by what stands behind. -/
def ReadAs (mode : ScanMode) (s t text : List Char) : Prop :=
  ∃ tokens front k, scan mode s = tokens ++ scan (.outside k) t ∧ Shows tokens front ∧
    text = front ++ List.replicate k '\\' ∧ front.getLast? ≠ some '\\'

/-- What is read first, up to a character that is no backslash, comes in front. -/
theorem ReadAs.after {mode mode' : ScanMode} {s' first text : List Char} {c : Char}
    {tokens : List Token} (shows : Shows tokens (first ++ [c])) (other : c ≠ '\\')
    (read : scan mode' s' = tokens ++ scan mode s) (rest : ReadAs mode s t text) :
    ReadAs mode' s' t (first ++ c :: text) := by
  obtain ⟨others, front, k, scanned, shows', rfl, last⟩ := rest
  refine ⟨tokens ++ others, (first ++ [c]) ++ front, k, ?_, shows.append shows', ?_, ?_⟩
  · rw [read, scanned, List.append_assoc]
  · simp
  · rw [List.getLast?_append]
    cases ended : front.getLast? with
    | none => simpa using other
    | some d => simpa [ended] using last

/-- **An escaped text is read without a tag**, as the text without the backslashes that are
lost. -/
theorem readAs_escapeFrom (open_ : closes t = false) (s : List Char) :
    ReadAs (.outside 0) (escapeFrom 0 s ++ t) t (withoutLost s) ∧
      (closes s = true → ReadAs .literal (escapeFrom 0 s ++ t) t (withoutLost s)) := by
  induction s using backslashes_induction with
  | all n =>
    rw [escapeFrom_replicate, withoutLost_replicate]
    constructor
    · refine ⟨[], [], n, ?_, shows_nil, rfl, nofun⟩
      rw [scan_backslashes, Nat.zero_add]
      rfl
    · intro closed
      have none := closes_backslashes n []
      rw [List.append_nil, closed] at none
      cases none
  | group n c rest other ih =>
    obtain ⟨outside, literal⟩ := ih
    have noBackslash : (c == '\\') = false := beq_eq_false_iff_ne.mpr other
    have same : isTag (escapeFrom 0 rest ++ t) = isTag rest := isTag_escapeFrom open_ rest
    rw [escapeFrom_group n other, withoutLost_group n other]
    constructor
    · cases begins : beginsTag c rest with
      | true =>
        obtain ⟨bracket, tag⟩ := Bool.and_eq_true_iff.mp begins
        obtain rfl : c = '[' := by simpa using bracket
        have kept : leftOf n '[' rest = n := by rw [leftOf, tag]; rfl
        rw [kept, if_pos rfl]
        have shows : Shows (.cut :: backslashes n ++ .cut :: [.char '['])
            (List.replicate n '\\' ++ ['[']) := by
          have cuts := shows_cut.append (shows_backslashes n)
          have bracket : Shows [.char '['] ['['] := shows_group 0 (by decide)
          have all := cuts.append bracket
          simpa using all
        refine .after shows other ?_ (literal (closes_of_isTag tag))
        -- the backslash that escaping adds makes the bracket literal
        have half : (2 * n + 1) / 2 = n := by omega
        have odd : ((2 * n + 1) % 2 == 1) = true := by simp
        rw [List.append_assoc, scan_backslashes, Nat.zero_add, List.cons_append,
          scan_bracket _ (same.trans tag), half, odd, if_pos rfl]
        simp
      | false =>
        have lost : leftOf n c rest = if c == '[' then n - 1 else n := by
          rw [leftOf]
          cases bracket : c == '[' with
          | false => rfl
          | true =>
            rw [beginsTag, bracket] at begins
            have none : isTag rest = false := begins
            rw [none]
            rfl
        rw [lost, if_neg Bool.false_ne_true]
        refine .after (shows_group n other) other ?_ outside
        have plain : (c == '[' && isTag (escapeFrom 0 rest ++ t)) = false := by rwa [same]
        rw [List.append_assoc, scan_backslashes, Nat.zero_add, List.cons_append,
          scan_plain n noBackslash plain]
        simp
    · intro closed
      rw [closes_backslashes, closes] at closed
      have noBracket : (c == '[') = false := by
        cases bracket : c == '[' with
        | false => rfl
        | true =>
          obtain rfl : c = '[' := by simpa using bracket
          cases closed
      have kept : leftOf n c rest = n := by rw [leftOf, noBracket]; rfl
      have plain : beginsTag c rest = false := by rw [beginsTag, noBracket]; rfl
      have shows : Shows (backslashes n ++ [.char c]) (List.replicate n '\\' ++ [c]) := by
        have group := shows_group n other
        rwa [noBracket, if_neg Bool.false_ne_true] at group
      rw [kept, plain, if_neg Bool.false_ne_true, List.append_assoc, List.cons_append]
      cases close : c == ']' with
      | true =>
        -- a closing bracket ends what is literal
        have ended : Shows (backslashes n ++ [.char c] ++ [.cut])
            (List.replicate n '\\' ++ [c]) := by
          have both := shows.append shows_cut
          rwa [List.append_nil] at both
        refine .after ended other ?_ outside
        rw [scan_literal_backslashes, scan, close]
        simp
      | false =>
        rw [close, noBracket] at closed
        refine .after shows other ?_ (literal closed)
        rw [scan_literal_backslashes, scan, close]
        simp

/-! ## Backslashes at the end -/

/-- That a text ends in a number of backslashes and no more. -/
def EndsIn (k : Nat) (s : List Char) : Prop :=
  ∃ front, s = front ++ List.replicate k '\\' ∧ front.getLast? ≠ some '\\'

/-- Backslashes at the end, and what is in front of them, can be told from the text. -/
theorem eq_of_append_backslashes {front front' : List Char} {k k' : Nat}
    (last : front.getLast? ≠ some '\\') (last' : front'.getLast? ≠ some '\\')
    (h : front ++ List.replicate k '\\' = front' ++ List.replicate k' '\\') :
    front = front' ∧ k = k' := by
  have ended (s : List Char) (n : Nat) :
      (s ++ List.replicate (n + 1) '\\').getLast? = some '\\' := by
    rw [List.replicate_succ', ← List.append_assoc]
    exact List.getLast?_concat
  induction k generalizing k' with
  | zero =>
    rw [List.replicate_zero, List.append_nil] at h
    cases k' with
    | zero => exact ⟨by simpa using h, rfl⟩
    | succ k' => exact absurd (h ▸ ended front' k') last
  | succ k ih =>
    cases k' with
    | zero =>
      rw [List.replicate_zero, List.append_nil] at h
      exact absurd (h ▸ ended front k) last'
    | succ k' =>
      rw [List.replicate_succ', List.replicate_succ', ← List.append_assoc,
        ← List.append_assoc] at h
      obtain ⟨same, rfl⟩ := ih (List.append_cancel_right h)
      exact ⟨same, rfl⟩

theorem EndsIn.unique {k k' : Nat} (h : EndsIn k s) (h' : EndsIn k' s) : k = k' := by
  obtain ⟨front, whole, last⟩ := h
  obtain ⟨front', whole', last'⟩ := h'
  exact (eq_of_append_backslashes last last' (whole.symm.trans whole')).2

theorem endsIn_replicate (n : Nat) : EndsIn n (List.replicate n '\\') := ⟨[], rfl, nofun⟩

/-- What is in front of a character that is no backslash does not count. -/
theorem EndsIn.after {k : Nat} {c : Char} (other : c ≠ '\\') (front : List Char)
    (h : EndsIn k s) : EndsIn k (front ++ c :: s) := by
  obtain ⟨inner, rfl, last⟩ := h
  refine ⟨(front ++ [c]) ++ inner, by simp, ?_⟩
  rw [List.getLast?_append]
  cases ended : inner.getLast? with
  | none => simpa using other
  | some d => simpa [ended] using last

/-- **Neither escaping nor reading an escaped text changes the number of backslashes at its end**,
apart from the one that is put there. -/
theorem exists_endsIn (s : List Char) :
    ∃ k, EndsIn k s ∧ EndsIn k (withoutLost s) ∧ EndsIn k (escapeFrom 0 s) := by
  induction s using backslashes_induction with
  | all n =>
    rw [withoutLost_replicate, escapeFrom_replicate]
    exact ⟨n, endsIn_replicate n, endsIn_replicate n, endsIn_replicate n⟩
  | group n c rest other ih =>
    obtain ⟨k, text, left, escaped⟩ := ih
    rw [withoutLost_group n other, escapeFrom_group n other]
    exact ⟨k, text.after other _, left.after other _, escaped.after other _⟩

/-- Whether a text ends in one backslash is seen from its last two characters. -/
theorem endsInOneBackslash_eq {front : List Char} (last : front.getLast? ≠ some '\\') (k : Nat) :
    endsInOneBackslash (front ++ List.replicate k '\\') = (k == 1) := by
  have reversed : front.reverse.head? ≠ some '\\' := by rwa [List.head?_reverse]
  unfold endsInOneBackslash
  rw [List.reverse_append, List.reverse_replicate]
  generalize front.reverse = back at reversed
  cases k with
  | zero =>
    rw [List.replicate_zero, List.nil_append]
    cases back with
    | nil => rfl
    | cons d rest =>
      have other : d ≠ '\\' := by simpa using reversed
      split <;> simp_all
  | succ k =>
    cases k with
    | zero =>
      cases back with
      | nil => rfl
      | cons d rest =>
        show (d != '\\') = true
        simpa using reversed
    | succ k => rfl

theorem EndsIn.endsInOneBackslash_eq {k : Nat} (h : EndsIn k s) :
    endsInOneBackslash s = (k == 1) := by
  obtain ⟨front, rfl, last⟩ := h
  exact Markup.endsInOneBackslash_eq last k

/-- **An escaped text is read without a tag**, unless a bracket that it leaves open is closed
behind it. -/
theorem readAs_escape (open_ : closes t = false) (s : List Char) :
    ReadAs (.outside 0) (escape s ++ t) t (unescaped s) := by
  obtain ⟨k, text, -, escaped⟩ := exists_endsIn s
  have same : endsInOneBackslash (escapeFrom 0 s) = endsInOneBackslash s := by
    rw [escaped.endsInOneBackslash_eq, text.endsInOneBackslash_eq]
  have written : escape s = if endsInOneBackslash s then escapeFrom 0 s ++ ['\\']
      else escapeFrom 0 s := by
    rw [← same]
    rfl
  rw [written, unescaped]
  split
  · -- the backslash at the end is counted with those in front of it
    have still : closes ('\\' :: t) = false := open_
    obtain ⟨tokens, front, n, scanned, shows, whole, last⟩ := (readAs_escapeFrom still s).1
    refine ⟨tokens, front, n + 1, ?_, shows, ?_, last⟩
    · rw [List.append_assoc]
      exact scanned
    · rw [whole, List.append_assoc, ← List.replicate_succ']
  · exact (readAs_escapeFrom open_ s).1

/-- That a text is read without a tag up to where another one begins. -/
def ReadTo (mode : ScanMode) (s t : List Char) : Prop :=
  ∃ tokens n, Tagless tokens ∧ scan mode s = tokens ++ scan (.outside n) t

theorem ReadTo.after {mode mode' : ScanMode} {s' : List Char} (first : List Token)
    (tagless : Tagless first) (read : scan mode' s' = first ++ scan mode s)
    (rest : ReadTo mode s t) : ReadTo mode' s' t := by
  obtain ⟨tokens, n, others, scanned⟩ := rest
  exact ⟨first ++ tokens, n, tagless.append others, by rw [read, scanned, List.append_assoc]⟩

/-- **In an escaped text no tag is carried out**, unless a bracket that it leaves open is closed
behind it. -/
theorem scan_escape (open_ : closes t = false) (s : List Char) :
    ReadTo (.outside 0) (escape s ++ t) t := by
  obtain ⟨tokens, front, n, scanned, shows, -, -⟩ := readAs_escape open_ s
  exact ⟨tokens, n, shows.tagless, scanned⟩

end OwnerBuild.Markup
