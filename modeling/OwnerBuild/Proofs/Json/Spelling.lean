/-
# OwnerBuild.Proofs.Json.Spelling -- all texts of a value

The same value has many texts. White space may stand between tokens, a character of a string
may stand for itself or be escaped in up to three ways, and a number has as many literals as it
has decimal notations. `Spells s v` says that `s` is a text of `v`; it is the grammar of JSON,
production by production, and knows nothing of the machine that reads it. The words for numbers
that are none belong to it, since they are read as well, and an integer part is only as long as
the reader allows.

Whatever text of a value is taken, the machine reads that value from it: in the middle of a text
(`Spells.run`) and as all of it (`read?_of_spells`), provided the value lies nowhere deeper than
values may. The proof is an induction on the derivation with one lemma for each production. That
nothing else is read is the other half of `read?_eq_some_iff`, which builds on this one.

One text that JSON's grammar allows is none here: an escape for one half of a pair has no part in
any text unless the other half stands behind it. A string is a list of characters and half of a
pair is none, so there is no value that such a text could be of, and the machine refuses it too.
-/

import OwnerBuild.Proofs.Json.Around

namespace OwnerBuild.Json

open Text (digitsValue hexDigit hexDigits signed)

/-! ## The grammar of strings -/

/-- White space between tokens. -/
def IsGap (s : List Char) : Prop := ∀ c ∈ s, State.isSpace c = true

/-- The escapes of one letter, with what they stand for. -/
def shortEscapes : List (Char × Char) :=
  [('"', '"'), ('\\', '\\'), ('/', '/'), ('b', '\x08'), ('f', '\x0c'), ('n', '\n'), ('r', '\r'),
    ('t', '\t')]

/-- Whether a character is a hexadecimal digit, which may be a capital. -/
def IsHex (c digit : Char) : Prop := c = digit ∨ c = digit.toUpper

/-- The escape of a code of four digits. -/
inductive SpellsUnit (n : Nat) : List Char → Prop
  | mk {digits : List Char} (small : n < 0x10000) (h : List.Forall₂ IsHex digits (hexDigits 4 n)) :
      SpellsUnit n ('\\' :: 'u' :: digits)

/-- A character within a string: as it is, as one of the two kinds of escapes, or as the escapes
of the two halves of a pair. One half without the other is no character. -/
inductive SpellsChar : List Char → Char → Prop
  | plain {c : Char} (visible : 0x20 ≤ c.toNat) (quote : c ≠ '"') (backslash : c ≠ '\\') :
      SpellsChar [c] c
  | short {letter c : Char} (h : (letter, c) ∈ shortEscapes) : SpellsChar ['\\', letter] c
  | unit {s : List Char} {c : Char} (h : SpellsUnit c.toNat s) : SpellsChar s c
  | pair {s t : List Char} {c : Char} (large : 0x10000 ≤ c.toNat)
      (high : SpellsUnit (0xd800 + (c.toNat - 0x10000) / 0x400) s)
      (low : SpellsUnit (0xdc00 + (c.toNat - 0x10000) % 0x400) t) : SpellsChar (s ++ t) c

/-- The characters of a string, one after the other. -/
inductive SpellsChars : List Char → List Char → Prop
  | nil : SpellsChars [] []
  | cons {s t : List Char} {c : Char} {cs : List Char} (first : SpellsChar s c)
      (rest : SpellsChars t cs) : SpellsChars (s ++ t) (c :: cs)

/-- A string between its quotes. -/
inductive SpellsString : List Char → String → Prop
  | mk {inner : List Char} {text : String} (h : SpellsChars inner text.toList) :
      SpellsString ('"' :: inner ++ ['"']) text

/-! ## The grammar of numbers -/

/-- Some decimal digits. -/
def AreDigits (s : List Char) : Prop := s ≠ [] ∧ ∀ c ∈ s, c.isDigit = true

/-- The minus sign of a number, if it has one. -/
def minus (negative : Bool) : List Char := if negative then ['-'] else []

/-- The integer part of a number: a zero, or digits that do not begin with one and are not too
many. -/
structure IsWhole (whole : List Char) : Prop where
  digits : AreDigits whole
  bounded : whole = ['0'] ∨ whole.head? ≠ some '0' ∧ whole.length ≤ longestInteger

/-- The fraction of a number with its digits. -/
inductive SpellsFraction : List Char → List Char → Prop
  | none : SpellsFraction [] []
  | some {digits : List Char} (h : AreDigits digits) : SpellsFraction ('.' :: digits) digits

/-- The exponent of a number with its value. -/
inductive SpellsExponent : List Char → Int → Prop
  | none : SpellsExponent [] 0
  | unsigned {mark : Char} {digits : List Char} (e : mark = 'e' ∨ mark = 'E')
      (h : AreDigits digits) : SpellsExponent (mark :: digits) (digitsValue digits)
  | plus {mark : Char} {digits : List Char} (e : mark = 'e' ∨ mark = 'E')
      (h : AreDigits digits) : SpellsExponent (mark :: '+' :: digits) (digitsValue digits)
  | minus {mark : Char} {digits : List Char} (e : mark = 'e' ∨ mark = 'E')
      (h : AreDigits digits) : SpellsExponent (mark :: '-' :: digits) (-digitsValue digits)

/-- The literals of a number. -/
inductive SpellsNumber : List Char → Number → Prop
  | integer {negative : Bool} {whole : List Char} (h : IsWhole whole) :
      SpellsNumber (minus negative ++ whole) (.integer (signed negative (digitsValue whole)))
  | decimal {negative : Bool} {whole point digits scale : List Char} {e : Int}
      (h : IsWhole whole) (fraction : SpellsFraction point digits)
      (exponent : SpellsExponent scale e) (more : point ++ scale ≠ []) :
      SpellsNumber (minus negative ++ (whole ++ (point ++ scale)))
        (.decimal (signed negative (digitsValue (whole ++ digits))) (e - digits.length))
  | word {s : List Char} (h : s ∈ ["NaN".toList, "Infinity".toList, "-Infinity".toList]) :
      SpellsNumber s .unbounded

/-! ## The grammar of values -/

/-- A key with the colon behind it. -/
inductive SpellsKey : List Char → String → Prop
  | mk {before s after : List Char} {key : String} (gap : IsGap before) (h : SpellsString s key)
      (gap' : IsGap after) : SpellsKey (before ++ (s ++ (after ++ [':']))) key

mutual
/-- The texts of a value. -/
inductive Spells : List Char → Value → Prop
  | null : Spells "null".toList .null
  | yes : Spells "true".toList (.bool true)
  | no : Spells "false".toList (.bool false)
  | number {s : List Char} {n : Number} (h : SpellsNumber s n) : Spells s (.number n)
  | string {s : List Char} {text : String} (h : SpellsString s text) : Spells s (.string text)
  | array {inner : List Char} {items : List Value} (h : SpellsItems inner items) :
      Spells ('[' :: (inner ++ [']'])) (.array items)
  | object {inner : List Char} {members : List (String × Value)}
      (h : SpellsMembers inner members) : Spells ('\x7b' :: (inner ++ ['\x7d'])) (.object members)

/-- The texts of a value with white space around it. -/
inductive SpellsSpaced : List Char → Value → Prop
  | mk {before s after : List Char} {v : Value} (gap : IsGap before) (h : Spells s v)
      (gap' : IsGap after) : SpellsSpaced (before ++ (s ++ after)) v

/-- The items of an array with commas between them. -/
inductive SpellsItems : List Char → List Value → Prop
  | none {gap : List Char} (h : IsGap gap) : SpellsItems gap []
  | last {s : List Char} {v : Value} (h : SpellsSpaced s v) : SpellsItems s [v]
  | more {s t : List Char} {v w : Value} {rest : List Value} (h : SpellsSpaced s v)
      (others : SpellsItems t (w :: rest)) : SpellsItems (s ++ ',' :: t) (v :: w :: rest)

/-- The members of an object with commas between them. -/
inductive SpellsMembers : List Char → List (String × Value) → Prop
  | none {gap : List Char} (h : IsGap gap) : SpellsMembers gap []
  | last {k s : List Char} {key : String} {v : Value} (name : SpellsKey k key)
      (h : SpellsSpaced s v) : SpellsMembers (k ++ s) [(key, v)]
  | more {k s t : List Char} {key : String} {v : Value} {m : String × Value}
      {rest : List (String × Value)} (name : SpellsKey k key) (h : SpellsSpaced s v)
      (others : SpellsMembers t (m :: rest)) :
      SpellsMembers (k ++ (s ++ ',' :: t)) ((key, v) :: m :: rest)
end

/-! ## Reading numbers -/

theorem isLiteralChar_of_isDigit {c : Char} (h : c.isDigit = true) : isLiteralChar c = true := by
  simp [isLiteralChar, Char.isAlphanum, h]

/-- Whether a numeral begins as no word does: with a digit, behind a minus sign or not. -/
theorem lookup_literalWords_eq_none {s : List Char} {d : Char} {rest : List Char}
    (h : s = d :: rest ∨ s = '-' :: d :: rest) (hd : d.isDigit = true) :
    literalWords.lookup s = none := by
  have ne {e : Char} (he : e.isDigit = false) : (d == e) = false :=
    beq_eq_false_iff_ne.mpr (ne_of_class hd he)
  -- the words begin with letters, except for one that has a letter behind a minus sign
  rcases h with rfl | rfl
  · simp [literalWords, List.lookup_cons, ne (e := 'n') (by decide), ne (e := 't') (by decide),
      ne (e := 'f') (by decide), ne (e := 'N') (by decide), ne (e := 'I') (by decide),
      ne (e := '-') (by decide)]
  · simp [literalWords, List.lookup_cons, ne (e := 'I') (by decide)]

/-- Digits are taken up to where something else follows. -/
theorem takeWhile_digits {digits : List Char} (rest : List Char)
    (h : ∀ c ∈ digits, c.isDigit = true)
    (behind : ∀ c, rest.head? = some c → c.isDigit = false) :
    (digits ++ rest).takeWhile Char.isDigit = digits ∧
      (digits ++ rest).dropWhile Char.isDigit = rest := by
  rw [List.takeWhile_append_of_pos h, List.dropWhile_append_of_pos h]
  cases rest with
  | nil => simp
  | cons c rest => simp [behind c rfl]

section Numbers

variable {negative : Bool} {whole : List Char}

theorem AreDigits.all {s : List Char} (h : AreDigits s) : s.all Char.isDigit = true :=
  List.all_eq_true.mpr h.2

/-- Digits begin with a digit. -/
theorem AreDigits.exists_head {s : List Char} (h : AreDigits s) :
    ∃ d rest, s = d :: rest ∧ d.isDigit = true := by
  cases s with
  | nil => exact absurd rfl h.1
  | cons d rest => exact ⟨d, rest, rfl, h.2 d List.mem_cons_self⟩

theorem IsWhole.isIntegerPart (h : IsWhole whole) : isIntegerPart whole = true := by
  rcases h.bounded with rfl | ⟨notZero, short⟩
  · rfl
  · obtain ⟨d, rest, rfl, -⟩ := h.digits.exists_head
    have first : d ≠ '0' := by simpa using notZero
    rw [List.length_cons] at short
    simp [Json.isIntegerPart, first, short]

/-- A number is read as the digits behind its sign. -/
theorem AreDigits.readNumber? (h : AreDigits whole) (negative : Bool) (rest : List Char) :
    readNumber? (minus negative ++ (whole ++ rest)) = readUnsigned? negative (whole ++ rest) := by
  cases negative with
  | true => rfl
  | false =>
    obtain ⟨d, digits, rfl, digit⟩ := h.exists_head
    rw [minus, if_neg Bool.false_ne_true, List.nil_append, List.cons_append, Json.readNumber?]
    exact fun _ shape => ne_of_class digit (by decide) (List.cons.inj shape).1

/-- A number begins as no word does. -/
theorem AreDigits.lookup_eq_none (h : AreDigits whole) (negative : Bool) (rest : List Char) :
    literalWords.lookup (minus negative ++ (whole ++ rest)) = none := by
  obtain ⟨d, digits, rfl, digit⟩ := h.exists_head
  cases negative with
  | true => exact lookup_literalWords_eq_none (.inr rfl) digit
  | false => exact lookup_literalWords_eq_none (.inl rfl) digit

theorem AreDigits.readExponentDigits? {digits : List Char} (h : AreDigits digits) :
    readExponentDigits? digits = some (digitsValue digits) := by
  rw [Json.readExponentDigits?, if_pos ⟨h.1, h.all⟩]

/-- An exponent without a sign is read as its digits. -/
theorem AreDigits.readExponent? {digits : List Char} (h : AreDigits digits) :
    readExponent? digits = some (digitsValue digits : Int) := by
  obtain ⟨d, rest, rfl, digit⟩ := h.exists_head
  rw [Json.readExponent?, h.readExponentDigits?]
  · rfl
  · exact fun _ shape => ne_of_class digit (by decide) (List.cons.inj shape).1
  · exact fun _ shape => ne_of_class digit (by decide) (List.cons.inj shape).1

/-- What stands behind the digits of a number is read as its scale. -/
theorem SpellsExponent.readScale? {scale : List Char} {e : Int} (h : SpellsExponent scale e)
    (negative : Bool) (whole digits : List Char) :
    readScale? negative whole digits scale =
      some (.decimal (signed negative (digitsValue (whole ++ digits))) (e - digits.length)) := by
  have marked {mark : Char} {rest : List Char} (isMark : mark = 'e' ∨ mark = 'E')
      (read : readExponent? rest = some e) :
      Json.readScale? negative whole digits (mark :: rest) =
        some (.decimal (signed negative (digitsValue (whole ++ digits))) (e - digits.length)) := by
    rcases isMark with rfl | rfl <;> simp [Json.readScale?, read]
  cases h with
  | none => simp [Json.readScale?]
  | unsigned isMark areDigits => exact marked isMark areDigits.readExponent?
  | plus isMark areDigits =>
    refine marked isMark ?_
    rw [readExponent?, areDigits.readExponentDigits?]
    rfl
  | minus isMark areDigits =>
    refine marked isMark ?_
    rw [readExponent?, areDigits.readExponentDigits?]
    rfl

/-- An exponent begins with its mark. -/
theorem SpellsExponent.mark_of_head? {scale : List Char} {e : Int} (h : SpellsExponent scale e)
    {c : Char} (first : scale.head? = some c) : c = 'e' ∨ c = 'E' := by
  cases h with
  | none => cases first
  | unsigned isMark _ => exact Option.some.inj first ▸ isMark
  | plus isMark _ => exact Option.some.inj first ▸ isMark
  | minus isMark _ => exact Option.some.inj first ▸ isMark

/-- What stands behind the integer part of a decimal is read as its fraction and scale. -/
theorem IsWhole.readUnsigned?_decimal {point digits scale : List Char} {e : Int}
    (h : IsWhole whole) (fraction : SpellsFraction point digits)
    (exponent : SpellsExponent scale e) (more : point ++ scale ≠ []) :
    readUnsigned? negative (whole ++ (point ++ scale)) =
      some (.decimal (signed negative (digitsValue (whole ++ digits))) (e - digits.length)) := by
  have scaleFirst : ∀ c, scale.head? = some c → c.isDigit = false := by
    intro c first
    rcases exponent.mark_of_head? first with rfl | rfl <;> rfl
  cases fraction with
  | none =>
    rw [List.nil_append] at more ⊢
    obtain ⟨wholeRead, rest⟩ := takeWhile_digits scale h.digits.2 scaleFirst
    obtain ⟨c, tail, rfl⟩ := List.exists_cons_of_ne_nil more
    have notPoint : c ≠ '.' := by
      rcases exponent.mark_of_head? rfl with rfl | rfl <;> decide
    have read := exponent.readScale? negative whole []
    rw [readUnsigned?]
    simp only [wholeRead, rest, h.isIntegerPart, if_true]
    split
    · next shape => cases shape
    · next shape => exact absurd (List.cons.inj shape).1 notPoint
    · exact read
  | some areDigits =>
    obtain ⟨wholeRead, rest⟩ := takeWhile_digits ('.' :: (digits ++ scale)) h.digits.2
      (by simp)
    obtain ⟨fractionRead, rest'⟩ := takeWhile_digits scale areDigits.2 scaleFirst
    rw [readUnsigned?, List.cons_append]
    simp only [wholeRead, rest, h.isIntegerPart, if_true, fractionRead, rest', if_neg areDigits.1]
    exact exponent.readScale? negative whole digits

/-- **A literal of a number says that number.** -/
theorem SpellsNumber.readLiteral? {s : List Char} {n : Number} (h : SpellsNumber s n) :
    readLiteral? s = some (.number n) := by
  cases h with
  | @integer negative whole h =>
    obtain ⟨wholeRead, rest⟩ := takeWhile_digits [] h.digits.2 (by simp)
    have word := h.digits.lookup_eq_none negative []
    have number := h.digits.readNumber? negative []
    rw [List.append_nil] at wholeRead rest word number
    rw [Json.readLiteral?, word, number, readUnsigned?]
    simp only [wholeRead, rest, h.isIntegerPart, if_true]
    rfl
  | @decimal negative whole point digits scale e h fraction exponent more =>
    rw [Json.readLiteral?, h.digits.lookup_eq_none, h.digits.readNumber?,
      h.readUnsigned?_decimal fraction exponent more]
    rfl
  | word h =>
    simp only [List.mem_cons, List.not_mem_nil, or_false] at h
    rcases h with rfl | rfl | rfl <;> rfl

theorem SpellsNumber.isLiteralChar {s : List Char} {n : Number} (h : SpellsNumber s n) :
    ∀ c ∈ s, isLiteralChar c = true := by
  have digitsOnly {digits : List Char} (h : AreDigits digits) :
      ∀ c ∈ digits, Json.isLiteralChar c = true := fun c hc => isLiteralChar_of_isDigit (h.2 c hc)
  have sign {negative : Bool} : ∀ c ∈ minus negative, Json.isLiteralChar c = true := by
    cases negative <;> exact List.all_eq_true.mp (by decide)
  have mark {mark : Char} (isMark : mark = 'e' ∨ mark = 'E') : Json.isLiteralChar mark = true := by
    rcases isMark with rfl | rfl <;> decide
  cases h with
  | integer h => exact List.forall_mem_append.mpr ⟨sign, digitsOnly h.digits⟩
  | decimal h fraction exponent _ =>
    refine List.forall_mem_append.mpr ⟨sign, List.forall_mem_append.mpr ⟨digitsOnly h.digits,
      List.forall_mem_append.mpr ⟨?_, ?_⟩⟩⟩
    · cases fraction with
      | none => exact List.forall_mem_nil _
      | some h => exact List.forall_mem_cons.mpr ⟨by decide, digitsOnly h⟩
    · cases exponent with
      | none => exact List.forall_mem_nil _
      | unsigned isMark h => exact List.forall_mem_cons.mpr ⟨mark isMark, digitsOnly h⟩
      | plus isMark h =>
        exact List.forall_mem_cons.mpr ⟨mark isMark,
          List.forall_mem_cons.mpr ⟨by decide, digitsOnly h⟩⟩
      | minus isMark h =>
        exact List.forall_mem_cons.mpr ⟨mark isMark,
          List.forall_mem_cons.mpr ⟨by decide, digitsOnly h⟩⟩
  | word h =>
    simp only [List.mem_cons, List.not_mem_nil, or_false] at h
    rcases h with rfl | rfl | rfl <;> exact List.all_eq_true.mp (by decide)

theorem SpellsNumber.ne_nil {s : List Char} {n : Number} (h : SpellsNumber s n) : s ≠ [] := by
  cases h with
  | integer h => exact List.append_ne_nil_of_right_ne_nil _ h.digits.1
  | decimal h =>
    have some := List.append_ne_nil_of_left_ne_nil h.digits.1
    exact List.append_ne_nil_of_right_ne_nil _ (some _)
  | word h =>
    simp only [List.mem_cons, List.not_mem_nil, or_false] at h
    rcases h with rfl | rfl | rfl <;> decide

end Numbers

/-! ## Reading strings -/

section Strings

variable {stack : List Frame} {isKey : Bool} {read read' : List Char}
  {phase phase' : StringPhase} {c : Char}

/-- Within a string a character does what `stepString` says. -/
theorem State.step_string (open_ : ¬ (phase = .plain ∧ c = '"'))
    (h : stepString read c phase = some (read', phase')) :
    (⟨stack, .string isKey read phase⟩ : State).step c = ⟨stack, .string isKey read' phase'⟩ := by
  simp only [step, if_neg open_, h]

theorem IsHex.hexValue? {d : Nat} (hd : d < 16) (h : IsHex c (hexDigit d)) :
    State.hexValue? c = some d := by
  have capital : ∀ d < 16, State.hexValue? (hexDigit d).toUpper = some d := by decide
  rcases h with rfl | rfl
  · exact Text.hexValue?_hexDigit hd
  · exact capital d hd

theorem IsHex.step {digits value d : Nat} {high : Option Nat} (hd : d < 16)
    (h : IsHex c (hexDigit d)) (more : digits < 3) :
    (⟨stack, .string isKey read (.code digits value high)⟩ : State).step c =
      ⟨stack, .string isKey read (.code (digits + 1) (value * 16 + d) high)⟩ :=
  State.step_string (by simp) (by simp [State.stepString, h.hexValue? hd, more])

theorem IsHex.step_last {value d : Nat} {high : Option Nat} (hd : d < 16)
    (h : IsHex c (hexDigit d))
    (code : State.endCode read (value * 16 + d) high = some (read', phase')) :
    (⟨stack, .string isKey read (.code 3 value high)⟩ : State).step c =
      ⟨stack, .string isKey read' phase'⟩ :=
  State.step_string (by simp) (by simp [State.stepString, h.hexValue? hd, code])

/-- Four digits give the code that they are for. -/
theorem run_hex {digits : List Char} {n : Nat} (small : n < 0x10000)
    (h : List.Forall₂ IsHex digits (hexDigits 4 n)) {high : Option Nat}
    (code : State.endCode read n high = some (read', phase')) :
    (⟨stack, .string isKey read (.code 0 0 high)⟩ : State).run digits =
      ⟨stack, .string isKey read' phase'⟩ := by
  have value : (((0 * 16 + n / 4096 % 16) * 16 + n / 256 % 16) * 16 + n / 16 % 16) * 16 + n % 16
      = n := by omega
  rw [Text.hexDigits_four] at h
  obtain _ | ⟨first, _ | ⟨second, _ | ⟨third, _ | ⟨fourth, _ | _⟩⟩⟩⟩ := h
  rw [State.run_cons, first.step (by omega) (by decide), State.run_cons,
    second.step (by omega) (by decide), State.run_cons, third.step (by omega) (by decide),
    State.run_cons, fourth.step_last (by omega) (by rwa [value]), State.run_nil]

/-- An escape of four digits, from where a character may begin or the second half of a pair is
due. -/
theorem SpellsUnit.run {n : Nat} {s : List Char} (h : SpellsUnit n s) {high : Option Nat}
    {here marked : StringPhase}
    (backslash : State.stepString read '\\' here = some (read, marked))
    (mark : State.stepString read 'u' marked = some (read, .code 0 0 high))
    (code : State.endCode read n high = some (read', phase')) :
    (⟨stack, .string isKey read here⟩ : State).run s = ⟨stack, .string isKey read' phase'⟩ := by
  obtain ⟨small, digits⟩ := h
  rw [State.run_cons, State.step_string (by simp) backslash, State.run_cons,
    State.step_string (by simp) mark, run_hex small digits code]

/-- The code of a character is no half of a pair. -/
theorem toNat_not_surrogate (c : Char) :
    c.toNat < 0xd800 ∨ 0xdfff < c.toNat ∧ c.toNat < 0x110000 := c.valid

/-- **A character is read from every spelling of it.** -/
theorem SpellsChar.run {s : List Char} (h : SpellsChar s c) :
    (⟨stack, .string isKey read .plain⟩ : State).run s =
      ⟨stack, .string isKey (c :: read) .plain⟩ := by
  have valid := toNat_not_surrogate c
  cases h with
  | plain visible quote backslash =>
    have notControl : ¬ c.toNat < 0x20 := by omega
    exact State.step_string (fun both => quote both.2)
      (by simp [State.stepString, backslash, notControl])
  | @short letter _ h =>
    have backslash : (⟨stack, .string isKey read .plain⟩ : State).step '\\' =
        ⟨stack, .string isKey read .escape⟩ := State.step_string (by decide) rfl
    have stands : ∀ e ∈ shortEscapes, e.1 ≠ 'u' ∧ State.escaped? e.1 = some e.2 := by decide
    obtain ⟨notCode, found⟩ := stands _ h
    have read_ : State.stepString read letter .escape = some (c :: read, .plain) := by
      simp only [State.stepString, beq_iff_eq, if_neg notCode, found, Option.map_some]
    rw [State.run_cons, backslash, State.run_cons, State.step_string (by simp) read_, State.run_nil]
  | unit h =>
    refine h.run rfl rfl ?_
    have small : c.toNat < 0x10000 := by
      obtain ⟨small, -⟩ := h
      exact small
    have notHigh : State.isHigh c.toNat = false := by
      simp only [State.isHigh, Bool.and_eq_false_imp, decide_eq_true_eq, decide_eq_false_iff_not]
      omega
    have notLow : State.isLow c.toNat = false := by
      simp only [State.isLow, Bool.and_eq_false_imp, decide_eq_true_eq, decide_eq_false_iff_not]
      omega
    simp [State.endCode, notHigh, notLow, Char.ofNat_toNat]
  | pair large high low =>
    have isHigh : State.isHigh (0xd800 + (c.toNat - 0x10000) / 0x400) = true := by
      simp only [State.isHigh, Bool.and_eq_true, decide_eq_true_eq]
      omega
    have isLow : State.isLow (0xdc00 + (c.toNat - 0x10000) % 0x400) = true := by
      simp only [State.isLow, Bool.and_eq_true, decide_eq_true_eq]
      omega
    have code : 0x10000 + (0xd800 + (c.toNat - 0x10000) / 0x400 - 0xd800) * 0x400 +
        (0xdc00 + (c.toNat - 0x10000) % 0x400 - 0xdc00) = c.toNat := by omega
    have first : State.endCode read (0xd800 + (c.toNat - 0x10000) / 0x400) none =
        some (read, .lowBackslash (0xd800 + (c.toNat - 0x10000) / 0x400)) := by
      simp [State.endCode, isHigh]
    have second : State.endCode read (0xdc00 + (c.toNat - 0x10000) % 0x400)
        (some (0xd800 + (c.toNat - 0x10000) / 0x400)) = some (c :: read, .plain) := by
      simp only [State.endCode, isLow, if_true, code, Char.ofNat_toNat]
    rw [State.run_append, high.run rfl rfl first, low.run rfl rfl second]

theorem SpellsChars.run {s cs : List Char} (h : SpellsChars s cs) :
    (⟨stack, .string isKey read .plain⟩ : State).run s =
      ⟨stack, .string isKey (cs.reverse ++ read) .plain⟩ := by
  induction h generalizing read with
  | nil => rfl
  | cons first _ ih =>
    rw [State.run_append, first.run, ih, List.reverse_cons, List.append_assoc]
    rfl

/-- The rest of a string, behind its opening quote. -/
theorem SpellsChars.run_closed {s rest : List Char} {text : String}
    (h : SpellsChars s text.toList) :
    (⟨stack, .string isKey [] .plain⟩ : State).run (s ++ '"' :: rest) =
      (State.endString stack isKey text.toList.reverse).run rest := by
  rw [State.run_append, h.run, List.append_nil, State.run_cons]
  simp [State.step]

end Strings

/-! ## Reading values -/

namespace State

variable {stack : List Frame} {mayClose : Bool} {c : Char}

/-- The opening of a value that is no white space and closes nothing. -/
theorem step_value (space : isSpace c = false) (bracket : c ≠ ']') :
    (⟨stack, .value mayClose⟩ : State).step c = openValue stack c := by
  simp [step, space, bracket]

theorem run_literal {read s : List Char} (h : ∀ c ∈ s, isLiteralChar c = true) :
    (⟨stack, .literal read⟩ : State).run s = ⟨stack, .literal (s.reverse ++ read)⟩ := by
  induction s generalizing read with
  | nil => rfl
  | cons c s ih =>
    have first : (⟨stack, .literal read⟩ : State).step c = ⟨stack, .literal (c :: read)⟩ := by
      simp [step, h c List.mem_cons_self]
    rw [run_cons, first, ih fun d hd => h d (List.mem_cons_of_mem _ hd), List.reverse_cons,
      List.append_assoc]
    rfl

/-- The characters of a literal, from where a value may begin. -/
theorem run_value_literal {s : List Char} (h : ∀ c ∈ s, isLiteralChar c = true) (hs : s ≠ [])
    (depth : stack.length ≤ deepest) :
    (⟨stack, .value mayClose⟩ : State).run s = ⟨stack, .literal s.reverse⟩ := by
  cases s with
  | nil => exact absurd rfl hs
  | cons c s =>
    have literal := h c List.mem_cons_self
    have space : isSpace c = false := by
      simp only [isSpace, Bool.or_eq_false_iff, beq_eq_false_iff_ne]
      exact ⟨⟨⟨ne_of_class literal (by decide), ne_of_class literal (by decide)⟩,
        ne_of_class literal (by decide)⟩, ne_of_class literal (by decide)⟩
    have opened : openValue stack c = ⟨stack, .literal [c]⟩ := by
      simp [openValue, Nat.not_lt.mpr depth, literal,
        ne_of_class literal (d := '\x7b') (by decide),
        ne_of_class literal (d := '[') (by decide),
        ne_of_class literal (d := '"') (by decide)]
    rw [run_cons, step_value space (ne_of_class literal (by decide)), opened,
      run_literal fun d hd => h d (List.mem_cons_of_mem _ hd), List.reverse_cons]

/-- **A literal is delivered by the character behind it.** -/
theorem run_literal_end {s rest : List Char} {v : Value} (h : ∀ c ∈ s, isLiteralChar c = true)
    (hs : s ≠ []) (depth : stack.length ≤ deepest) (said : readLiteral? s = some v)
    (hc : isLiteralChar c = false) :
    (⟨stack, .value mayClose⟩ : State).run (s ++ c :: rest) =
      (deliver stack v).run (c :: rest) := by
  rw [run_append, run_value_literal h hs depth, run_cons, run_cons, ← stepDelivered_deliver]
  simp only [step, hc, Bool.false_eq_true, if_false, List.reverse_reverse, said]

/-- The opening quote of a string value. -/
theorem step_value_quote (depth : stack.length ≤ deepest) :
    (⟨stack, .value mayClose⟩ : State).step '"' = ⟨stack, .string false [] .plain⟩ := by
  rw [step_value (by decide) (by decide)]
  simp [openValue, Nat.not_lt.mpr depth]

theorem step_value_bracket (depth : stack.length ≤ deepest) :
    (⟨stack, .value mayClose⟩ : State).step '[' = ⟨.array [] :: stack, .value true⟩ := by
  rw [step_value (by decide) (by decide)]
  simp [openValue, Nat.not_lt.mpr depth]

theorem step_value_brace (depth : stack.length ≤ deepest) :
    (⟨stack, .value mayClose⟩ : State).step '\x7b' = ⟨.object [] "" :: stack, .key true⟩ := by
  rw [step_value (by decide) (by decide)]
  simp [openValue, Nat.not_lt.mpr depth]

/-- Behind an item a comma asks for the next one. -/
theorem step_comma_array {items : List Value} {v : Value} :
    (deliver (.array items :: stack) v).step ',' = ⟨.array (v :: items) :: stack, .value false⟩ := by
  simp [deliver, step, afterValue, isSpace]

/-- Behind a member a comma asks for the next key. -/
theorem step_comma_object {members : List (String × Value)} {key : String} {v : Value} :
    (deliver (.object members key :: stack) v).step ',' =
      ⟨.object ((key, v) :: members) key :: stack, .key false⟩ := by
  simp [deliver, step, afterValue, isSpace]

/-- White space is passed over by a state that every white-space character leaves as it is. -/
theorem run_gap {q : State} {gap : List Char} (h : IsGap gap)
    (pass : ∀ c, isSpace c = true → q.step c = q) : q.run gap = q := by
  induction gap with
  | nil => rfl
  | cons c gap ih =>
    rw [run_cons, pass c (h c List.mem_cons_self)]
    exact ih fun d hd => h d (List.mem_cons_of_mem _ hd)

theorem run_value_gap {gap : List Char} (h : IsGap gap) :
    (⟨stack, .value mayClose⟩ : State).run gap = ⟨stack, .value mayClose⟩ :=
  run_gap h fun c space => by simp [step, space]

theorem run_key_gap {gap : List Char} (h : IsGap gap) :
    (⟨stack, .key mayClose⟩ : State).run gap = ⟨stack, .key mayClose⟩ :=
  run_gap h fun c space => by simp [step, space]

theorem run_colon_gap {gap : List Char} (h : IsGap gap) :
    (⟨stack, .colon⟩ : State).run gap = ⟨stack, .colon⟩ :=
  run_gap h fun c space => by simp [step, space]

theorem run_deliver_gap {gap : List Char} {v : Value} (h : IsGap gap) :
    (deliver stack v).run gap = deliver stack v := by
  refine run_gap h fun c space => ?_
  match stack with
  | [] => simp [deliver, step, afterAll, space]
  | .array items :: rest => simp [deliver, step, afterValue, space]
  | .object members key :: rest => simp [deliver, step, afterValue, space]

end State

open State (deliver)

section Values

variable {stack : List Frame} {mayClose : Bool} {members : List (String × Value)}
  {rest : List Char}

/-- A key with its colon, from where a key may begin. -/
theorem SpellsKey.run {s : List Char} {old key : String} (h : SpellsKey s key) :
    (⟨.object members old :: stack, .key mayClose⟩ : State).run (s ++ rest) =
      (⟨.object members key :: stack, .value false⟩ : State).run rest := by
  obtain @⟨before, _, after, _, gap, ⟨inner⟩, gap'⟩ := h
  have quote : (⟨.object members old :: stack, .key mayClose⟩ : State).step '"' =
      ⟨.object members old :: stack, .string true [] .plain⟩ := by
    simp [State.step, State.isSpace]
  have keyRead : State.endString (.object members old :: stack) true key.toList.reverse =
      ⟨.object members key :: stack, .colon⟩ := by
    simp [State.endString, String.ofList_toList]
  have colon : (⟨.object members key :: stack, .colon⟩ : State).step ':' =
      ⟨.object members key :: stack, .value false⟩ := by
    simp [State.step, State.isSpace]
  simp only [List.append_assoc, List.cons_append, List.nil_append]
  rw [State.run_append, State.run_key_gap gap, State.run_cons, quote, inner.run_closed, keyRead,
    State.run_append, State.run_colon_gap gap', State.run_cons, colon]

variable {P : Number → Prop}

mutual
/-- **A value is read from every text of it**, in the middle of a longer one: reading comes to
delivering the value, given the character behind it. -/
theorem Spells.run {s : List Char} {v : Value} (h : Spells s v) (stack : List Frame)
    (mayClose : Bool) (c : Char) (rest : List Char) (fit : v.Fits P stack.length)
    (hc : isLiteralChar c = false) :
    (⟨stack, .value mayClose⟩ : State).run (s ++ c :: rest) =
      (deliver stack v).run (c :: rest) := by
  have depth := fit.outer_le
  have word {s : List Char} {v : Value} (letters : s.all isLiteralChar = true) (written : s ≠ [])
      (said : readLiteral? s = some v) :
      (⟨stack, .value mayClose⟩ : State).run (s ++ c :: rest) =
        (deliver stack v).run (c :: rest) :=
    State.run_literal_end (List.all_eq_true.mp letters) written depth said hc
  cases h with
  | null => exact word rfl (by decide) rfl
  | yes => exact word rfl (by decide) rfl
  | no => exact word rfl (by decide) rfl
  | number h => exact State.run_literal_end h.isLiteralChar h.ne_nil depth h.readLiteral? hc
  | string h =>
    obtain ⟨inner⟩ := h
    rw [List.cons_append, List.cons_append, List.append_assoc, State.run_cons,
      State.step_value_quote depth, List.singleton_append, inner.run_closed]
    simp [State.endString, String.ofList_toList]
  | array h =>
    -- the items are read above one frame more, as deep as they have to fit
    rw [List.cons_append, List.append_assoc, State.run_cons, State.step_value_bracket depth]
    exact SpellsItems.run h [] stack true (c :: rest) (fun _ => rfl) (fits_array.mp fit).2
  | object h =>
    rw [List.cons_append, List.append_assoc, State.run_cons, State.step_value_brace depth]
    exact SpellsMembers.run h [] "" stack true (c :: rest) (fun _ => rfl) (fits_object.mp fit).2

theorem SpellsSpaced.run {s : List Char} {v : Value} (h : SpellsSpaced s v) (stack : List Frame)
    (mayClose : Bool) (c : Char) (rest : List Char) (fit : v.Fits P stack.length)
    (hc : isLiteralChar c = false) :
    (⟨stack, .value mayClose⟩ : State).run (s ++ c :: rest) =
      (deliver stack v).run (c :: rest) := by
  cases h with
  | @mk before s after _ gap h gap' =>
    rw [List.append_assoc, List.append_assoc, State.run_append, State.run_value_gap gap]
    cases after with
    | nil => exact Spells.run h stack mayClose c rest fit hc
    | cons d after =>
      -- the value ends at the white space behind it
      have first : isLiteralChar d = false :=
        State.not_isLiteralChar_of_isSpace (gap' d List.mem_cons_self)
      rw [List.cons_append, Spells.run h stack mayClose d (after ++ c :: rest) fit first,
        ← List.cons_append, State.run_append, State.run_deliver_gap gap']

/-- The items of an array, from where the next one may begin to the closing bracket. -/
theorem SpellsItems.run {s : List Char} {items : List Value} (h : SpellsItems s items)
    (read : List Value) (stack : List Frame) (mayClose : Bool) (rest : List Char)
    (empty : items = [] → mayClose = true)
    (fits : ∀ v ∈ items, v.Fits P (stack.length + 1)) :
    (⟨.array read :: stack, .value mayClose⟩ : State).run (s ++ ']' :: rest) =
      (deliver stack (.array (read.reverse ++ items))).run rest := by
  cases h with
  | none gap =>
    rw [State.run_append, State.run_value_gap gap, empty rfl, State.run_cons, List.append_nil]
    rfl
  | @last s v h =>
    rw [SpellsSpaced.run h (.array read :: stack) mayClose ']' rest (fits v (by simp)) (by decide),
      State.run_cons]
    simp [deliver, State.step, State.afterValue, State.isSpace, State.close]
  | @more s t v w others h h' =>
    have next := SpellsItems.run h' (v :: read) stack false rest (by simp)
      fun u hu => fits u (List.mem_cons_of_mem _ hu)
    rw [List.reverse_cons, List.append_assoc] at next
    rw [List.append_assoc, List.cons_append,
      SpellsSpaced.run h (.array read :: stack) mayClose ',' _ (fits v (by simp)) (by decide),
      State.run_cons, State.step_comma_array]
    exact next

/-- The members of an object, from where the next one may begin to the closing brace. -/
theorem SpellsMembers.run {s : List Char} {members : List (String × Value)}
    (h : SpellsMembers s members) (read : List (String × Value)) (old : String)
    (stack : List Frame) (mayClose : Bool) (rest : List Char)
    (empty : members = [] → mayClose = true)
    (fits : ∀ m ∈ members, m.2.Fits P (stack.length + 1)) :
    (⟨.object read old :: stack, .key mayClose⟩ : State).run (s ++ '\x7d' :: rest) =
      (deliver stack (.object (read.reverse ++ members))).run rest := by
  cases h with
  | none gap =>
    rw [State.run_append, State.run_key_gap gap, empty rfl, State.run_cons, List.append_nil]
    rfl
  | @last k s key v name h =>
    rw [List.append_assoc, name.run,
      SpellsSpaced.run h (.object read key :: stack) false '\x7d' rest (fits (key, v) (by simp))
        (by decide), State.run_cons]
    simp [deliver, State.step, State.afterValue, State.isSpace, State.close]
  | @more k s t key v m others name h h' =>
    have next := SpellsMembers.run h' ((key, v) :: read) key stack false rest (by simp)
      fun n hn => fits n (List.mem_cons_of_mem _ hn)
    rw [List.reverse_cons, List.append_assoc] at next
    rw [List.append_assoc, name.run, List.append_assoc, List.cons_append,
      SpellsSpaced.run h (.object read key :: stack) false ',' _ (fits (key, v) (by simp))
        (by decide), State.run_cons, State.step_comma_object]
    exact next
end

end Values

/-- **Every text of a value says that value**, if the value is nowhere too deep. -/
theorem read?_of_spells {P : Number → Prop} {s : List Char} {v : Value} (h : SpellsSpaced s v)
    (fit : v.Fits P 0) : read? s = some v := by
  -- a line feed behind the text delivers the value and is then passed over
  have run : State.start.run (s ++ ['\n']) = ⟨[], .finished v⟩ :=
    h.run [] false '\n' [] fit (by decide)
  rw [← read?_append_space s ['\n'] (by simp [State.isSpace]), read?, run]
  rfl

end OwnerBuild.Json
