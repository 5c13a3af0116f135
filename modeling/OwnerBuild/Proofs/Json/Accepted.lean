/-
# OwnerBuild.Proofs.Json.Accepted -- what is read is a text of what is read

That every text of a value is read as that value is one half of what the reader is for. The
other half is that nothing else is read: whatever is accepted is a text, by the grammar, of the
value that comes out (`spells_of_read?`). With the limits that read values keep to, the two
halves say exactly what is read (`read?_eq_some_iff`), so a text of which there is no value is
refused wherever in it that comes about.

The invariant is that what has been read is the beginning of a text (`State.Read`). It has one
constructor for each thing that may be under way. Where a value or a key may begin, the frames
of the stack account for all that stands in front, each with its opening mark and with the items
or members that it holds (`Awaits`); within a string so do the characters read so far and what
has been begun of one more (`SpellsBegun`). One character keeps it in each of these places.
-/

import Mathlib.Data.List.Forall2
import OwnerBuild.Proofs.Json.Spelling

namespace OwnerBuild.Json

open Text (digitsValue hexDigit hexDigits isBlank signed trimStart)

/-! ## Numbers -/

section Numbers

variable {negative : Bool} {s whole fraction rest : List Char} {n : Number} {e : Int}

/-- What is taken as digits are some digits, if it is anything. -/
theorem areDigits_takeWhile (some : s.takeWhile Char.isDigit ≠ []) :
    AreDigits (s.takeWhile Char.isDigit) :=
  ⟨some, fun _ member => List.mem_takeWhile_imp member⟩

theorem isWhole_of_isIntegerPart (digits : ∀ c ∈ whole, c.isDigit = true)
    (h : isIntegerPart whole = true) : IsWhole whole := by
  unfold isIntegerPart at h
  split at h
  · cases h
  · exact ⟨⟨by simp, digits⟩, .inl rfl⟩
  · next d rest _ =>
    simp only [Bool.and_eq_true, bne_iff_ne, decide_eq_true_eq] at h
    exact ⟨⟨by simp, digits⟩, .inr ⟨by simpa using h.1, h.2⟩⟩

theorem areDigits_of_readExponentDigits? {k : Nat} (h : readExponentDigits? s = some k) :
    AreDigits s ∧ k = digitsValue s := by
  unfold readExponentDigits? at h
  split at h
  · next digits =>
    exact ⟨⟨digits.1, List.all_eq_true.mp digits.2⟩, (Option.some.inj h).symm⟩
  · cases h

theorem spellsExponent_of_readExponent? {mark : Char} (isMark : mark = 'e' ∨ mark = 'E')
    (h : readExponent? s = some e) : SpellsExponent (mark :: s) e := by
  unfold readExponent? at h
  split at h
  all_goals
    obtain ⟨k, read, rfl⟩ := Option.map_eq_some_iff.mp h
    obtain ⟨digits, rfl⟩ := areDigits_of_readExponentDigits? read
  · exact .minus isMark digits
  · exact .plus isMark digits
  · exact .unsigned isMark digits

theorem spellsExponent_of_readScale? (h : readScale? negative whole fraction rest = some n) :
    ∃ e, SpellsExponent rest e ∧
      n = .decimal (signed negative (digitsValue (whole ++ fraction))) (e - fraction.length) := by
  unfold readScale? at h
  split at h
  · exact ⟨0, .none, by rw [← Option.some.inj h, Int.zero_sub]⟩
  · next c exponent =>
    split at h
    · next isMark =>
      obtain ⟨e, read, rfl⟩ := Option.map_eq_some_iff.mp h
      exact ⟨e, spellsExponent_of_readExponent? (by simpa using isMark) read, rfl⟩
    · cases h

/-- What stands behind the sign is split where the digits end and, behind a point, where the digits
of the fraction do. -/
theorem spellsNumber_of_readUnsigned? (h : readUnsigned? negative s = some n) :
    SpellsNumber (minus negative ++ s) n := by
  rw [readUnsigned?] at h
  obtain ⟨integerPart, h⟩ := Option.ite_none_right_eq_some.mp h
  have whole := isWhole_of_isIntegerPart (fun _ member => List.mem_takeWhile_imp member) integerPart
  rw [← List.takeWhile_append_dropWhile (p := Char.isDigit) (l := s)]
  split at h
  · next behind =>
    rw [behind, List.append_nil, ← Option.some.inj h]
    exact .integer whole
  · next rest behind =>
    obtain ⟨some, h⟩ := Option.ite_none_left_eq_some.mp h
    obtain ⟨e, exponent, rfl⟩ := spellsExponent_of_readScale? h
    have number : SpellsNumber (minus negative ++ _) _ :=
      .decimal whole (.some (areDigits_takeWhile some)) exponent (by simp)
    rwa [List.cons_append, List.takeWhile_append_dropWhile, ← behind] at number
  · next behind _ =>
    obtain ⟨e, exponent, rfl⟩ := spellsExponent_of_readScale? h
    exact .decimal whole .none exponent (by simpa using behind)

/-- A number that is read is a literal of it. -/
theorem spellsNumber_of_readNumber? (h : readNumber? s = some n) : SpellsNumber s n := by
  unfold readNumber? at h
  split at h
  · exact spellsNumber_of_readUnsigned? h
  · exact spellsNumber_of_readUnsigned? h

theorem mem_literalWords_of_lookup {v : Value} (h : literalWords.lookup s = some v) :
    (s, v) ∈ literalWords := by
  obtain ⟨before, after, split, -⟩ := List.lookup_eq_some_iff.mp h
  rw [split]
  exact List.mem_append_right _ List.mem_cons_self

/-- **A literal that is read is a text of its value.** -/
theorem spells_of_readLiteral? {v : Value} (h : readLiteral? s = some v) : Spells s v := by
  unfold readLiteral? at h
  split at h
  · next word =>
    obtain rfl := Option.some.inj h
    have listed := mem_literalWords_of_lookup word
    simp only [literalWords, List.mem_cons, Prod.mk.injEq, List.not_mem_nil, or_false] at listed
    rcases listed with ⟨rfl, rfl⟩ | ⟨rfl, rfl⟩ | ⟨rfl, rfl⟩ | ⟨rfl, rfl⟩ | ⟨rfl, rfl⟩ | ⟨rfl, rfl⟩
    · exact .null
    · exact .yes
    · exact .no
    · exact .number (.word (by decide))
    · exact .number (.word (by decide))
    · exact .number (.word (by decide))
  · obtain ⟨n, number, rfl⟩ := Option.map_eq_some_iff.mp h
    exact .number (spellsNumber_of_readNumber? number)

/-- A literal says no object. -/
theorem readLiteral?_ne_object (members : List (String × Value)) :
    readLiteral? s ≠ some (.object members) := by
  intro said
  unfold readLiteral? at said
  split at said
  · next word =>
    obtain rfl := Option.some.inj said
    have listed := mem_literalWords_of_lookup word
    simp [literalWords] at listed
  · obtain ⟨n, -, number⟩ := Option.map_eq_some_iff.mp said
    cases number

end Numbers

/-! ## Strings -/

section Strings

open State (escaped? hexValue? isHigh isLow endCode stepString)

variable {s t read read' : List Char} {c : Char} {phase phase' : StringPhase}

theorem SpellsChars.snoc {cs : List Char} (h : SpellsChars s cs) (last : SpellsChar t c) :
    SpellsChars (s ++ t) (cs ++ [c]) := by
  induction h with
  | nil =>
    have one := SpellsChars.cons last .nil
    rwa [List.append_nil] at one
  | cons first _ ih =>
    rw [List.append_assoc]
    exact .cons first ih

/-- A digit that has a value is the small or the capital digit of that value. -/
theorem isHex_of_hexValue? {d : Nat} (h : hexValue? c = some d) :
    d < 16 ∧ IsHex c (hexDigit d) := by
  -- the last of the digits is 'f', so the characters up to it can be gone through
  have each : ∀ n < 0x67, ∀ d ∈ hexValue? (Char.ofNat n),
      d < 16 ∧ (Char.ofNat n = hexDigit d ∨ Char.ofNat n = (hexDigit d).toUpper) := by decide
  have small : c.toNat < 0x67 := by
    unfold hexValue? at h
    split_ifs at h with digit letter capital
    · exact Nat.lt_of_le_of_lt digit.2 (by decide)
    · exact Nat.lt_of_le_of_lt letter.2 (by decide)
    · exact Nat.lt_of_le_of_lt capital.2 (by decide)
  have found := each c.toNat small d
  rw [Char.ofNat_toNat] at found
  exact found h

/-- One digit more makes the code sixteen times as large, and the digit is the last one of it. -/
theorem forall₂_isHex_snoc {digits : List Char} {value d : Nat}
    (small : value < 16 ^ digits.length)
    (hex : List.Forall₂ IsHex digits (hexDigits digits.length value)) (below : d < 16)
    (isHex : IsHex c (hexDigit d)) :
    value * 16 + d < 16 ^ (digits ++ [c]).length ∧
      List.Forall₂ IsHex (digits ++ [c]) (hexDigits (digits ++ [c]).length (value * 16 + d)) := by
  have last : (value * 16 + d) % 16 = d := by omega
  have before : (value * 16 + d) / 16 = value := by omega
  rw [List.length_append, List.length_singleton]
  constructor
  · rw [Nat.pow_succ]
    omega
  · rw [hexDigits, last, before]
    exact List.rel_append hex (.cons isHex .nil)

theorem mem_shortEscapes_of_escaped? {e : Char} (h : escaped? c = some e) :
    (c, e) ∈ shortEscapes := by
  unfold escaped? at h
  split_ifs at h with same b f n r t
  · obtain rfl := Option.some.inj h
    simp only [Bool.or_eq_true, beq_iff_eq] at same
    rcases same with (rfl | rfl) | rfl <;> decide
  all_goals
    obtain rfl := Option.some.inj h
    rw [beq_iff_eq.mp ‹(c == _) = true›]
    decide

/-- The first half of a pair, if one has been read. -/
inductive SpellsHalf : List Char → Option Nat → Prop
  | none : SpellsHalf [] none
  | some {s : List Char} {n : Nat} (h : SpellsUnit n s) (high : isHigh n = true) :
      SpellsHalf s (some n)

/-- The text of a string up to some place: the characters before it, and behind them what has been
begun of one more. -/
inductive SpellsBegun : List Char → List Char → StringPhase → Prop
  | plain {s read : List Char} (h : SpellsChars s read.reverse) : SpellsBegun s read .plain
  | escape {s read : List Char} (h : SpellsChars s read.reverse) :
      SpellsBegun (s ++ ['\\']) read .escape
  | code {s read half digits : List Char} {high : Option Nat} {value : Nat}
      (h : SpellsChars s read.reverse) (first : SpellsHalf half high) (few : digits.length < 4)
      (small : value < 16 ^ digits.length)
      (hex : List.Forall₂ IsHex digits (hexDigits digits.length value)) :
      SpellsBegun (s ++ (half ++ '\\' :: 'u' :: digits)) read (.code digits.length value high)
  | lowBackslash {s read half : List Char} {high : Nat} (h : SpellsChars s read.reverse)
      (first : SpellsHalf half (some high)) : SpellsBegun (s ++ half) read (.lowBackslash high)
  | lowMark {s read half : List Char} {high : Nat} (h : SpellsChars s read.reverse)
      (first : SpellsHalf half (some high)) :
      SpellsBegun (s ++ (half ++ ['\\'])) read (.lowMark high)

/-- A code that is neither half of a pair nor too large is that of its character. -/
theorem toNat_ofNat_of_valid {n : Nat} (valid : n < 0xd800 ∨ 0xdfff < n ∧ n < 0x110000) :
    (Char.ofNat n).toNat = n := by
  rw [Char.ofNat, dif_pos valid]
  rfl

theorem SpellsBegun.mark {half : List Char} {high : Option Nat} (h : SpellsChars s read.reverse)
    (first : SpellsHalf half high) :
    SpellsBegun (s ++ (half ++ ['\\', 'u'])) read (.code 0 0 high) :=
  .code h first (by decide) (by decide) .nil

theorem SpellsBegun.character (h : SpellsChars s read.reverse) (last : SpellsChar t c) :
    SpellsBegun (s ++ t) (c :: read) .plain := by
  refine .plain ?_
  rw [List.reverse_cons]
  exact h.snoc last

/-- A code that has ended is a character, or the first half of a pair. -/
theorem SpellsBegun.endCode {half : List Char} {high : Option Nat} {value : Nat}
    (h : SpellsChars s read.reverse) (first : SpellsHalf half high) (unit : SpellsUnit value t)
    (ended : endCode read value high = some (read', phase')) :
    SpellsBegun (s ++ (half ++ t)) read' phase' := by
  have small : value < 0x10000 := by
    obtain ⟨small, -⟩ := unit
    exact small
  cases first with
  | none =>
    rw [State.endCode] at ended
    split_ifs at ended with high low
    · obtain ⟨rfl, rfl⟩ := Prod.mk.inj (Option.some.inj ended)
      exact .lowBackslash h (.some unit high)
    · obtain ⟨rfl, rfl⟩ := Prod.mk.inj (Option.some.inj ended)
      simp only [State.isHigh, State.isLow, Bool.and_eq_true, decide_eq_true_eq] at high low
      have same : (Char.ofNat value).toNat = value := toNat_ofNat_of_valid (by omega)
      exact .character h (.unit (by rwa [same]))
  | @some _ n isUnit high =>
    rw [State.endCode] at ended
    split_ifs at ended with low
    obtain ⟨rfl, rfl⟩ := Prod.mk.inj (Option.some.inj ended)
    simp only [State.isHigh, State.isLow, Bool.and_eq_true, decide_eq_true_eq] at high low
    -- the halves are those into which the code of the character is split again
    have same := toNat_ofNat_of_valid (n := 0x10000 + (n - 0xd800) * 0x400 + (value - 0xdc00))
      (by omega)
    refine .character h (.pair (by omega) ?_ ?_)
    · rw [same]
      convert isUnit using 1
      omega
    · rw [same]
      convert unit using 1
      omega

/-- **A character that is read goes on with the text of the string.** -/
theorem SpellsBegun.step (h : SpellsBegun s read phase) (open_ : ¬ (phase = .plain ∧ c = '"'))
    (read_ : stepString read c phase = some (read', phase')) :
    SpellsBegun (s ++ [c]) read' phase' := by
  cases h with
  | plain h =>
    rw [stepString] at read_
    split_ifs at read_ with backslash control
    · obtain ⟨rfl, rfl⟩ := Prod.mk.inj (Option.some.inj read_)
      rw [beq_iff_eq.mp backslash]
      exact .escape h
    · obtain ⟨rfl, rfl⟩ := Prod.mk.inj (Option.some.inj read_)
      exact .character h (.plain (Nat.le_of_not_lt control) (fun quote => open_ ⟨rfl, quote⟩)
        (by simpa using backslash))
  | escape h =>
    rw [stepString] at read_
    split_ifs at read_ with mark
    · obtain ⟨rfl, rfl⟩ := Prod.mk.inj (Option.some.inj read_)
      rw [beq_iff_eq.mp mark, List.append_assoc]
      exact .mark h .none
    · obtain ⟨e, stands, same⟩ := Option.map_eq_some_iff.mp read_
      obtain ⟨rfl, rfl⟩ := Prod.mk.inj same
      rw [List.append_assoc]
      exact .character h (.short (mem_shortEscapes_of_escaped? stands))
  | @code _ _ half digits high value h first few small hex =>
    rw [stepString] at read_
    obtain ⟨d, isDigit, read_⟩ := Option.bind_eq_some_iff.mp read_
    obtain ⟨below, isHex⟩ := isHex_of_hexValue? isDigit
    obtain ⟨grown, more⟩ := forall₂_isHex_snoc small hex below isHex
    have length : (digits ++ [c]).length = digits.length + 1 := List.length_append
    rw [List.append_assoc, List.append_assoc, List.cons_append, List.cons_append]
    split_ifs at read_ with room
    · obtain ⟨rfl, rfl⟩ := Prod.mk.inj (Option.some.inj read_)
      rw [← length]
      exact .code h first (by omega) grown more
    · have four : (digits ++ [c]).length = 4 := by omega
      rw [four] at grown more
      exact .endCode h first (.mk grown more) read_
  | lowBackslash h first =>
    rw [stepString] at read_
    split_ifs at read_ with backslash
    obtain ⟨rfl, rfl⟩ := Prod.mk.inj (Option.some.inj read_)
    rw [beq_iff_eq.mp backslash, List.append_assoc]
    exact .lowMark h first
  | lowMark h first =>
    rw [stepString] at read_
    split_ifs at read_ with mark
    obtain ⟨rfl, rfl⟩ := Prod.mk.inj (Option.some.inj read_)
    rw [beq_iff_eq.mp mark, List.append_assoc, List.append_assoc]
    exact .mark h first

/-- Where a string may end, all that has been begun is its characters. -/
theorem SpellsBegun.closed {read : List Char} {phase : StringPhase} (h : SpellsBegun s read phase)
    (plain : phase = .plain) :
    SpellsString ('"' :: s ++ ['"']) (String.ofList read.reverse) := by
  subst plain
  cases h with
  | plain h => exact .mk (by rwa [String.toList_ofList])

end Strings

/-! ## Places -/

section Places

variable {s t u g : List Char} {v w : Value} {items rest : List Value}
  {members : List (String × Value)} {stack : List Frame} {key : String} {c : Char}

theorem isGap_nil : IsGap [] := List.forall_mem_nil _

theorem IsGap.snoc (gap : IsGap g) (space : State.isSpace c = true) : IsGap (g ++ [c]) :=
  List.forall_mem_append.mpr ⟨gap, List.forall_mem_singleton.mpr space⟩

theorem Spells.spacedBehind (h : Spells s v) (gap : IsGap g) : SpellsSpaced (g ++ s) v := by
  have spaced := SpellsSpaced.mk gap h isGap_nil
  rwa [List.append_nil] at spaced

theorem SpellsSpaced.snoc (h : SpellsSpaced s v) (space : State.isSpace c = true) :
    SpellsSpaced (s ++ [c]) v := by
  cases h with
  | mk gap h gap' =>
    rw [List.append_assoc, List.append_assoc]
    exact .mk gap h (gap'.snoc space)

/-- The items of an array in front of some place, the last one first, each with a comma behind. -/
inductive ItemsBefore : List Char → List Value → Prop
  | nil : ItemsBefore [] []
  | snoc {s t : List Char} {v : Value} {items : List Value} (h : ItemsBefore t items)
      (last : SpellsSpaced s v) : ItemsBefore (t ++ (s ++ [','])) (v :: items)

/-- What comes behind them completes the array. -/
theorem ItemsBefore.append (h : ItemsBefore t items) (behind : SpellsItems u (w :: rest)) :
    SpellsItems (t ++ u) (items.reverse ++ w :: rest) := by
  induction h generalizing u w rest with
  | nil => exact behind
  | snoc _ last ih =>
    have more := ih (.more last behind)
    simpa using more

/-- The members of an object in front of some place, the last one first, each with a comma
behind. -/
inductive MembersBefore : List Char → List (String × Value) → Prop
  | nil : MembersBefore [] []
  | snoc {k s t : List Char} {key : String} {v : Value} {members : List (String × Value)}
      (h : MembersBefore t members) (name : SpellsKey k key) (last : SpellsSpaced s v) :
      MembersBefore (t ++ (k ++ (s ++ [',']))) ((key, v) :: members)

/-- What comes behind them completes the object. -/
theorem MembersBefore.append {m : String × Value} {others : List (String × Value)}
    (h : MembersBefore t members) (behind : SpellsMembers u (m :: others)) :
    SpellsMembers (t ++ u) (members.reverse ++ m :: others) := by
  induction h generalizing u m others with
  | nil => exact behind
  | snoc _ name last ih =>
    have more := ih (.more name last behind)
    simpa using more

/-- A text up to where a value may begin, within some arrays and objects. -/
inductive Awaits : List Frame → List Char → Prop
  | all : Awaits [] []
  | item {stack : List Frame} {t g s : List Char} {items : List Value} (around : Awaits stack t)
      (gap : IsGap g) (before : ItemsBefore s items) :
      Awaits (.array items :: stack) (t ++ (g ++ '[' :: s))
  | member {stack : List Frame} {t g s k : List Char} {members : List (String × Value)}
      {key : String} (around : Awaits stack t) (gap : IsGap g) (before : MembersBefore s members)
      (name : SpellsKey k key) :
      Awaits (.object members key :: stack) (t ++ (g ++ '\x7b' :: (s ++ k)))

/-- A text up to where a key of an object may begin. -/
inductive AwaitsKey : List (String × Value) → List Frame → List Char → Prop
  | mk {stack : List Frame} {t g s : List Char} {members : List (String × Value)}
      (around : Awaits stack t) (gap : IsGap g) (before : MembersBefore s members) :
      AwaitsKey members stack (t ++ (g ++ '\x7b' :: s))

/-- Behind a key and its colon the value of that key may begin. -/
theorem AwaitsKey.value {k : List Char} (h : AwaitsKey members stack t) (name : SpellsKey k key) :
    Awaits (.object members key :: stack) (t ++ k) := by
  cases h with
  | mk around gap before =>
    have place := Awaits.member around gap before name
    simpa using place

end Places

/-! ## The machine -/

namespace State

/-- **What has been read is the beginning of a text**, up to the place where the machine is. -/
inductive Read : State → List Char → Prop
  | value {stack : List Frame} {t g : List Char} {mayClose : Bool} (place : Awaits stack t)
      (gap : IsGap g) (empty : mayClose = true → ∃ rest, stack = .array [] :: rest) :
      Read ⟨stack, .value mayClose⟩ (t ++ g)
  | key {stack : List Frame} {t g : List Char} {members : List (String × Value)} {old : String}
      {mayClose : Bool} (place : AwaitsKey members stack t) (gap : IsGap g)
      (empty : mayClose = true → members = []) :
      Read ⟨.object members old :: stack, .key mayClose⟩ (t ++ g)
  | keyText {stack : List Frame} {t g s read : List Char} {members : List (String × Value)}
      {old : String} {phase : StringPhase} (place : AwaitsKey members stack t) (gap : IsGap g)
      (begun : SpellsBegun s read phase) :
      Read ⟨.object members old :: stack, .string true read phase⟩ (t ++ (g ++ '"' :: s))
  | colon {stack : List Frame} {t g s g' : List Char} {members : List (String × Value)}
      {key : String} (place : AwaitsKey members stack t) (gap : IsGap g) (name : SpellsString s key)
      (gap' : IsGap g') : Read ⟨.object members key :: stack, .colon⟩ (t ++ (g ++ (s ++ g')))
  | text {stack : List Frame} {t g s read : List Char} {phase : StringPhase}
      (place : Awaits stack t) (gap : IsGap g) (begun : SpellsBegun s read phase) :
      Read ⟨stack, .string false read phase⟩ (t ++ (g ++ '"' :: s))
  | literal {stack : List Frame} {t g read : List Char} (place : Awaits stack t) (gap : IsGap g) :
      Read ⟨stack, .literal read⟩ (t ++ (g ++ read.reverse))
  | delivered {q : State} {stack : List Frame} {t s : List Char} {v : Value}
      (place : Awaits stack t) (h : SpellsSpaced s v) (same : q = deliver stack v) :
      Read q (t ++ s)
  | failed {s : List Char} : Read failure s

variable {stack : List Frame} {s t g : List Char} {v : Value} {c : Char} {q : State}

/-- A text that has been read may be bracketed otherwise. -/
theorem Read.of_eq (h : Read q s) (same : s = t) : Read q t := same ▸ h

/-- A value that ends with its last character has been delivered. -/
theorem Read.closed (place : Awaits stack t) (gap : IsGap g) (h : Spells s v) :
    Read (deliver stack v) (t ++ (g ++ s)) :=
  .delivered place (h.spacedBehind gap) rfl

/-- A value begins, unless it would lie too deep. -/
theorem read_openValue (place : Awaits stack t) (gap : IsGap g) :
    Read (openValue stack c) (t ++ g ++ [c]) := by
  unfold openValue
  split_ifs with deep brace bracket quote literal
  · exact .failed
  · obtain rfl := beq_iff_eq.mp brace
    have opened : AwaitsKey [] stack _ := .mk place gap .nil
    exact (Read.key opened isGap_nil fun _ => rfl).of_eq (by simp)
  · obtain rfl := beq_iff_eq.mp bracket
    exact (Read.value (.item place gap .nil) isGap_nil fun _ => ⟨_, rfl⟩).of_eq (by simp)
  · obtain rfl := beq_iff_eq.mp quote
    exact (Read.text place gap (.plain .nil)).of_eq (by simp)
  · exact Read.of_eq (.literal place gap) (by simp)
  · exact .failed

/-- A character behind a delivered value is white space, a comma, or the end of what the value
lies in. -/
theorem read_step_delivered (place : Awaits stack t) (h : SpellsSpaced s v) :
    Read ((deliver stack v).step c) (t ++ s ++ [c]) := by
  cases place with
  | all =>
    show Read (afterAll v c) _
    unfold afterAll
    split_ifs with space
    · exact (Read.delivered .all (h.snoc space) rfl).of_eq (by simp)
    · exact .failed
  | @item rest t g before items around gap isBefore =>
    show Read (afterValue (.array (v :: items) :: rest) c) _
    unfold afterValue
    split_ifs with space comma
    · exact (Read.delivered (.item around gap isBefore) (h.snoc space) rfl).of_eq (by simp)
    · obtain rfl := beq_iff_eq.mp comma
      have place := Awaits.item around gap (.snoc isBefore h)
      exact Read.of_eq (.value place isGap_nil (by simp)) (by simp)
    · rw [close]
      split_ifs with bracket
      · obtain rfl := beq_iff_eq.mp bracket
        have array := Spells.array (isBefore.append (.last h))
        exact (Read.delivered around (array.spacedBehind gap) (by simp)).of_eq (by simp)
      · exact .failed
  | @member rest t g before k members key around gap isBefore name =>
    show Read (afterValue (.object ((key, v) :: members) key :: rest) c) _
    unfold afterValue
    split_ifs with space comma
    · exact (Read.delivered (.member around gap isBefore name) (h.snoc space) rfl).of_eq (by simp)
    · obtain rfl := beq_iff_eq.mp comma
      have place := AwaitsKey.mk around gap (.snoc isBefore name h)
      exact Read.of_eq (.key place isGap_nil (by simp)) (by simp)
    · rw [close]
      split_ifs with brace
      · obtain rfl := beq_iff_eq.mp brace
        have object := Spells.object (isBefore.append (.last name h))
        exact (Read.delivered around (object.spacedBehind gap) (by simp)).of_eq (by simp)
      · exact .failed

/-- Where a value may begin, white space may stand, one does begin, or an empty array ends. -/
theorem read_step_value {mayClose : Bool} (place : Awaits stack t) (gap : IsGap g)
    (empty : mayClose = true → ∃ rest, stack = .array [] :: rest) :
    Read ((⟨stack, .value mayClose⟩ : State).step c) (t ++ g ++ [c]) := by
  show Read (if isSpace c then _ else if mayClose && c == ']' then close stack c
    else openValue stack c) _
  split_ifs with space bracket
  · exact (Read.value place (gap.snoc space) empty).of_eq (by simp)
  · simp only [Bool.and_eq_true, beq_iff_eq] at bracket
    obtain ⟨rest, rfl⟩ := empty bracket.1
    obtain rfl := bracket.2
    cases place with
    | item around gap' before =>
      cases before
      exact (Read.closed around gap' (.array (.none gap))).of_eq (by simp)
  · exact read_openValue place gap

/-- Where a key may begin, white space may stand, one does begin, or an empty object ends. -/
theorem read_step_key {members : List (String × Value)} {old : String} {mayClose : Bool}
    (place : AwaitsKey members stack t) (gap : IsGap g) (empty : mayClose = true → members = []) :
    Read ((⟨.object members old :: stack, .key mayClose⟩ : State).step c) (t ++ g ++ [c]) := by
  show Read (if isSpace c then _ else if mayClose && c == '\x7d' then
    close (.object members old :: stack) c else if c == '"' then _ else failure) _
  split_ifs with space brace quote
  · exact (Read.key place (gap.snoc space) empty).of_eq (by simp)
  · simp only [Bool.and_eq_true, beq_iff_eq] at brace
    obtain rfl := empty brace.1
    obtain rfl := brace.2
    cases place with
    | mk around gap' before =>
      cases before
      exact (Read.closed around gap' (.object (.none gap))).of_eq (by simp)
  · obtain rfl := beq_iff_eq.mp quote
    exact (Read.keyText place gap (.plain .nil)).of_eq (by simp)
  · exact .failed

/-- **What is read goes on with the text**, one character at a time. -/
theorem Read.step (h : Read q s) (c : Char) : Read (q.step c) (s ++ [c]) := by
  cases h with
  | value place gap empty => exact read_step_value place gap empty
  | key place gap empty => exact read_step_key place gap empty
  | @keyText stack t g s read members old phase place gap begun =>
    show Read (if phase = .plain ∧ c = '"' then _ else _) _
    split_ifs with closes
    · obtain ⟨plain, rfl⟩ := closes
      exact (Read.colon place gap (begun.closed plain) isGap_nil).of_eq (by simp)
    · split
      · next more => exact (Read.keyText place gap (begun.step closes more)).of_eq (by simp)
      · exact .failed
  | @colon stack t g s g' members key place gap name gap' =>
    show Read (if isSpace c then _ else if c == ':' then _ else failure) _
    split_ifs with space colon
    · exact (Read.colon place gap name (gap'.snoc space)).of_eq (by simp)
    · obtain rfl := beq_iff_eq.mp colon
      have value := place.value (.mk gap name gap')
      exact Read.of_eq (.value value isGap_nil (by simp)) (by simp)
    · exact .failed
  | @text stack t g s read phase place gap begun =>
    show Read (if phase = .plain ∧ c = '"' then _ else _) _
    split_ifs with closes
    · obtain ⟨plain, rfl⟩ := closes
      exact (Read.closed place gap (.string (begun.closed plain))).of_eq (by simp)
    · split
      · next more => exact (Read.text place gap (begun.step closes more)).of_eq (by simp)
      · exact .failed
  | @literal stack t g read place gap =>
    show Read (if isLiteralChar c then _ else _) _
    split_ifs
    · exact (Read.literal place gap).of_eq (by simp)
    · split
      · next v said =>
        -- the first character that is none of the literal's is already one behind its value
        show Read (stepDelivered (deliver stack v) c) _
        rw [stepDelivered_deliver]
        exact read_step_delivered place ((spells_of_readLiteral? said).spacedBehind gap)
      · exact .failed
  | delivered place h same =>
    rw [same]
    exact read_step_delivered place h
  | failed => exact .failed

theorem Read.run (h : Read q s) (t : List Char) : Read (q.run t) (s ++ t) := by
  induction t generalizing q s with
  | nil =>
    rw [List.append_nil]
    exact h
  | cons c t ih =>
    have next := ih (h.step c)
    rwa [List.append_assoc] at next

end State

/-! ## Texts -/

variable {s : List Char} {v : Value}

/-- **What is read is a text of what is read.** -/
theorem spells_of_read? (h : read? s = some v) : SpellsSpaced s v := by
  have started : State.Read State.start ([] ++ []) := .value .all isGap_nil (by simp)
  have read := started.run s
  simp only [List.nil_append] at read
  rw [read?] at h
  generalize State.start.run s = q at read h
  unfold State.result? at h
  obtain ⟨stack, phase⟩ := q
  split at h
  · next stackNil phaseFinished =>
    obtain rfl := Option.some.inj h
    obtain rfl : stack = [] := stackNil
    obtain rfl : phase = _ := phaseFinished
    cases read with
    | delivered place h same =>
      cases place with
      | all =>
        cases same
        exact h
      | item | member => cases same
  · next read stackNil phaseLiteral =>
    obtain rfl : stack = [] := stackNil
    obtain rfl : phase = _ := phaseLiteral
    cases read with
    | literal place gap =>
      cases place
      exact (spells_of_readLiteral? h).spacedBehind gap
    | delivered place _ same => cases place <;> cases same
  · cases h

/-- **Read are exactly the texts of values within the limits**, each as the value it is of. -/
theorem read?_eq_some_iff : read? s = some v ↔ SpellsSpaced s v ∧ v.Fits Number.IsShort 0 := by
  constructor
  · intro h
    exact ⟨spells_of_read? h, fits_of_read? h⟩
  · rintro ⟨text, fit⟩
    exact read?_of_spells text fit

/-- **A text that says an object begins, behind blanks, with a brace.** -/
theorem head?_trimStart_of_read? {members : List (String × Value)}
    (h : read? s = some (.object members)) : (trimStart s).head? = some '\x7b' := by
  obtain @⟨before, text, after, _, gap, object, gap'⟩ := spells_of_read? h
  have blank : ∀ c ∈ before, isBlank c = true := fun c hc => State.isBlank_of_isSpace (gap c hc)
  rw [trimStart, Text.trimStartWhere, List.dropWhile_append_of_pos blank]
  cases object
  rfl

end OwnerBuild.Json
