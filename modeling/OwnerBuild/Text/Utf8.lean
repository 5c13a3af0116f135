/-
# OwnerBuild.Text.Utf8 -- reading bytes as text, never failing

Bytes become characters through a small state machine that is stepped once a
byte. What is no part of a well-formed sequence is replaced: one U+FFFD for each
maximal part of a sequence that cannot be completed, and one for each byte that
begins none. Because the machine is a fold over the bytes, the text of
`xs ++ ys` is the text of `xs` up to the state reached, followed by the text of
`ys` from that state (`decodeFrom_append`).

Line ends are unified afterwards: a carriage return, with the line feed after it
if there is one, becomes a single line feed.
-/

namespace OwnerBuild.Text

/-! ## The byte machine -/

/-- The character that stands for bytes that are no text. -/
def replacement : Char := '\uFFFD'

/-- What has been read of the current sequence: nothing, or a beginning with the
value so far, the number of bytes still due and the range allowed for the next. -/
inductive Utf8State where
  | between
  | within (value due low high : Nat)
  deriving DecidableEq, Repr

/-- The state after the first byte of a sequence, with the characters it completes. -/
def Utf8State.begin (b : UInt8) : Utf8State × List Char :=
  let n := b.toNat
  if n < 0x80 then (.between, [Char.ofNat n])
  else if n < 0xc2 then (.between, [replacement])
  else if n < 0xe0 then (.within (n - 0xc0) 1 0x80 0xbf, [])
  else if n < 0xf0 then
    (.within (n - 0xe0) 2 (if n == 0xe0 then 0xa0 else 0x80) (if n == 0xed then 0x9f else 0xbf), [])
  else if n < 0xf5 then
    (.within (n - 0xf0) 3 (if n == 0xf0 then 0x90 else 0x80) (if n == 0xf4 then 0x8f else 0xbf), [])
  else (.between, [replacement])

/-- One byte: it completes the sequence, continues it, or cuts it short; in the
last case the beginning is replaced and the byte is looked at afresh. -/
def Utf8State.step : Utf8State → UInt8 → Utf8State × List Char
  | .between, b => begin b
  | .within value due low high, b =>
    if low ≤ b.toNat ∧ b.toNat ≤ high then
      let value' := value * 64 + (b.toNat - 0x80)
      if due ≤ 1 then (.between, [Char.ofNat value'])
      else (.within value' (due - 1) 0x80 0xbf, [])
    else ((begin b).1, replacement :: (begin b).2)

/-- A sequence that the end of the input cuts short is replaced. -/
def Utf8State.finish : Utf8State → List Char
  | .between => []
  | .within .. => [replacement]

/-- The text of the bytes that follow a state. -/
def decodeFrom (q : Utf8State) : List UInt8 → List Char
  | [] => q.finish
  | b :: rest => (q.step b).2 ++ decodeFrom (q.step b).1 rest

/-- The state reached after some bytes. -/
def stateAfter (q : Utf8State) : List UInt8 → Utf8State
  | [] => q
  | b :: rest => stateAfter (q.step b).1 rest

/-- The characters completed by some bytes. -/
def emitted (q : Utf8State) : List UInt8 → List Char
  | [] => []
  | b :: rest => (q.step b).2 ++ emitted (q.step b).1 rest

/-- Reading is chunk by chunk: the second part starts where the first one stopped. -/
theorem decodeFrom_append (q : Utf8State) (xs ys : List UInt8) :
    decodeFrom q (xs ++ ys) = emitted q xs ++ decodeFrom (stateAfter q xs) ys := by
  induction xs generalizing q with
  | nil => rfl
  | cons b xs ih => simp [decodeFrom, emitted, stateAfter, ih]

/-! ## Line ends -/

/-- Unifies line ends in a text that follows a carriage return or not. -/
def unifyBreaksFrom (afterReturn : Bool) : List Char → List Char
  | [] => []
  | c :: rest =>
    if c == '\r' then '\n' :: unifyBreaksFrom true rest
    else if afterReturn && c == '\n' then unifyBreaksFrom false rest
    else c :: unifyBreaksFrom false rest

/-- Every carriage return, alone or before a line feed, becomes one line feed. -/
def unifyBreaks (s : List Char) : List Char := unifyBreaksFrom false s

/-- The text that a program wrote. -/
def decode (bytes : List UInt8) : List Char := unifyBreaks (decodeFrom .between bytes)

/-- The bytes of a text. -/
def encode (s : String) : List UInt8 := s.toUTF8.data.toList

example : decode [0x61, 0xe2, 0x82, 0x0d, 0x0a, 0xff] =
    ['a', replacement, '\n', replacement] := by decide
example : decode [0xe2, 0x82, 0xac, 0xf0, 0x9f, 0x92, 0xaf] = ['€', '💯'] := by decide

end OwnerBuild.Text
