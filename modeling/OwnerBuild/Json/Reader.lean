/-
# OwnerBuild.Json.Reader -- reading JSON one character at a time

The reader is a pushdown machine: a stack of unfinished arrays and objects, and a
phase that says what may come next. `State.step` takes one character, and reading
a text is folding it over the characters, so that the state after `xs ++ ys` is
the state that `ys` leads to from the one after `xs` (`run_append`). That is what
makes reading a written value a matter of one lemma for each kind of value, and
what shows that a finished object admits nothing but white space behind it.

The grammar is strict: the four white-space characters only, no comment, no
comma without a member behind it, no raw control character in a string, no half
of a surrogate pair. Every value lies within at most `deepest` arrays and
objects; a deeper one is refused when it begins, so an array at that depth may
be opened but has to stay empty.
-/

import OwnerBuild.Json.Literal

namespace OwnerBuild.Json

/-! ## States -/

/-- An array or object that has not ended, with what it holds so far, the last
first; an object also has the key whose value comes next. -/
inductive Frame where
  | array (items : List Value)
  | object (members : List (String × Value)) (key : String)

/-- Where in a string the reader is: among its characters, behind a backslash,
among the digits of a code (those read, their value, and the first half of a
pair if there was one), or where the second half of a pair has to begin. -/
inductive StringPhase where
  | plain
  | escape
  | code (digits value : Nat) (high : Option Nat)
  | lowBackslash (high : Nat)
  | lowMark (high : Nat)
  deriving DecidableEq

/-- What may come next. -/
inductive Phase where
  | value (mayClose : Bool)
  | key (mayClose : Bool)
  | colon
  | between
  | string (isKey : Bool) (read : List Char) (phase : StringPhase)
  | literal (read : List Char)
  | finished (v : Value)
  | failed

/-- A state of the reader. -/
structure State where
  stack : List Frame
  phase : Phase

/-- The arrays and objects that a value may lie within. -/
def deepest : Nat := 200

namespace State

/-- Before the first character. -/
def start : State := ⟨[], .value false⟩

/-- The state in which nothing can be read any more. -/
def failure : State := ⟨[], .failed⟩

/-- The white space between tokens. -/
def isSpace (c : Char) : Bool := c == ' ' || c == '\t' || c == '\n' || c == '\r'

/-! ## Values -/

/-- A value has ended: it belongs to the innermost array or object, or is all. -/
def deliver (stack : List Frame) (v : Value) : State :=
  match stack with
  | [] => ⟨[], .finished v⟩
  | .array items :: rest => ⟨.array (v :: items) :: rest, .between⟩
  | .object members key :: rest => ⟨.object ((key, v) :: members) key :: rest, .between⟩

/-- The innermost array or object ends. -/
def close (stack : List Frame) (c : Char) : State :=
  match stack with
  | .array items :: rest => if c == ']' then deliver rest (.array items.reverse) else failure
  | .object members _ :: rest =>
    if c == '\x7d' then deliver rest (.object members.reverse) else failure
  | [] => failure

/-- A value begins. -/
def openValue (stack : List Frame) (c : Char) : State :=
  if deepest < stack.length then failure
  else if c == '\x7b' then ⟨.object [] "" :: stack, .key true⟩
  else if c == '[' then ⟨.array [] :: stack, .value true⟩
  else if c == '"' then ⟨stack, .string false [] .plain⟩
  else if isLiteralChar c then ⟨stack, .literal [c]⟩
  else failure

/-- A character behind a value: a comma, or the end of the array or object. -/
def afterValue (stack : List Frame) (c : Char) : State :=
  if isSpace c then ⟨stack, .between⟩
  else if c == ',' then
    match stack with
    | .array _ :: _ => ⟨stack, .value false⟩
    | .object .. :: _ => ⟨stack, .key false⟩
    | [] => failure
  else close stack c

/-- A character behind everything. -/
def afterAll (v : Value) (c : Char) : State := if isSpace c then ⟨[], .finished v⟩ else failure

/-! ## Strings -/

/-- The value of a hexadecimal digit. -/
def hexValue? (c : Char) : Option Nat :=
  if '0' ≤ c ∧ c ≤ '9' then some (c.toNat - 0x30)
  else if 'a' ≤ c ∧ c ≤ 'f' then some (c.toNat - 0x61 + 10)
  else if 'A' ≤ c ∧ c ≤ 'F' then some (c.toNat - 0x41 + 10)
  else none

/-- What a backslash and a letter stand for. -/
def escaped? (c : Char) : Option Char :=
  if c == '"' || c == '\\' || c == '/' then some c
  else if c == 'b' then some '\x08'
  else if c == 'f' then some '\x0c'
  else if c == 'n' then some '\n'
  else if c == 'r' then some '\r'
  else if c == 't' then some '\t'
  else none

/-- Whether a code is the first half of a pair. -/
def isHigh (n : Nat) : Bool := 0xd800 ≤ n && n < 0xdc00

/-- Whether a code is the second half of a pair. -/
def isLow (n : Nat) : Bool := 0xdc00 ≤ n && n < 0xe000

/-- A code of four digits has ended: it is a character, the first half of a pair,
or the second half of one. -/
def endCode (read : List Char) (value : Nat) (high : Option Nat) :
    Option (List Char × StringPhase) :=
  match high with
  | none =>
    if isHigh value then some (read, .lowBackslash value)
    else if isLow value then none
    else some (Char.ofNat value :: read, .plain)
  | some first =>
    if isLow value then
      some (Char.ofNat (0x10000 + (first - 0xd800) * 0x400 + (value - 0xdc00)) :: read, .plain)
    else none

/-- A character within a string, the closing quote apart. -/
def stepString (read : List Char) (c : Char) : StringPhase → Option (List Char × StringPhase)
  | .plain =>
    if c == '\\' then some (read, .escape)
    else if c.toNat < 0x20 then none
    else some (c :: read, .plain)
  | .escape =>
    if c == 'u' then some (read, .code 0 0 none)
    else (escaped? c).map fun e => (e :: read, .plain)
  | .code digits value high =>
    (hexValue? c).bind fun d =>
      if digits < 3 then some (read, .code (digits + 1) (value * 16 + d) high)
      else endCode read (value * 16 + d) high
  | .lowBackslash high => if c == '\\' then some (read, .lowMark high) else none
  | .lowMark high => if c == 'u' then some (read, .code 0 0 (some high)) else none

/-- A string has ended: it is a value, or the key of the innermost object. -/
def endString (stack : List Frame) (isKey : Bool) (read : List Char) : State :=
  let s := String.ofList read.reverse
  if isKey then
    match stack with
    | .object members _ :: rest => ⟨.object members s :: rest, .colon⟩
    | _ => failure
  else deliver stack (.string s)

/-! ## The machine -/

/-- A character behind a value that has just been delivered. -/
def stepDelivered (q : State) (c : Char) : State :=
  match q.phase with
  | .finished v => afterAll v c
  | .between => afterValue q.stack c
  | _ => failure

/-- One character. -/
def step (q : State) (c : Char) : State :=
  match q.phase with
  | .value mayClose =>
    if isSpace c then q
    else if mayClose && c == ']' then close q.stack c
    else openValue q.stack c
  | .key mayClose =>
    if isSpace c then q
    else if mayClose && c == '\x7d' then close q.stack c
    else if c == '"' then ⟨q.stack, .string true [] .plain⟩
    else failure
  | .colon =>
    if isSpace c then q else if c == ':' then ⟨q.stack, .value false⟩ else failure
  | .between => afterValue q.stack c
  | .string isKey read phase =>
    if phase = .plain ∧ c = '"' then endString q.stack isKey read
    else match stepString read c phase with
      | some (read', phase') => ⟨q.stack, .string isKey read' phase'⟩
      | none => failure
  | .literal read =>
    if isLiteralChar c then ⟨q.stack, .literal (c :: read)⟩
    else match readLiteral? read.reverse with
      | some v => stepDelivered (deliver q.stack v) c
      | none => failure
  | .finished v => afterAll v c
  | .failed => failure

/-- The state after a text. -/
def run (q : State) (s : List Char) : State := s.foldl step q

/-- The value that the text read so far says, if it may end here. -/
def result? (q : State) : Option Value :=
  match q.stack, q.phase with
  | [], .finished v => some v
  | [], .literal read => readLiteral? read.reverse
  | _, _ => none

theorem run_append (q : State) (xs ys : List Char) : q.run (xs ++ ys) = (q.run xs).run ys :=
  List.foldl_append

@[simp] theorem step_failure (c : Char) : failure.step c = failure := rfl

/-- Behind a delivered value the machine steps as from any other state. -/
theorem stepDelivered_deliver (stack : List Frame) (v : Value) (c : Char) :
    stepDelivered (deliver stack v) c = (deliver stack v).step c := by
  match stack with
  | [] => rfl
  | .array _ :: _ => rfl
  | .object .. :: _ => rfl

/-- Nothing follows a failure. -/
@[simp] theorem run_failure (s : List Char) : failure.run s = failure := by
  induction s with
  | nil => rfl
  | cons c s ih => exact ih

end State

/-- The value that a text says. -/
def read? (s : List Char) : Option Value := (State.start.run s).result?

end OwnerBuild.Json
