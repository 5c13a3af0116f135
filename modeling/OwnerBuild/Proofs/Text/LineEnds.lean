/-
# OwnerBuild.Proofs.Text.LineEnds -- carriage returns in front of line feeds

Some programs end their lines with a carriage return and a line feed where others write the
line feed alone. `Returned` relates bytes that differ in this: a carriage return has been put in
front of some of the line feeds, or of all of them (`returned_withReturns`). The text of the
bytes may change by it, since a carriage return that was there already becomes a break of its
own. But what changes are empty lines, and a reader of lines that takes nothing from these
reads the same from both (`Returned.flatMap_lines_eq`).

The induction is on the bytes with those in front of them held fixed: only at a line feed does
it matter what stands in front, and there both texts can be read in two parts.
-/

import OwnerBuild.Proofs.Text.Decoded

namespace OwnerBuild.Text

/-- The byte of a carriage return. -/
def carriageReturn : UInt8 := 0x0d

/-- That the second bytes are the first with a carriage return in front of some of the line
feeds. -/
inductive Returned : List UInt8 → List UInt8 → Prop
  | nil : Returned [] []
  | same (b : UInt8) {xs ys : List UInt8} (h : Returned xs ys) : Returned (b :: xs) (b :: ys)
  | inserted {xs ys : List UInt8} (h : Returned xs ys) :
      Returned (newline :: xs) (carriageReturn :: newline :: ys)

/-- Bytes with a carriage return in front of every line feed. -/
def withReturns (bytes : List UInt8) : List UInt8 :=
  bytes.flatMap fun b => if b = newline then [carriageReturn, newline] else [b]

/-- Putting a carriage return in front of every line feed is one way to do it. -/
theorem returned_withReturns (xs : List UInt8) : Returned xs (withReturns xs) := by
  induction xs with
  | nil => exact .nil
  | cons b xs ih =>
    rw [withReturns, List.flatMap_cons]
    split
    · next feed =>
      subst feed
      exact .inserted ih
    · exact .same b ih

/-- A carriage return at the end becomes a break at the end. -/
theorem unifyBreaksFrom_append_return (b : Bool) (s : List Char) :
    unifyBreaksFrom b (s ++ ['\r']) = unifyBreaksFrom b s ++ ['\n'] := by
  induction s generalizing b with
  | nil => rfl
  | cons c s ih =>
    simp only [List.cons_append, unifyBreaksFrom]
    split
    · rw [ih, List.cons_append]
    split
    · exact ih false
    · rw [ih, List.cons_append]

theorem decode_append_return (xs : List UInt8) :
    decode (xs ++ [carriageReturn]) = decode xs ++ ['\n'] := by
  have bytes : decodeFrom .between (xs ++ [carriageReturn]) = decodeFrom .between xs ++ ['\r'] :=
    decodeFrom_append_ascii (q := .between) trivial xs [] (by decide)
  rw [decode, unifyBreaks, bytes, unifyBreaksFrom_append_return]
  rfl

variable {α : Type} {f : List Char → List α}

/-- A reader of lines that takes nothing from an empty line takes nothing from a carriage
return at the end. -/
theorem flatMap_lines_decode_append_return (empty : f [] = []) (xs : List UInt8) :
    (lines (decode (xs ++ [carriageReturn]))).flatMap f = (lines (decode xs)).flatMap f := by
  rw [decode_append_return, flatMap_lines_append_newline empty, lines_nil, List.flatMap_nil,
    List.append_nil]

/-- **Carriage returns in front of line feeds make no difference** to a reader of lines that
takes nothing from an empty line. -/
theorem Returned.flatMap_lines_eq (empty : f [] = []) {xs ys : List UInt8} (h : Returned xs ys) :
    (lines (decode ys)).flatMap f = (lines (decode xs)).flatMap f := by
  suffices behind : ∀ front : List UInt8,
      (lines (decode (front ++ ys))).flatMap f = (lines (decode (front ++ xs))).flatMap f from
    behind []
  induction h with
  | nil => exact fun _ => rfl
  | @same b xs ys h ih =>
    intro front
    have moved := ih (front ++ [b])
    rwa [List.append_assoc, List.append_assoc] at moved
  | @inserted xs ys h ih =>
    intro front
    have cut : front ++ carriageReturn :: newline :: ys =
        (front ++ [carriageReturn]) ++ newline :: ys := by
      rw [List.append_assoc]
      rfl
    rw [cut, flatMap_lines_decode_append_newline empty, flatMap_lines_decode_append_newline empty,
      flatMap_lines_decode_append_return empty]
    exact congrArg _ (ih [])

end OwnerBuild.Text
