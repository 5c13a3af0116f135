/-
# OwnerBuild.Proofs.Format.Truncated -- outputs that end too early

A build can be stopped while it writes, and then its output ends anywhere: in the middle of
a record, of an escape, of a number or of a line break. Nothing is made up from what is left.
A record that is accepted is an object, and an object admits nothing but white space behind
it (`isSpace_of_read?_append`), so a trimmed record that is accepted has no beginning that is
accepted as well (`read?_eq_none_of_prefix`).

That carries over to outputs because cutting a text cuts its last line and leaves the lines
before it as they are. What is left of the last line is either all of its record, with some of
the blanks behind it, or has no record that is accepted (`cut_record`). It is needed that
every record of the whole output is accepted: a line with an object and more behind it is
refused, and what is left of it may be the object alone.
-/

import OwnerBuild.Proofs.Format.RawLines

namespace OwnerBuild

/-! ## Behind an object -/

namespace Json

namespace State

/-- Behind a value that is all nothing but white space is read. -/
theorem isSpace_of_run_finished {v w : Value} {rest : List Char}
    (h : (run ⟨[], .finished v⟩ rest).result? = some w) : ∀ c ∈ rest, isSpace c = true := by
  induction rest with
  | nil => simp
  | cons c rest ih =>
    rw [run_cons, show step ⟨[], .finished v⟩ c = afterAll v c from rfl, afterAll] at h
    split at h
    · next space => exact List.forall_mem_cons.mpr ⟨space, ih h⟩
    · rw [run_failure] at h
      cases h

/-- An object has ended by its brace, not by the end of the text. -/
theorem eq_finished_of_result? {q : State} {members : List (String × Value)}
    (h : q.result? = some (.object members)) : q = ⟨[], .finished (.object members)⟩ := by
  obtain ⟨stack, phase⟩ := q
  unfold result? at h
  split at h
  · next noStack phase =>
    obtain rfl : stack = [] := noStack
    obtain rfl := Option.some.inj h
    exact congrArg (State.mk []) phase
  · exact absurd h (readLiteral?_ne_object members)
  · cases h

end State

/-- **Behind an object nothing but white space is read.** -/
theorem isSpace_of_read?_append {s rest : List Char} {members : List (String × Value)} {v : Value}
    (object : read? s = some (.object members)) (h : read? (s ++ rest) = some v) :
    ∀ c ∈ rest, State.isSpace c = true := by
  rw [read?, State.run_append, State.eq_finished_of_result? object] at h
  exact State.isSpace_of_run_finished h

end Json

namespace Format

open Rustc (Message)
open Text (isBlank trim trimStart CutLines)

/-! ## Records -/

/-- Whether a record is accepted as a message. -/
def isAccepted (record : List Char) : Bool := (Message.read? record).isSome

/-- **No beginning of a trimmed record is accepted** if the record is, itself apart. -/
theorem read?_eq_none_of_prefix {record cut : List Char} {m : Message}
    (trimmed : trim record = record) (accepted : Message.read? record = some m)
    (h : cut <+: record) (ne : cut ≠ record) : Message.read? cut = none := by
  obtain ⟨rest, rfl⟩ := h
  by_contra readable
  obtain ⟨n, read⟩ := Option.ne_none_iff_exists'.mp readable
  obtain ⟨object, whole⟩ := exists_members_of_read? accepted
  obtain ⟨members, begun⟩ := exists_members_of_read? read
  -- what follows could only be white space, and trimming would have taken that
  have blank : ∀ c ∈ rest, isBlank c = true := fun c hc =>
    Json.State.isBlank_of_isSpace (Json.isSpace_of_read?_append begun whole c hc)
  have more : rest ≠ [] := by
    rintro rfl
    exact ne (List.append_nil cut).symm
  have last : isBlank (rest.getLast more) = false := by
    refine Text.not_isBlank_of_getLast?_trim (s := cut ++ rest) ?_
    rw [trimmed, List.getLast?_append, List.getLast?_eq_some_getLast more]
    rfl
  rw [blank _ (List.getLast_mem more)] at last
  cases last

/-- What is left of a line whose record is accepted is a line without a record, or has the same
record, or has one that is not accepted. -/
theorem cut_record {cut line : List Char} (h : cut <+: line)
    (accepted : isRecordLine line = true → isAccepted (trim line) = true)
    (kept : isRecordLine cut = true) :
    isRecordLine line = true ∧ (trim cut = trim line ∨ isAccepted (trim cut) = false) := by
  obtain ⟨rest, rfl⟩ := h
  have visible : trimStart cut ≠ [] := by
    intro nothing
    rw [isRecordLine, nothing] at kept
    cases kept
  have begun : isRecordLine (cut ++ rest) = true := by
    rw [isRecordLine, Text.trimStart_append visible, List.head?_append]
    rw [isRecordLine, beq_iff_eq] at kept
    rw [kept]
    rfl
  refine ⟨begun, ?_⟩
  obtain ⟨m, read⟩ := Option.isSome_iff_exists.mp (accepted begun)
  by_cases whole : trim cut = trim (cut ++ rest)
  · exact .inl whole
  · refine .inr ?_
    have shorter := Text.trim_prefix_trim_append visible rest
    rw [isAccepted, read?_eq_none_of_prefix (Text.trim_trim _) read shorter whole]
    rfl

/-! ## Outputs -/

/-- The records of some lines. -/
def recordsOfLines (ls : List (List Char)) : List (List Char) :=
  (ls.filter isRecordLine).map trim

/-- Only accepted records have diagnostics. -/
theorem parse_filter_isAccepted (root : Path) (rs : List (List Char)) :
    parse root (rs.filter isAccepted) = parse root rs := by
  induction rs with
  | nil => rfl
  | cons record rest ih =>
    have split (rs : List (List Char)) :
        parse root (record :: rs) = diagnosticsIn root record ++ parse root rs :=
      List.flatMap_cons
    cases read : Message.read? record with
    | none =>
      have refused : isAccepted record = false := by rw [isAccepted, read]; rfl
      have silent : diagnosticsIn root record = [] := by rw [diagnosticsIn, read]
      rw [List.filter_cons_of_neg (by simp [refused]), ih, split, silent, List.nil_append]
    | some m =>
      have accepted : isAccepted record = true := by rw [isAccepted, read]; rfl
      rw [List.filter_cons_of_pos accepted, split, split, ih]

/-- The accepted records of cut lines are the first ones of the whole lines. -/
theorem accepted_prefix_of_cutLines {cuts ls : List (List Char)} (h : CutLines cuts ls)
    (accepted : ∀ record ∈ recordsOfLines ls, isAccepted record = true) :
    (recordsOfLines cuts).filter isAccepted <+: recordsOfLines ls := by
  have first {line : List Char} {ls : List (List Char)} (h : isRecordLine line = true) :
      recordsOfLines (line :: ls) = trim line :: recordsOfLines ls := by
    rw [recordsOfLines, List.filter_cons_of_pos h]
    rfl
  have skip {line : List Char} {ls : List (List Char)} (h : ¬ isRecordLine line = true) :
      recordsOfLines (line :: ls) = recordsOfLines ls := by
    rw [recordsOfLines, List.filter_cons_of_neg h]
    rfl
  induction h with
  | nothing => exact List.nil_prefix
  | @within cut line ls h =>
    by_cases kept : isRecordLine cut = true
    · have one (begun : isRecordLine line = true) : isAccepted (trim line) = true :=
        accepted _ (first begun ▸ List.mem_cons_self)
      obtain ⟨begun, same | refused⟩ := cut_record h one kept
      · rw [first kept, first begun, same, List.filter_cons_of_pos (one begun)]
        exact List.cons_prefix_cons.mpr ⟨rfl, List.nil_prefix⟩
      · rw [first kept, List.filter_cons_of_neg (by simp [refused])]
        exact List.nil_prefix
    · rw [skip kept]
      exact List.nil_prefix
  | @whole line cuts ls h ih =>
    by_cases kept : isRecordLine line = true
    · rw [first kept] at accepted
      rw [first kept, first kept, List.filter_cons_of_pos (accepted _ List.mem_cons_self)]
      exact List.cons_prefix_cons.mpr
        ⟨rfl, ih fun record hr => accepted record (List.mem_cons_of_mem _ hr)⟩
    · rw [skip kept] at accepted
      rw [skip kept, skip kept]
      exact ih accepted

/-- **An output that ends too early makes nothing up.** No beginning of a trimmed record that
is accepted is accepted as well; and if all records of an output are accepted, then wherever
it is cut, the records that are accepted of what is left are the first of the whole output,
and so are the diagnostics. -/
theorem truncated_output :
    (∀ (record cut : List Char) (m : Message), trim record = record →
      Message.read? record = some m → cut <+: record → cut ≠ record →
      Message.read? cut = none) ∧
    ∀ output : List Char, (∀ record ∈ records output, isAccepted record = true) → ∀ k : Nat,
      (records (output.take k)).filter isAccepted <+: records output ∧
        ∀ root, parse root (records (output.take k)) <+: parse root (records output) := by
  refine ⟨fun record cut m => read?_eq_none_of_prefix, ?_⟩
  intro output accepted k
  have complete : (records (output.take k)).filter isAccepted <+: records output :=
    accepted_prefix_of_cutLines (Text.cutLines_of_prefix (List.take_prefix k output)) accepted
  refine ⟨complete, fun root => ?_⟩
  obtain ⟨rest, split⟩ := complete
  rw [← parse_filter_isAccepted root (records (output.take k)), ← split, parse_append]
  exact List.prefix_append _ _

/-- Two records, each on a line of its own. -/
def twoRecords : List Char := rawRecord 'é' ++ '\n' :: rawRecord 'e'

/-- Two records of which the second one is cut within a key: the diagnostics of the first are left. -/
theorem truncated_output_key :
    (∀ record ∈ records twoRecords, isAccepted record = true) ∧
      (records (twoRecords.take 200)).length = 2 ∧
      Message.read? ((rawRecord 'é').take 100) = none ∧
      (records (twoRecords.take 200)).filter isAccepted <+: records twoRecords ∧
      parse (.ofText "/ws") (records (twoRecords.take 200)) <+:
        parse (.ofText "/ws") (records twoRecords) := by
  have facts : (records twoRecords).all isAccepted = true ∧
      (records (twoRecords.take 200)).length = 2 ∧ trim (rawRecord 'é') = rawRecord 'é' ∧
      (Message.read? (rawRecord 'é')).isSome = true ∧
      (rawRecord 'é').take 100 ≠ rawRecord 'é' := by decide +kernel
  obtain ⟨accepted, two, trimmed, read, shorter⟩ := facts
  replace accepted := List.all_eq_true.mp accepted
  obtain ⟨m, read⟩ := Option.isSome_iff_exists.mp read
  obtain ⟨left, told⟩ := truncated_output.2 twoRecords accepted 200
  exact ⟨accepted, two, truncated_output.1 _ _ m trimmed read (List.take_prefix 100 _) shorter,
    left, told _⟩

end Format

end OwnerBuild
