/-
# OwnerBuild.Proofs.Format.RawLines -- records that are cut where they should not be

A compiler ends its records with line feeds, and what reads them breaks lines at eleven
kinds of break. For a record without a line feed or a carriage return the difference is
three characters: the other breaks are control characters, which no text that can be
read holds (`isSpace_of_read?`), but U+0085, U+2028 and U+2029 may stand unescaped in any
string. `trim_mem_records_iff` says that these three are the whole difference: a record is
found as it is exactly when it holds none of them. With one of them it is cut in two, in
the middle of a string, and what it said is lost (`records_raw_separator`).
-/

import OwnerBuild.Proofs.Format.Records

namespace OwnerBuild.Format

open Rustc (Message)
open Text (isLineBreak trim joinWith)

/-- The breaks that may stand unescaped in a string. -/
def rawBreaks : List Char := ['\u0085', '\u2028', '\u2029']

theorem isLineBreak_of_mem_rawBreaks {c : Char} (h : c ∈ rawBreaks) : isLineBreak c = true := by
  have all : rawBreaks.all isLineBreak = true := by decide
  exact List.all_eq_true.mp all c h

theorem not_isSpace_of_mem_rawBreaks {c : Char} (h : c ∈ rawBreaks) :
    Json.State.isSpace c = false := by
  have all : rawBreaks.all (fun c => !Json.State.isSpace c) = true := by decide
  simpa using List.all_eq_true.mp all c h

/-- A break is a control character or one of the three. -/
theorem control_of_isLineBreak {c : Char} (h : isLineBreak c = true) (raw : c ∉ rawBreaks) :
    c.toNat < 0x20 := by
  have ne {d : Char} (hd : d ∈ rawBreaks) : c.toNat ≠ d.toNat := by
    intro same
    exact raw (Char.toNat_inj.mp same ▸ hd)
  have nextLine : c.toNat ≠ 0x85 := ne (d := '\u0085') (by decide)
  have lineSeparator : c.toNat ≠ 0x2028 := ne (d := '\u2028') (by decide)
  have paragraphSeparator : c.toNat ≠ 0x2029 := ne (d := '\u2029') (by decide)
  simp only [isLineBreak, Bool.or_eq_true, Bool.and_eq_true, decide_eq_true_eq,
    beq_iff_eq] at h
  omega

variable {ls : List (List Char)} {line : List Char} {m : Message}

/-- A record without line feeds, carriage returns and the three breaks is unbroken. -/
theorem unbroken_of_read? (feed : '\n' ∉ line) (ret : '\r' ∉ line)
    (raw : ∀ c ∈ line, c ∉ rawBreaks) (accepted : Message.read? line = some m) :
    ∀ c ∈ line, isLineBreak c = false := by
  obtain ⟨members, read⟩ := exists_members_of_read? accepted
  intro c hc
  refine Bool.eq_false_iff.mpr fun isBreak => ?_
  have control := control_of_isLineBreak isBreak (raw c hc)
  have space := Json.isSpace_of_read? read hc control
  simp only [Json.State.isSpace, Bool.or_eq_true, beq_iff_eq] at space
  rcases space with ((rfl | rfl) | rfl) | rfl
  · exact absurd isBreak (by decide)
  · exact absurd isBreak (by decide)
  · exact feed hc
  · exact ret hc

/-- Trimming takes none of the three breaks from a record. -/
theorem mem_trim_of_mem_rawBreaks (accepted : Message.read? line = some m) {c : Char}
    (hc : c ∈ line) (raw : c ∈ rawBreaks) : c ∈ trim line := by
  obtain ⟨members, read⟩ := exists_members_of_read? accepted
  exact (Json.read?_trim read).2 c hc (not_isSpace_of_mem_rawBreaks raw)

/-- **Which records are found as they are**: of the lines that are joined by line feeds,
one that is accepted as a message is among the records, trimmed, exactly if it holds none
of the three breaks; and if so, its diagnostics stand together among those that are
parsed. -/
theorem trim_mem_records_iff (root : Path) (mem : line ∈ ls) (feed : '\n' ∉ line)
    (ret : '\r' ∉ line) (accepted : Message.read? line = some m) :
    (trim line ∈ records (joinWith ['\n'] ls) ↔ ∀ c ∈ line, c ∉ rawBreaks) ∧
      ((∀ c ∈ line, c ∉ rawBreaks) →
        diagnosticsIn root line <:+: parse root (records (joinWith ['\n'] ls))) := by
  have found (raw : ∀ c ∈ line, c ∉ rawBreaks) : records line = [trim line] :=
    records_of_read? (unbroken_of_read? feed ret raw accepted) accepted
  obtain ⟨before, after, rfl⟩ := List.append_of_mem mem
  refine ⟨⟨?_, ?_⟩, ?_⟩
  · -- records are parts of lines, so none of them holds a break
    intro kept c hc raw
    have inside := mem_trim_of_mem_rawBreaks accepted hc raw
    have unbroken := not_isLineBreak_of_mem_records kept inside
    rw [isLineBreak_of_mem_rawBreaks raw] at unbroken
    cases unbroken
  · intro raw
    rw [records_joinWith, List.mem_flatMap]
    exact ⟨line, mem, by rw [found raw]; exact List.mem_singleton_self _⟩
  · intro raw
    have same : diagnosticsIn root (trim line) = diagnosticsIn root line := by
      rw [diagnosticsIn, diagnosticsIn, accepted, read?_trim accepted]
    refine ⟨parse root (before.flatMap records), parse root (after.flatMap records), ?_⟩
    rw [records_joinWith, List.flatMap_append, List.flatMap_cons, parse_append, parse_append,
      found raw, parse_singleton, same, List.append_assoc]

/-- An error whose text ends with a character as it is. -/
def rawRecord (c : Char) : List Char :=
  [ "\x7b\"message\":\"no ".toList, [c], "\",\"level\":\"error\",".toList, "\"spans\":[\x7b".toList,
    "\"file_name\":\"a.rs\",".toList, "\"line_start\":3,".toList, "\"line_end\":3,".toList,
    "\"column_start\":5,".toList, "\"column_end\":8,".toList, "\"is_primary\":true".toList,
    "\x7d]\x7d".toList ].flatten

theorem trim_mem_records_iff_letter :
    rawRecord 'é' ∈ records (joinWith ['\n'] ["INFO: building".toList, rawRecord 'é']) ∧
      diagnosticsIn (.ofText "/ws") (rawRecord 'é') <:+:
        parse (.ofText "/ws") (records (joinWith ['\n'] ["INFO: building".toList, rawRecord 'é'])) := by
  have facts : (Message.read? (rawRecord 'é')).isSome = true ∧ trim (rawRecord 'é') = rawRecord 'é' ∧
      '\n' ∉ rawRecord 'é' ∧ '\r' ∉ rawRecord 'é' ∧
      (rawRecord 'é').all (fun c => !rawBreaks.contains c) = true := by
    decide +kernel
  obtain ⟨accepted, untouched, feed, ret, unbroken⟩ := facts
  have raw : ∀ c ∈ rawRecord 'é', c ∉ rawBreaks := by
    intro c hc
    simpa using List.all_eq_true.mp unbroken c hc
  obtain ⟨m, accepted⟩ := Option.isSome_iff_exists.mp accepted
  have mem : rawRecord 'é' ∈ ["INFO: building".toList, rawRecord 'é'] := by simp
  have kept := trim_mem_records_iff (.ofText "/ws") mem feed ret accepted
  have found := kept.1.mpr raw
  rw [untouched] at found
  exact ⟨found, kept.2 raw⟩

/-- **A record with one of the three breaks is lost**: it is accepted and locates an error,
and nothing is left of it when it is a line of an output. -/
theorem records_raw_separator :
    (Message.read? (rawRecord '\u2028')).isSome = true ∧
      diagnosticsIn (.ofText "/ws") (rawRecord '\u2028') ≠ [] ∧
      parse (.ofText "/ws") (records (joinWith ['\n'] [rawRecord '\u2028'])) = [] := by
  decide +kernel

end OwnerBuild.Format
