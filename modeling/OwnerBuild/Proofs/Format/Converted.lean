/-
# OwnerBuild.Proofs.Format.Converted -- the diagnostics of one message

A message with a location becomes one diagnostic and each of its children with a location
another one; the children without a location are told in the text of the first. `Converted`
says that nothing is lost or told twice on the way: the diagnostics behind the first are those
of the located children, one for each and in order, and the text of the first ends in what the
others say, each once and in order (`toList_fullText`). A child is located or not, so the two
lists of children are a partition.

What the diagnostics depend on is stated beside it. `SameReport` relates messages that agree
in what is told of them, whatever else they hold: other spans, the labels and codes of
children, children of children, explanations, and how the compiler would print them. Such
messages have the same diagnostics.
-/

import Mathlib.Data.List.Forall2
import OwnerBuild.Format

namespace OwnerBuild.Format

open Rustc (Message Span primarySpan?)

/-! ## What is told of a message -/

/-- Whether a message has a location: one of its spans is primary. -/
def isLocated (m : Message) : Bool := (primarySpan? m.spans).isSome

/-- What is told of the label of a span behind a text: nothing of one that is empty. -/
def labelText (span : Span) : List Char :=
  match span.label with
  | none => []
  | some label => if label = "" then [] else ": ".toList ++ label.toList

/-- What is told of a child without a location: a line of its own. -/
def childText (child : Message) : List Char :=
  '\n' :: child.level.toList ++ ": ".toList ++ child.message.toList

/-- The children's lines are added one behind the other. -/
theorem toList_foldl_children (children : List Message) (text : String) :
    (children.foldl (fun text child => text ++ "\n" ++ child.level ++ ": " ++ child.message)
      text).toList = text.toList ++ children.flatMap childText := by
  induction children generalizing text with
  | nil => simp
  | cons child rest ih =>
    rw [List.foldl_cons, ih, List.flatMap_cons]
    simp [childText, String.toList_append]

/-- **The text of a message's own diagnostic** is what it says, its label, and what those of
its children say that have no location. -/
theorem toList_fullText (m : Message) (span : Span) : (fullText m span).toList =
    m.message.toList ++ labelText span ++
      (m.children.filter (!isLocated ·)).flatMap childText := by
  have unlocated : (fun child : Message => (primarySpan? child.spans).isNone) = (!isLocated ·) := by
    funext child
    rw [isLocated, Option.not_isSome]
  rw [fullText, toList_foldl_children, unlocated]
  congr 1
  rw [labelText]
  cases span.label with
  | none => simp
  | some label =>
    by_cases empty : label = ""
    · simp [empty]
    · simp [empty, String.toList_append]

/-- Whether a diagnostic tells a text and a code, with the severity of a level, where a span
is. -/
structure TellsAt (root : Path) (span : Span) (level : String) (text : List Char)
    (code : Option String) (d : Diagnostic) : Prop where
  file : d.file = root.join (.ofText span.fileName)
  line : d.line = span.lineStart
  column : d.column = span.columnStart
  endLine : d.endLine = some span.lineEnd
  endColumn : d.endColumn = some span.columnEnd
  severity : d.severity = severityOf level
  message : d.message.toList = text
  code : d.code = code

theorem tellsAt_diagnosticAt (root : Path) (span : Span) (level text : String)
    (code : Option String) :
    TellsAt root span level text.toList code (diagnosticAt root span level text code) :=
  ⟨rfl, rfl, rfl, rfl, rfl, rfl, rfl, rfl⟩

/-- That diagnostics tell a message at a span and its children: `own` is the message's own
diagnostic, `others` are those of its located children. -/
structure Converted (root : Path) (m : Message) (span : Span) (own : Diagnostic)
    (others : List Diagnostic) : Prop where
  /-- The message is told at its span, with its label and its children without a location. -/
  own : TellsAt root span m.level
    (m.message.toList ++ labelText span ++ (m.children.filter (!isLocated ·)).flatMap childText)
    (m.code.map (·.code)) own
  /-- Each located child is told at its own span, with its own text and level and the
  message's code, in order. -/
  others : List.Forall₂ (fun child d => ∃ s, primarySpan? child.spans = some s ∧
    TellsAt root s child.level child.message.toList (m.code.map (·.code)) d)
    (m.children.filter isLocated) others

/-- One diagnostic for each child that has a location. -/
theorem forall₂_located (root : Path) (code : Option String) (children : List Message) :
    List.Forall₂ (fun child d => ∃ s, primarySpan? child.spans = some s ∧
      TellsAt root s child.level child.message.toList code d) (children.filter isLocated)
      (children.filterMap fun child => (primarySpan? child.spans).map fun s =>
        diagnosticAt root s child.level child.message code) := by
  induction children with
  | nil => exact .nil
  | cons child rest ih =>
    cases located : primarySpan? child.spans with
    | none =>
      rw [List.filter_cons_of_neg (by simp [isLocated, located]),
        List.filterMap_cons_none (by rw [located]; rfl)]
      exact ih
    | some s =>
      rw [List.filter_cons_of_pos (by simp [isLocated, located]),
        List.filterMap_cons_some (by rw [located]; rfl)]
      exact .cons ⟨s, located, tellsAt_diagnosticAt root s _ _ code⟩ ih

/-! ## What is not told -/

/-- A span without what is written beside it. -/
def unlabelled (span : Span) : Span := { span with label := none }

/-- Whether two children agree in what is told of them: their text and level, and where the
first of their primary spans is, if they have one. -/
structure SameChild (a b : Message) : Prop where
  message : a.message = b.message
  level : a.level = b.level
  place : (primarySpan? a.spans).map unlabelled = (primarySpan? b.spans).map unlabelled

/-- Whether two messages agree in what is told of them: their text, level and error code, the
first of their primary spans, and what is told of their children. -/
structure SameReport (m n : Message) : Prop where
  message : m.message = n.message
  level : m.level = n.level
  code : m.code.map (·.code) = n.code.map (·.code)
  span : primarySpan? m.spans = primarySpan? n.spans
  children : List.Forall₂ SameChild m.children n.children

variable {a b m n : Message}

theorem SameChild.isLocated_eq (h : SameChild a b) : isLocated a = isLocated b := by
  have both := congrArg Option.isSome h.place
  rwa [Option.isSome_map, Option.isSome_map] at both

theorem SameChild.childText_eq (h : SameChild a b) : childText a = childText b := by
  rw [childText, childText, h.message, h.level]

/-- The diagnostic of a child does not tell its label. -/
theorem SameChild.diagnostic_eq (h : SameChild a b) (root : Path) (code : Option String) :
    (primarySpan? a.spans).map (fun s => diagnosticAt root s a.level a.message code) =
      (primarySpan? b.spans).map fun s => diagnosticAt root s b.level b.message code := by
  have bare (c : Message) : (primarySpan? c.spans).map
        (fun s => diagnosticAt root s c.level c.message code) =
      ((primarySpan? c.spans).map unlabelled).map
        fun s => diagnosticAt root s c.level c.message code := by
    rw [Option.map_map]
    rfl
  rw [bare a, bare b, h.place, h.level, h.message]

/-- Lists of children that agree one by one give the same, whatever is read of each of them in
order that does not tell those apart that agree. -/
theorem flatMap_eq_of_forall₂ {β : Type} {f : Message → List β} {as bs : List Message}
    (h : List.Forall₂ SameChild as bs) (same : ∀ a b, SameChild a b → f a = f b) :
    as.flatMap f = bs.flatMap f := by
  induction h with
  | nil => rfl
  | cons first _ ih => rw [List.flatMap_cons, List.flatMap_cons, same _ _ first, ih]

theorem SameReport.fullText_eq (h : SameReport m n) (span : Span) :
    fullText m span = fullText n span := by
  have lines (children : List Message) : (children.filter (!isLocated ·)).flatMap childText =
      children.flatMap fun child => if isLocated child then [] else childText child := by
    induction children with
    | nil => rfl
    | cons child rest ih => cases located : isLocated child <;> simp [located, ih]
  refine String.toList_injective ?_
  rw [toList_fullText, toList_fullText, h.message, lines, lines]
  congr 1
  refine flatMap_eq_of_forall₂ h.children fun a b same => ?_
  rw [same.isLocated_eq, same.childText_eq]

/-- **Messages that agree in what is told of them have the same diagnostics.** -/
theorem SameReport.diagnosticsOf_eq (h : SameReport m n) (root : Path) :
    diagnosticsOf root m = diagnosticsOf root n := by
  unfold diagnosticsOf
  rw [h.span]
  split
  · rfl
  · next span _ =>
    have others : m.children.filterMap (fun child => (primarySpan? child.spans).map fun s =>
          diagnosticAt root s child.level child.message (n.code.map (·.code))) =
        n.children.filterMap fun child => (primarySpan? child.spans).map fun s =>
          diagnosticAt root s child.level child.message (n.code.map (·.code)) := by
      rw [List.filterMap_eq_flatMap_toList, List.filterMap_eq_flatMap_toList]
      exact flatMap_eq_of_forall₂ h.children fun a b same => by rw [same.diagnostic_eq]
    simp only [h.level, h.code, h.fullText_eq, others]

/-- **Conversion neither loses nor repeats a child.** A message with a location has one
diagnostic, and one more for each of its children that has a location, as `Converted` says;
and messages that agree in what is told of them have the same diagnostics. -/
theorem conversion :
    (∀ (root : Path) (m : Message) (span : Span), primarySpan? m.spans = some span →
      (diagnosticsOf root m).length = 1 + m.children.countP isLocated ∧
        ∃ own others, diagnosticsOf root m = own :: others ∧ Converted root m span own others) ∧
    ∀ (root : Path) (m n : Message), SameReport m n →
      diagnosticsOf root m = diagnosticsOf root n := by
  refine ⟨?_, fun root m n same => same.diagnosticsOf_eq root⟩
  intro root m span located
  have told := forall₂_located root (m.code.map (·.code)) m.children
  have own := tellsAt_diagnosticAt root span m.level (fullText m span) (m.code.map (·.code))
  rw [toList_fullText] at own
  simp only [diagnosticsOf, located]
  refine ⟨?_, _, _, rfl, own, told⟩
  rw [List.length_cons, ← told.length_eq, List.countP_eq_length_filter, Nat.add_comm]

/-- A place in a line of a file, with something written beside it. -/
def spanIn (line : Int) (primary : Bool) (label : Option String) : Span :=
  { fileName := "a.rs", lineStart := line, lineEnd := line, columnStart := 1, columnEnd := 2
    isPrimary := primary, label }

/-- An error with children of both kinds in turn, whose spans have the given labels. -/
def mixedError (others : List Span) (label : Option String) (rendered : Option String) : Message :=
  { message := "moved", level := "error", code := some { code := "E0382" }
    spans := spanIn 1 false none :: spanIn 3 true (some "here") :: others
    children :=
      [{ message := "consider", level := "help", spans := [spanIn 4 true label] },
        { message := "why", level := "note", spans := [spanIn 5 false label] },
        { message := "also", level := "note", spans := spanIn 6 false none :: [spanIn 7 true label] },
        { message := "see", level := "help" }]
    rendered }

theorem conversion_mixed :
    primarySpan? (mixedError [] none none).spans = some (spanIn 3 true (some "here")) ∧
      (diagnosticsOf (.ofText "/ws") (mixedError [] none none)).length = 3 ∧
      diagnosticsOf (.ofText "/ws") (mixedError [] none none) =
        diagnosticsOf (.ofText "/ws") (mixedError [spanIn 9 true none] (some "x") (some "error")) := by
  have located : primarySpan? (mixedError [] none none).spans = some (spanIn 3 true (some "here")) :=
    rfl
  have children : (mixedError [] none none).children.countP isLocated = 2 := by decide
  have counted := (conversion.1 (.ofText "/ws") _ _ located).1
  rw [children] at counted
  refine ⟨located, counted, conversion.2 _ _ _ ⟨rfl, rfl, rfl, rfl, ?_⟩⟩
  exact .cons ⟨rfl, rfl, rfl⟩ (.cons ⟨rfl, rfl, rfl⟩ (.cons ⟨rfl, rfl, rfl⟩
    (.cons ⟨rfl, rfl, rfl⟩ .nil)))

end OwnerBuild.Format
