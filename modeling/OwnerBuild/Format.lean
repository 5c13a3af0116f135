/-
# OwnerBuild.Format -- diagnostic formats

A format is chosen by name. It says which flag makes a build print diagnostics
in it and which files it is for. The records of an output are the lines that
begin, after blanks, with a brace; a record that is no message is passed over.

A located message becomes one diagnostic, and each of its located children
another one with the message's code. Children without a location are told in the
text of the message's own diagnostic. Messages without a location and messages
that only sum up are dropped.

The messages of the Rust compiler are the only ones that can be asked for, so
`records`, `parse` and `unreadable` are those of that format whatever the format's
flag and files are. A format that is read in another way is not meant here.
-/

import OwnerBuild.Diagnostic
import OwnerBuild.Rustc.Record

namespace OwnerBuild

open Rustc (Span Message primarySpan?)

/-- A diagnostic format. -/
structure Format where
  name : String
  buildFlag : String
  extensions : List String
  deriving DecidableEq, Repr

namespace Format

/-! ## The known formats -/

/-- The JSON messages of the Rust compiler. -/
def rustcJson : Format :=
  { name := "rustc-json", buildFlag := "--@rules_rust//:error_format=json", extensions := [".rs"] }

/-- The formats that can be asked for. -/
def known : List Format := [rustcJson]

/-- The format that is used when none is asked for. -/
def standard : Format := rustcJson

/-- A name that no format has. -/
structure Unsupported where
  name : String
  deriving DecidableEq, Repr

/-- The wording of a request for an unknown format. -/
def Unsupported.message (e : Unsupported) : String :=
  "Unsupported diagnostic format '" ++ e.name ++ "'. Supported: " ++
    Text.quoteList (known.map (·.name))

/-- The format of a name. -/
def ofName (name : String) : Except Unsupported Format :=
  match known.find? (·.name = name) with
  | some f => .ok f
  | none => .error ⟨name⟩

/-! ## Records -/

/-- Whether a line is a record: its first character that is not blank is a brace. -/
def isRecordLine (line : List Char) : Bool := (Text.trimStart line).head? == some '\x7b'

/-- The records in an output. -/
def records (output : List Char) : List (List Char) :=
  ((Text.lines output).filter isRecordLine).map Text.trim

/-! ## Diagnostics -/

/-- What the levels of messages mean; any other level is an error. -/
def levels : List (String × Severity) :=
  [("error", .error), ("error: internal compiler error", .error), ("warning", .warning),
    ("failure-note", .info), ("note", .info), ("help", .info)]

/-- The severity of a level. -/
def severityOf (level : String) : Severity := (levels.lookup level).getD .error

/-- The diagnostic at a span. -/
def diagnosticAt (root : Path) (span : Span) (level text : String) (code : Option String) :
    Diagnostic :=
  { file := root.join (.ofText span.fileName)
    line := span.lineStart
    column := span.columnStart
    severity := severityOf level
    message := text
    code := code
    endLine := some span.lineEnd
    endColumn := some span.columnEnd }

/-- The text of a message's own diagnostic: its label and the children that have
no location are added to it. -/
def fullText (m : Message) (span : Span) : String :=
  let labelled := match span.label with
    | none | some "" => m.message
    | some label => m.message ++ ": " ++ label
  (m.children.filter fun child => (primarySpan? child.spans).isNone).foldl
    (fun text child => text ++ "\n" ++ child.level ++ ": " ++ child.message) labelled

/-- The diagnostics of a message. -/
def diagnosticsOf (root : Path) (m : Message) : List Diagnostic :=
  match primarySpan? m.spans with
  | none => []
  | some span =>
    let code := m.code.map (·.code)
    diagnosticAt root span m.level (fullText m span) code ::
      m.children.filterMap fun child =>
        (primarySpan? child.spans).map fun s => diagnosticAt root s child.level child.message code

/-- The diagnostics of a record; one that is no message has none. -/
def diagnosticsIn (root : Path) (record : List Char) : List Diagnostic :=
  match Message.read? record with
  | none => []
  | some m => if m.isSummary then [] else diagnosticsOf root m

/-- The diagnostics of some records. -/
def parse (root : Path) (records : List (List Char)) : List Diagnostic :=
  records.flatMap (diagnosticsIn root)

/-- The records that are no messages. -/
def unreadable (records : List (List Char)) : List (List Char) :=
  records.filter fun r => (Message.read? r).isNone

end Format

end OwnerBuild
