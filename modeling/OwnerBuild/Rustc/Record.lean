/-
# OwnerBuild.Rustc.Record -- messages as JSON records

The compiler writes each message as one JSON object. `Message.ofValue?` takes a
message from such an object: members with other keys are ignored, members with
these keys must be acceptable at every depth, and one bad value anywhere rejects
the whole record. `Message.toValue` is the object of a message.
-/

import OwnerBuild.Json.Fields
import OwnerBuild.Json.Reader
import OwnerBuild.Rustc.Message

namespace OwnerBuild.Rustc

open Json (Value required? optional? defaulted?)

/-! ## From values -/

/-- The span of an object. -/
def Span.ofValue? : Value → Option Span
  | .object members => do
    let fileName ← required? Value.text? "file_name" members
    let lineStart ← required? Value.whole? "line_start" members
    let lineEnd ← required? Value.whole? "line_end" members
    let columnStart ← required? Value.whole? "column_start" members
    let columnEnd ← required? Value.whole? "column_end" members
    let isPrimary ← required? Value.truth? "is_primary" members
    let label ← optional? Value.text? "label" members
    return { fileName, lineStart, lineEnd, columnStart, columnEnd, isPrimary, label }
  | _ => none

/-- The error code of an object. -/
def Code.ofValue? : Value → Option Code
  | .object members => do
    let code ← required? Value.text? "code" members
    let explanation ← optional? Value.text? "explanation" members
    return { code, explanation }
  | _ => none

/-- The spans of an array. -/
def spansOfValue? (v : Value) : Option (List Span) := v.items?.bind (·.mapM Span.ofValue?)

/-- The message of an object whose children have been read. -/
def Message.ofMembers? (members : List (String × Value)) (children : List Message) :
    Option Message := do
  let message ← required? Value.text? "message" members
  let level ← required? Value.text? "level" members
  let code ← optional? Code.ofValue? "code" members
  let spans ← defaulted? spansOfValue? [] "spans" members
  let rendered ← optional? Value.text? "rendered" members
  return { message, level, code, spans, children, rendered }

mutual
/-- The message of a value. -/
def Message.ofValue? : Value → Option Message
  | .object members =>
    (childrenOfMembers? members).bind fun children => Message.ofMembers? members (children.getD [])
  | _ => none

/-- The children among the members of an object: `some none` if no member has
them, `none` if the last one that has them is not acceptable. -/
def childrenOfMembers? : List (String × Value) → Option (Option (List Message))
  | [] => some none
  | (key, v) :: rest =>
    match childrenOfMembers? rest with
    | none => none
    | some (some children) => some (some children)
    | some none => if key = "children" then (messagesOfValue? v).map some else some none

/-- The messages of an array. -/
def messagesOfValue? : Value → Option (List Message)
  | .array items => messagesOfItems? items
  | _ => none

/-- The messages of the items of an array. -/
def messagesOfItems? : List Value → Option (List Message)
  | [] => some []
  | v :: rest =>
    match Message.ofValue? v with
    | none => none
    | some m => (messagesOfItems? rest).map (m :: ·)
end

/-- The message of a record. -/
def Message.read? (record : List Char) : Option Message :=
  (Json.read? record).bind Message.ofValue?

/-! ## To values -/

/-- A text or null. -/
def textOrNull : Option String → Value
  | none => .null
  | some s => .string s

/-- The object of a span. -/
def Span.toValue (s : Span) : Value :=
  .object [("file_name", .string s.fileName), ("line_start", .number (.integer s.lineStart)),
    ("line_end", .number (.integer s.lineEnd)), ("column_start", .number (.integer s.columnStart)),
    ("column_end", .number (.integer s.columnEnd)), ("is_primary", .bool s.isPrimary),
    ("label", textOrNull s.label)]

/-- The object of an error code. -/
def Code.toValue (c : Code) : Value :=
  .object [("code", .string c.code), ("explanation", textOrNull c.explanation)]

mutual
/-- The object of a message. -/
def Message.toValue : Message → Value
  | ⟨message, level, code, spans, children, rendered⟩ =>
    .object [("message", .string message), ("level", .string level),
      ("code", (code.map Code.toValue).getD .null), ("spans", .array (spans.map Span.toValue)),
      ("children", .array (messagesToValues children)), ("rendered", textOrNull rendered)]

/-- The objects of messages. -/
def messagesToValues : List Message → List Value
  | [] => []
  | m :: rest => m.toValue :: messagesToValues rest
end

end OwnerBuild.Rustc
