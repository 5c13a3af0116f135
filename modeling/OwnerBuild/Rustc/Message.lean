/-
# OwnerBuild.Rustc.Message -- the compiler's message trees

A message of the compiler has a text and a level, the spans it is about, of which
the primary ones give its location, and child messages with notes and help. An
error code may come with an explanation, and the compiler adds the message as it
would print it.
-/

namespace OwnerBuild.Rustc

/-- A stretch of source text. -/
structure Span where
  fileName : String
  lineStart : Int
  lineEnd : Int
  columnStart : Int
  columnEnd : Int
  isPrimary : Bool
  label : Option String := none
  deriving DecidableEq, Repr

/-- An error code. -/
structure Code where
  code : String
  explanation : Option String := none
  deriving DecidableEq, Repr

/-- A message with its children. -/
structure Message where
  message : String
  level : String
  code : Option Code := none
  spans : List Span := []
  children : List Message := []
  rendered : Option String := none
  deriving Repr

/-- The span that locates a message: its first primary one. -/
def primarySpan? (spans : List Span) : Option Span := spans.find? (·.isPrimary)

/-- How the messages that only sum up begin. -/
def summaryOpenings : List String := ["aborting due to", "For more information about"]

/-- Whether a message only sums up what others said. -/
def Message.isSummary (m : Message) : Bool :=
  summaryOpenings.any fun opening => opening.toList.isPrefixOf m.message.toList

end OwnerBuild.Rustc
