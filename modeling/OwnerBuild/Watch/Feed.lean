/-
# OwnerBuild.Watch.Feed -- changes as lines of text

A stream of changes that another program tells: a line for each change, with the
kind of change and the path, and an empty line behind each batch. A line that
tells no change is passed over. The stream stops with the text.
-/

import OwnerBuild.Watch.Watcher

namespace OwnerBuild.Watch

/-- The words for the kinds of changes. -/
def changeWords : List (String × ChangeKind) :=
  [("added", .added), ("modified", .modified), ("deleted", .deleted)]

/-- The change that a line tells. -/
def Change.ofLine? (line : List Char) : Option Change :=
  let word := line.takeWhile (· != ' ')
  match line.dropWhile (· != ' ') with
  | [] => none
  | _ :: path =>
    (changeWords.lookup (String.ofList word)).map fun kind => ⟨kind, String.ofList path⟩

/-- The batches that some lines tell. -/
def batchesOf : List (List Char) → List Batch
  | [] => [[]]
  | line :: rest =>
    if line.isEmpty then [] :: batchesOf rest
    else match Change.ofLine? line, batchesOf rest with
      | some change, batch :: others => (change :: batch) :: others
      | _, batches => batches

/-- The stream that a text tells. -/
def Stream.ofText (text : String) : Stream := ⟨batchesOf (Text.lines text.toList), .stop⟩

end OwnerBuild.Watch
