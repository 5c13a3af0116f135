/-
# OwnerBuild.Proofs.Cli.StyledLines -- texts from outside in styled lines

Five lines put a text from outside into a style: the one why a program could not be run, the one
that no workspace encloses a file, and three lines of the watcher, above the diagnostics of a file,
for a file with nothing to check, and about the directory that is watched. They are meant to print
the text as it is, with the style from the first of their words to the last one before the closing
tag. Whether they do depends on the end of the text and on what stands behind it
(`styledLines`). In front of further words the text must not end in exactly one backslash, because
escaping has put a second one there. In front of the closing tag it must not end in two, because
the tag halves their number. In both places all characters have to be printed, and no backslash may
stand in front of a bracket that begins no tag.

So a missing workspace is told of another file than the one asked for if the name of the file ends
in a backslash, and if a reason ends in three the closing tag is told with it
(`backslashes_not_as_they_are`).
-/

import OwnerBuild.Proofs.Cli.SameLookup
import OwnerBuild.Proofs.Markup.StyledLine
import OwnerBuild.Proofs.Watch.Batches

namespace OwnerBuild

/-! ## Lines and their parts -/

namespace Console

open Markup (EmojiTable EndsIn KeepsBackslashes NoCodes Plain Printable StyleTag escapeString
  lineMarkup renderWith styledRuns)

/-- The markup of a line with a text from outside in a style. -/
def styledMarkup (style before text words after : String) : String :=
  inStyle style (before ++ escapeString text ++ words) ++ after

theorem toList_styledMarkup (style before text words after : String) :
    (styledMarkup style before text words after).toList =
      lineMarkup style.toList before.toList text.toList words.toList after.toList := by
  simp [styledMarkup, inStyle, escapeString, lineMarkup]

/-- That a line shows a text from outside among words in a style, with other words behind it. -/
structure LineOf [EmojiTable] (style before text words after : String) (line : Item) : Prop where
  /-- If no emoji codes are replaced, the line is its words and the text as it is, those up to the
  closing tag in the style and the others without one, exactly under three conditions. -/
  verbatim_iff : renderWith id (styledMarkup style before text words after).toList =
      styledRuns style (before ++ text ++ words).toList after.toList ↔
    Printable text.toList ∧ KeepsBackslashes text.toList ∧
      if words = "" then ¬ ['\\', '\\'] <:+ text.toList else ¬ EndsIn 1 text.toList
  /-- That is what is seen if there are no codes. -/
  noCodes : NoCodes (styledMarkup style before text words after).toList →
    line = .line (renderWith id (styledMarkup style before text words after).toList) .output

variable {style before words after : String}

/-- What a line is that is made of such markup. -/
theorem LineOf.of_markup [EmojiTable] {text : String} {line : Item} (isStyle : StyleTag style.toList style)
    (plainBefore : Plain before.toList) (plainWords : Plain words.toList)
    (unclosed : ']' ∉ words.toList) (plainAfter : Plain after.toList)
    (made : line = .markup (styledMarkup style before text words after)) :
    LineOf style before text words after line where
  verbatim_iff := by
    rw [toList_styledMarkup, String.toList_append, String.toList_append]
    split
    · next none =>
      subst none
      rw [String.toList_empty, List.append_nil]
      exact Markup.renderWith_lineMarkup_iff isStyle plainBefore plainAfter text.toList
    · next some =>
      have visible : words.toList ≠ [] := by simpa using some
      rw [List.append_assoc]
      exact Markup.renderWith_lineMarkup_words_iff isStyle plainBefore plainWords visible unclosed
        plainAfter text.toList
  noCodes := by
    intro none
    rw [made, Item.markup, Markup.render_eq_of_noCodes none]

end Console

/-! ## The five lines -/

/-- The styles of lines are opened and closed by their tags. -/
theorem Markup.styleTag {style : String} (h : style ∈ ["red", "bold", "yellow", "green"]) :
    StyleTag style.toList style := by
  simp only [List.mem_cons, List.not_mem_nil, or_false] at h
  rcases h with rfl | rfl | rfl | rfl
  all_goals
    refine ⟨⟨⟨_, _, rfl, ?_⟩, ?_, ?_⟩, ?_, ?_, ?_⟩ <;> decide +kernel

open Console (LineOf styledMarkup)
open Markup (EmojiTable escapeString styleTag)

namespace Cli

variable [EmojiTable]

theorem launchLine_eq (e : Failure) :
    launchLine e = .markup (styledMarkup "red" "" e.message "" "") := by
  simp [launchLine, styledMarkup]

theorem lineOf_launchLine (e : Failure) : LineOf "red" "" e.message "" "" (launchLine e) :=
  .of_markup (styleTag (by decide)) (by decide) (by decide) (by decide) (by decide)
    (launchLine_eq e)

theorem lineOf_noWorkspace (path : Path) :
    LineOf "red" "No Bazel workspace encloses " path.text "." "" (noWorkspace path) := by
  refine .of_markup (styleTag (by decide)) (by decide) (by decide) (by decide) (by decide) ?_
  simp [noWorkspace, styledMarkup]

end Cli

namespace Watch

/-- The words of a header behind its path. -/
def headerWords (count : Nat) : String := ": " ++ toString count ++ " diagnostic(s)"

theorem plain_headerWords (count : Nat) : Markup.Plain (headerWords count).toList := by
  have words : Markup.Plain ": ".toList ∧ Markup.Plain " diagnostic(s)".toList := by decide
  rw [headerWords, String.toList_append, String.toList_append]
  exact (words.1.append (Markup.plain_repr count)).append words.2

variable [EmojiTable]

theorem headerLine_eq (path : Path) (count : Nat) :
    headerLine path count = .markup (styledMarkup "bold" "" path.text "" (headerWords count)) := by
  simp [headerLine, headerWords, styledMarkup, String.append_assoc]

theorem lineOf_headerLine (path : Path) (count : Nat) :
    LineOf "bold" "" path.text "" (headerWords count) (headerLine path count) :=
  .of_markup (styleTag (by decide)) (by decide) (by decide) (by decide) (plain_headerWords count)
    (headerLine_eq path count)

theorem nothingLine_eq (path : Path) :
    nothingLine path = .markup (styledMarkup "yellow" "" path.text ": nothing to check" "") := by
  simp [nothingLine, styledMarkup]

theorem lineOf_nothingLine (path : Path) :
    LineOf "yellow" "" path.text ": nothing to check" "" (nothingLine path) :=
  .of_markup (styleTag (by decide)) (by decide) (by decide) (by decide) (by decide)
    (nothingLine_eq path)

theorem lineOf_watchingLine (directory : Path) :
    LineOf "green" "Watching " directory.text "" " (Ctrl+C to stop)" (watchingLine directory) := by
  refine .of_markup (styleTag (by decide)) (by decide) (by decide) (by decide) (by decide) ?_
  simp [watchingLine, styledMarkup]

/-- The first line of a watch. -/
theorem printed_watch (r : Registry) (directory : Path) (stream : Stream) (w : World) :
    ∃ later, ((Cli.watch r directory stream).run w).printed = watchingLine directory :: later := by
  rw [watch_eq]
  unfold Action.run
  rw [Action.bind_undisturbed (Action.print_run _)]
  exact ⟨_, rfl⟩

end Watch

namespace Cli

/-- What the lines with a text from outside in a style are: the line of a failure `e`, and those
that programs print for a path in a world. -/
structure StyledLines [EmojiTable] (r : Registry) (stream : Watch.Stream) (e : Failure) (path : Path)
    (count : Nat) (w : World) : Prop where
  /-- Why a program could not be run, told by every command and by the watcher. -/
  launch : LineOf "red" "" e.message "" "" (launchLine e)
  /-- That no workspace encloses the path. -/
  root : w.view.workspace? path = .ok none → ∃ line, ((root path).run w).printed = [line] ∧
    LineOf "red" "No Bazel workspace encloses " path.text "." "" line
  /-- The line above the diagnostics of the path. -/
  header : LineOf "bold" "" path.text "" (": " ++ toString count ++ " diagnostic(s)")
    (Watch.headerLine path count)
  /-- The line that there is nothing to check. -/
  nothing : LineOf "yellow" "" path.text ": nothing to check" "" (Watch.nothingLine path)
  /-- The first line of a watch of the directory that the path is. -/
  watching : ∃ line later, ((watch r path stream).run w).printed = line :: later ∧
    LineOf "green" "Watching " path.text "" " (Ctrl+C to stop)" line

/-- **When the styled lines show a text as it is**, and that all else of them is as it is meant to
be, for every text that is put into them. -/
theorem styledLines [EmojiTable] (r : Registry) (stream : Watch.Stream) (e : Failure) (path : Path)
    (count : Nat) (w : World) : StyledLines r stream e path count w where
  launch := lineOf_launchLine e
  root := by
    intro located
    refine ⟨noWorkspace path, ?_, lineOf_noWorkspace path⟩
    show (Cli.root path w).printed = _
    rw [root_missing located]
    rfl
  header := Watch.lineOf_headerLine path count
  nothing := Watch.lineOf_nothingLine path
  watching := by
    obtain ⟨later, printed⟩ := Watch.printed_watch r path stream w
    exact ⟨_, later, printed, Watch.lineOf_watchingLine path⟩

/-- A file system without a file. -/
def bareView : View := { files := ⟨[]⟩, directory := [] }

/-- A file whose name ends in a backslash is told with two, and a reason that ends in three is told
with one and with the closing tag. -/
theorem backslashes_not_as_they_are :
    ((root (.ofText "a\\")).run (.answering bareView Checker.sampleAnswer)).printed =
        [.line [⟨"No Bazel workspace encloses a\\\\.".toList, some "red"⟩] .output] ∧
      "No Bazel workspace encloses a\\\\." ≠ "No Bazel workspace encloses " ++ "a\\" ++ "." ∧
      launchLine (.launch "bazel" "\\\\\\") =
        .line [⟨"Could not run 'bazel': \\[/red]".toList, some "red"⟩] .output := by
  decide +kernel

end Cli

end OwnerBuild
