/-
# OwnerBuild.Markup.Names -- some emoji and their names

A table to run the program with where the whole one is not at hand: a few names that are
easily met in the lines that the program prints. Whatever is proved of printing is proved of
any table; this one is what samples are computed with.
-/

import OwnerBuild.Markup.Emoji

namespace OwnerBuild.Markup

/-- Some names, each with its emoji. -/
def someEmoji : List (List Char × List Char) :=
  [("100".toList, ['💯']), ("1234".toList, ['🔢']), ("b".toList, ['🅱']), ("bug".toList, ['🐛']),
    ("warning".toList, ['⚠']), ("x".toList, ['❌'])]

theorem noColon_someEmoji {name emoji : List Char} (known : someEmoji.lookup name = some emoji) :
    ':' ∉ emoji := by
  have each : ∀ e ∈ someEmoji, ':' ∉ e.2 := by decide
  obtain ⟨before, after, split, _⟩ := List.lookup_eq_some_iff.mp known
  exact each (name, emoji) (split ▸ List.mem_append_right _ List.mem_cons_self)

instance : EmojiTable := ⟨fun name => someEmoji.lookup name, noColon_someEmoji⟩

example : replaceEmoji "lib.rs:100:5: error".toList = "lib.rs💯5: error".toList := by decide +kernel
example : replaceEmoji ":a:bug: :bug-text:".toList = ":a:bug: 🐛\uFE0E".toList := by decide +kernel

end OwnerBuild.Markup
