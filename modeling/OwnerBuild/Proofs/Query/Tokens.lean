/-
# OwnerBuild.Proofs.Query.Tokens -- a path stays in its quotation marks

A query is read in tokens. A quotation mark begins a word that goes on to the next mark of the same
kind, whatever else is in it, since there are no escapes. How the text outside of quotation marks is
cut into tokens is up to the program that reads the query, and nothing here depends on it: it is a
parameter (`cut`), a function of each stretch between two quoted words.

The query for the owners of a path has two quoted words, and the path is the second of them,
character for character; whatever the path is, the other tokens are the same (`tokens_owners`).
A path that would end its word early, because it holds both kinds of marks, is refused, and then no
query is started and no failure comes of it (`path_confined`).
-/

import OwnerBuild.Proofs.Checker.Runs

namespace OwnerBuild

namespace Query

/-! ## Tokens -/

/-- A token of a query: one of the tokens outside of quotation marks, or a quoted word. -/
inductive Token (α : Type) where
  | bare (t : α)
  | quoted (word : List Char)
  deriving DecidableEq, Repr

/-- Where in a query the reader is, with what it has read there, the last character first. -/
inductive TokenMode where
  | outside (read : List Char)
  | inside (mark : Char) (read : List Char)

/-- The quotation marks. -/
def isMark (c : Char) : Bool := c == '"' || c == '\''

variable {α : Type} (cut : List Char → List α)

/-- The tokens of a stretch outside of quotation marks. -/
def bareTokens (s : List Char) : List (Token α) := (cut s).map .bare

/-- The tokens of the rest of a query, if every quoted word in it ends. -/
def tokensFrom : TokenMode → List Char → Option (List (Token α))
  | .outside read, [] => some (bareTokens cut read.reverse)
  | .inside _ _, [] => none
  | .outside read, c :: rest =>
    if isMark c then (tokensFrom (.inside c []) rest).map (bareTokens cut read.reverse ++ ·)
    else tokensFrom (.outside (c :: read)) rest
  | .inside mark read, c :: rest =>
    if c == mark then (tokensFrom (.outside []) rest).map (.quoted read.reverse :: ·)
    else tokensFrom (.inside mark (c :: read)) rest

/-- The tokens of a query. -/
def tokens (query : List Char) : Option (List (Token α)) := tokensFrom cut (.outside []) query

variable {cut}

theorem tokensFrom_outside {text : List Char} (unmarked : ∀ c ∈ text, isMark c = false)
    (read rest : List Char) : tokensFrom cut (.outside read) (text ++ rest) =
      tokensFrom cut (.outside (text.reverse ++ read)) rest := by
  induction text generalizing read with
  | nil => rfl
  | cons c text ih =>
    obtain ⟨noMark, others⟩ := List.forall_mem_cons.mp unmarked
    rw [List.cons_append, tokensFrom, noMark, if_neg Bool.false_ne_true, ih others]
    simp

/-- A quoted word is read up to its mark, and what is behind it anew. -/
theorem tokensFrom_inside {word : List Char} {mark : Char} (absent : mark ∉ word)
    (read rest : List Char) : tokensFrom cut (.inside mark read) (word ++ mark :: rest) =
      (tokens cut rest).map (.quoted (read.reverse ++ word) :: ·) := by
  induction word generalizing read with
  | nil =>
    rw [List.nil_append, tokensFrom, beq_self_eq_true, if_pos rfl, List.append_nil]
    rfl
  | cons c word ih =>
    have other : (c == mark) = false := by
      rw [beq_eq_false_iff_ne]
      exact (List.ne_of_not_mem_cons absent).symm
    rw [List.cons_append, tokensFrom, other, if_neg Bool.false_ne_true,
      ih (List.not_mem_of_not_mem_cons absent)]
    simp

/-- Without quotation marks a text is cut as a whole. -/
theorem tokens_unmarked {text : List Char} (unmarked : ∀ c ∈ text, isMark c = false) :
    tokens cut text = some (bareTokens cut text) := by
  have read : tokensFrom cut (.outside []) (text ++ []) = _ := tokensFrom_outside unmarked [] []
  rw [List.append_nil, List.append_nil] at read
  rw [tokens, read, tokensFrom, List.reverse_reverse]

/-- **A quoted word is one token**, whatever is in it but its own mark. -/
theorem tokens_quoted {text word : List Char} {mark : Char}
    (unmarked : ∀ c ∈ text, isMark c = false) (marks : isMark mark = true) (absent : mark ∉ word)
    (rest : List Char) : tokens cut (text ++ mark :: (word ++ mark :: rest)) =
      (tokens cut rest).map fun behind => bareTokens cut text ++ .quoted word :: behind := by
  rw [tokens, tokensFrom_outside unmarked, tokensFrom, marks, if_pos rfl, tokensFrom_inside absent,
    Option.map_map, List.append_nil, List.reverse_reverse]
  rfl

example : tokens (fun s => [s]) "set(\"it's\" 'a\"b')".toList = some [.bare "set(".toList,
    .quoted "it's".toList, .bare [' '], .quoted "a\"b".toList, .bare [')']] := by decide

/-! ## Queries for owners -/

/-- That a path holds both kinds of marks. -/
def HoldsBothMarks (path : String) : Prop := '"' ∈ path.toList ∧ '\'' ∈ path.toList

/-- A word is quoted with marks of a kind that it does not hold. -/
theorem exists_mark_of_quoteWord? {word quoted : List Char} (h : quoteWord? word = some quoted) :
    ∃ mark, isMark mark = true ∧ mark ∉ word ∧ quoted = mark :: (word ++ [mark]) := by
  unfold quoteWord? at h
  split at h
  · next free =>
    cases h
    exact ⟨'"', rfl, by simpa using free, rfl⟩
  · split at h
    · next free =>
      cases h
      exact ⟨'\'', rfl, by simpa using free, rfl⟩
    · cases h

/-- The tokens in front of the path. -/
def tokensBefore (cut : List Char → List α) : List (Token α) :=
  bareTokens cut "kind(".toList ++
    .quoted ".* rule".toList :: bareTokens cut ", rdeps(//..., ".toList

/-- The tokens behind the path. -/
def tokensBehind (cut : List Char → List α) : List (Token α) := bareTokens cut ", 1))".toList

/-- **The path is one quoted word of its query**, and the other tokens are the same for all. -/
theorem tokens_owners {path query : String} (h : owners path = .ok query) :
    tokens cut query.toList =
      some (tokensBefore cut ++ .quoted path.toList :: tokensBehind cut) := by
  unfold owners at h
  cases found : quoteWord? path.toList with
  | none =>
    rw [found] at h
    cases h
  | some quoted =>
    rw [found] at h
    obtain rfl : _ = query := Except.ok.inj h
    obtain ⟨mark, marks, absent, rfl⟩ := exists_mark_of_quoteWord? found
    have written : (opening ++ String.ofList (mark :: (path.toList ++ [mark])) ++ closing).toList =
        "kind(".toList ++ '"' :: (".* rule".toList ++ '"' :: (", rdeps(//..., ".toList ++
          mark :: (path.toList ++ mark :: ", 1))".toList))) := by
      simp [opening, closing]
    have bare (text : List Char) (none : text.any isMark = false) :
        ∀ c ∈ text, isMark c = false := by simpa using none
    rw [written, tokens_quoted (bare _ (by decide)) (by decide) (by decide),
      tokens_quoted (bare _ (by decide)) marks absent, tokens_unmarked (bare _ (by decide))]
    simp [tokensBefore, tokensBehind]

theorem owners_eq_error_iff {path : String} {e : Unquotable} :
    owners path = .error e ↔ HoldsBothMarks path ∧ e = ⟨path⟩ := by
  rw [HoldsBothMarks, ← quoteWord?_eq_none_iff, owners]
  cases quoteWord? path.toList with
  | none => simp [eq_comm]
  | some quoted => simp

theorem exists_owners {path : String} (h : ¬ HoldsBothMarks path) :
    ∃ query, owners path = .ok query := by
  cases asked : owners path with
  | error e => exact absurd (owners_eq_error_iff.mp asked).1 h
  | ok query => exact ⟨query, rfl⟩

/-- Paths with the same query are the same. -/
theorem owners_injective {path path' query : String} (h : owners path = .ok query)
    (h' : owners path' = .ok query) : path = path' := by
  have same : tokensBefore (fun s => [s]) ++ .quoted path.toList :: tokensBehind (fun s => [s]) =
      tokensBefore (fun s => [s]) ++ .quoted path'.toList :: tokensBehind (fun s => [s]) :=
    Option.some.inj ((tokens_owners h).symm.trans (tokens_owners h'))
  have quoted := (List.cons.inj (List.append_cancel_left same)).1
  exact String.toList_inj.mp (Token.quoted.inj quoted)

/-- A path that cannot be quoted has no owners, and nothing is started to find any. -/
theorem owners_run_of_holdsBothMarks {path : String} (h : HoldsBothMarks path)
    (settings : Settings) (root : Path) (w : World) : OwnerBuild.owners settings root path w =
      ⟨.ok [], w.view.files, [.noted (.unquotable path)]⟩ := by
  unfold OwnerBuild.owners
  rw [if_pos (quoteWord?_eq_none_iff.mpr h)]
  rfl

/-- The refusal to quote is never the failure: a path that is asked about has a query. -/
theorem owners_ne_unquotable (settings : Settings) (root : Path) (path : String) (w : World)
    (e : Unquotable) :
    ((OwnerBuild.owners settings root path).run w).result ≠ .error (.unquotable e) := by
  intro failed
  by_cases both : HoldsBothMarks path
  · rw [Action.run, owners_run_of_holdsBothMarks both] at failed
    cases failed
  · obtain ⟨query, asked⟩ := exists_command settings (mt quoteWord?_eq_none_iff.mp both)
    rw [Action.run, owners_of_command asked,
      Action.bind_undisturbed (Action.note_run _)] at failed
    rcases Action.bind_result_eq_error_iff.mp failed with failed | ⟨answer, -, failed⟩
    · cases (Action.start_result_eq_error_iff.mp failed).2
    · cases answer with
      | refused refusal => cases failed
      | finished output errors status =>
        dsimp only at failed
        split at failed <;> cases failed

/-- **A path cannot break out of its query.** Every path but one with both kinds of marks is one
quoted word of its query, with the same tokens around it for all paths. One with both kinds is
refused, and asked about owners it has none, with no program started and no failure. -/
theorem path_confined (cut : List Char → List α) :
    (∃ before behind : List (Token α), ∀ path, ¬ HoldsBothMarks path →
      ∃ query, owners path = .ok query ∧
        tokens cut query.toList = some (before ++ .quoted path.toList :: behind)) ∧
    (∀ path path' query, owners path = .ok query → owners path' = .ok query → path = path') ∧
    (∀ path, HoldsBothMarks path → owners path = .error ⟨path⟩ ∧
      ∀ settings root w, ((OwnerBuild.owners settings root path).run w).result = .ok [] ∧
        ((OwnerBuild.owners settings root path).run w).starts = []) ∧
    ∀ settings root path w e,
      ((OwnerBuild.owners settings root path).run w).result ≠ .error (.unquotable e) := by
  refine ⟨⟨tokensBefore cut, tokensBehind cut, fun path quotable => ?_⟩,
    fun _ _ _ asked asked' => owners_injective asked asked', fun path both => ⟨?_, ?_⟩, ?_⟩
  · obtain ⟨query, asked⟩ := exists_owners quotable
    exact ⟨query, asked, tokens_owners asked⟩
  · exact owners_eq_error_iff.mpr ⟨both, rfl⟩
  · intro settings root w
    rw [Action.run, owners_run_of_holdsBothMarks both]
    exact ⟨rfl, rfl⟩
  · exact owners_ne_unquotable

/-- A path that is written like the end of its query and the beginning of another one. -/
def breakout : String := "a\", 1)) + deps(//..., \"b"

theorem path_confined_breakout : ¬ HoldsBothMarks breakout ∧ HoldsBothMarks "it's \"x\".rs" ∧
    (∃ query, owners breakout = .ok query ∧
      ∃ before behind, tokens (fun s => [s]) query.toList =
        some (before ++ .quoted breakout.toList :: behind)) ∧
    owners "it's \"x\".rs" = .error ⟨"it's \"x\".rs"⟩ := by
  have quotable : ¬ HoldsBothMarks breakout := by
    unfold HoldsBothMarks
    decide
  have both : HoldsBothMarks "it's \"x\".rs" := by
    unfold HoldsBothMarks
    decide
  obtain ⟨⟨before, behind, word⟩, -, refused, -⟩ := path_confined fun s => [s]
  obtain ⟨query, asked, read⟩ := word breakout quotable
  exact ⟨quotable, both, ⟨query, asked, before, behind, read⟩, (refused _ both).1⟩

end Query

end OwnerBuild
