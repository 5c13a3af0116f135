/-
# OwnerBuild.Proofs.Format.Presented -- a record counts for what it says

The same message can be presented in many ways. Its text may have other white space and other
escapes (`Json.SpellsSpaced`), its members may come in another order as long as those of one key
keep theirs, and wherever a message, an error code or a span stands there may be members that
these do not declare. `Alike` says that one value is another one up to such changes, made
anywhere and any number of times.

None of it makes a difference: alike values are read as the same message or are both refused
(`Alike.agree`), so records that present them give the same diagnostics (`presentation`). What
carries the proof is that a record is read only through the members that count, the last ones of
the declared keys. So `MembersAgree` compares two objects key by key, every change keeps it, and
one lemma for each kind of record goes from there to what is read.

Half of a surrogate pair is what breaks this. No value has a text with one in it, so a record is
refused for it even in a member that nobody reads (`half_pair_refused`), and a member that is not
declared can suppress a diagnostic after all. That is why the law has a second part: a record that
is no text of a value counts for nothing, whatever else it holds.
-/

import OwnerBuild.Proofs.Format.Records
import OwnerBuild.Proofs.Json.Written

namespace OwnerBuild

/-! ## Members that count -/

namespace Json

variable {key key' : String} {ms ns : List (String × Value)} {v w : Value}

@[simp] theorem member?_cons (m : String × Value) :
    member? key (m :: ms) = (member? key ms).or (if m.1 = key then some m.2 else none) := by
  rw [member?]
  cases member? key ms <;> rfl

/-- Of two members of one key the later one counts. -/
theorem member?_append : member? key (ms ++ ns) = (member? key ns).or (member? key ms) := by
  induction ms with
  | nil => rw [List.nil_append, member?, Option.or_none]
  | cons m ms ih => rw [List.cons_append, member?_cons, member?_cons, ih, Option.or_assoc]

/-- The order of members with different keys makes no difference. -/
theorem member?_swap {a b : String × Value} (differ : a.1 ≠ b.1) (before after) :
    member? key (before ++ a :: b :: after) = member? key (before ++ b :: a :: after) := by
  have either : (if a.1 = key then some a.2 else none) = none ∨
      (if b.1 = key then some b.2 else none) = none := by
    by_cases first : a.1 = key
    · exact .inr (if_neg fun second => differ (first.trans second.symm))
    · exact .inl (if_neg first)
  rw [member?_append, member?_append]
  simp only [member?_cons]
  rcases either with none | none <;> simp only [none, Option.or_none]

/-- A member of another key makes no difference. -/
theorem member?_insert (other : key' ≠ key) (before after) :
    member? key (before ++ (key', v) :: after) = member? key (before ++ after) := by
  rw [member?_append, member?_append, member?_cons, if_neg other, Option.or_none]

/-- What a field of one value is read from: the value itself, unless it is an array or an
object. -/
def Value.plain? : Value → Option Value
  | .array _ => none
  | .object _ => none
  | v => some v

theorem Value.text?_eq_plain? (v : Value) : v.text? = v.plain?.bind Value.text? := by
  cases v <;> rfl

theorem Value.whole?_eq_plain? (v : Value) : v.whole? = v.plain?.bind Value.whole? := by
  cases v <;> rfl

theorem Value.truth?_eq_plain? (v : Value) : v.truth? = v.plain?.bind Value.truth? := by
  cases v <;> rfl

theorem Value.eq_null_iff_plain? (v : Value) : v = .null ↔ v.plain? = some .null := by
  cases v <;> simp [plain?]

section Fields

variable {α : Type} {accept : Value → Option α} {R : Value → Value → Prop}

/-- Two members that are related are both absent or both there. -/
theorem member?_cases (h : Option.Rel R (member? key ms) (member? key ns)) :
    (member? key ms = none ∧ member? key ns = none) ∨
      ∃ v w, member? key ms = some v ∧ member? key ns = some w ∧ R v w := by
  generalize member? key ms = x, member? key ns = y at h ⊢
  cases h with
  | none => exact .inl ⟨rfl, rfl⟩
  | some related => exact .inr ⟨_, _, rfl, rfl, related⟩

/-- A value other than null is taken by an optional field as by a required one. -/
theorem optional?_of_ne_null (found : member? key ms = some v) (notNull : v ≠ .null) :
    optional? accept key ms = (accept v).map some := by
  rw [optional?, found]
  cases v with
  | null => exact absurd rfl notNull
  | _ => rfl

variable (h : Option.Rel R (member? key ms) (member? key ns))
  (accepts : ∀ v w, R v w → accept v = accept w)

include h accepts

theorem required?_eq : required? accept key ms = required? accept key ns := by
  rcases member?_cases h with ⟨none, none'⟩ | ⟨v, w, found, found', related⟩
  · rw [required?, required?, none, none']
  · rw [required?, required?, found, found']
    exact accepts v w related

theorem defaulted?_eq {absent : α} :
    defaulted? accept absent key ms = defaulted? accept absent key ns := by
  rcases member?_cases h with ⟨none, none'⟩ | ⟨v, w, found, found', related⟩
  · rw [defaulted?, defaulted?, none, none']
  · rw [defaulted?, defaulted?, found, found']
    exact accepts v w related

/-- An optional field tells null from other values, so null has to stand in the same places. -/
theorem optional?_eq (plain : ∀ v w, R v w → v.plain? = w.plain?) :
    optional? accept key ms = optional? accept key ns := by
  rcases member?_cases h with ⟨none, none'⟩ | ⟨v, w, found, found', related⟩
  · rw [optional?, optional?, none, none']
  by_cases null : v = .null
  · have null' : w = .null := by
      rwa [w.eq_null_iff_plain?, ← plain v w related, ← v.eq_null_iff_plain?]
    rw [optional?, optional?, found, found', null, null']
  · have null' : w ≠ .null := by
      rwa [Ne, w.eq_null_iff_plain?, ← plain v w related, ← v.eq_null_iff_plain?]
    rw [optional?_of_ne_null found null, optional?_of_ne_null found' null', accepts v w related]

end Fields

end Json

namespace Rustc

open Json (Value member?)

/-! ## Places in a record -/

/-- What a place in a record is for: a message, an error code or a span, several messages or
spans, or a value of which nothing is declared. -/
inductive Role where
  | message
  | messages
  | code
  | span
  | spans
  | other
  deriving DecidableEq

namespace Role

/-- The keys that the objects of a role declare, with what their members are for. -/
def declared : Role → List (String × Role)
  | .message => [("message", .other), ("level", .other), ("code", .code), ("spans", .spans),
      ("children", .messages), ("rendered", .other)]
  | .code => [("code", .other), ("explanation", .other)]
  | .span => [("file_name", .other), ("line_start", .other), ("line_end", .other),
      ("column_start", .other), ("column_end", .other), ("is_primary", .other), ("label", .other)]
  | _ => []

/-- What a member is for, if the objects of a role declare its key. Where no object is expected,
all members belong to the value. -/
def member? (r : Role) (key : String) : Option Role :=
  if r.declared = [] then some .other else r.declared.lookup key

/-- What the items of an array are for. -/
def item : Role → Role
  | .messages => .message
  | .spans => .span
  | _ => .other

/-- Whether two values in the same place are read as the same. -/
def Same : Role → Value → Value → Prop
  | .message, v, w => Message.ofValue? v = Message.ofValue? w
  | .messages, v, w => messagesOfValue? v = messagesOfValue? w
  | .code, v, w => Code.ofValue? v = Code.ofValue? w
  | .span, v, w => Span.ofValue? v = Span.ofValue? w
  | .spans, v, w => spansOfValue? v = spansOfValue? w
  | .other, _, _ => True

end Role

/-- **Values that present the same** in a place of a record. Each constructor after the first
three is one change: within an item, within a member that counts, of the order of two members
that stand side by side and have different keys, and by a member that is not declared, whatever
its value. -/
inductive Alike : Role → Value → Value → Prop
  | refl {r : Role} (v : Value) : Alike r v v
  | symm {r : Role} {v w : Value} (h : Alike r v w) : Alike r w v
  | trans {r : Role} {u v w : Value} (h : Alike r u v) (h' : Alike r v w) : Alike r u w
  | item {r : Role} {v w : Value} (before after : List Value) (h : Alike r.item v w) :
      Alike r (.array (before ++ v :: after)) (.array (before ++ w :: after))
  | member {r place : Role} {key : String} {v w : Value} (before after : List (String × Value))
      (known : r.member? key = some place) (h : Alike place v w) :
      Alike r (.object (before ++ (key, v) :: after)) (.object (before ++ (key, w) :: after))
  | swap {r : Role} {a b : String × Value} (before after : List (String × Value))
      (differ : a.1 ≠ b.1) :
      Alike r (.object (before ++ a :: b :: after)) (.object (before ++ b :: a :: after))
  | undeclared {r : Role} {key : String} (v : Value) (before after : List (String × Value))
      (unknown : r.member? key = none) :
      Alike r (.object (before ++ after)) (.object (before ++ (key, v) :: after))

/-! ## What is read -/

/-- That two values in the same place make no difference to what is around them. -/
structure Agree (r : Role) (v w : Value) : Prop where
  plain : v.plain? = w.plain?
  same : r.Same v w

/-- That two objects have values that agree, or none, for every key that counts. -/
def MembersAgree (r : Role) (ms ns : List (String × Value)) : Prop :=
  ∀ key place, r.member? key = some place →
    Option.Rel (Agree place) (member? key ms) (member? key ns)

theorem Agree.refl (r : Role) (v : Value) : Agree r v v := by
  refine ⟨rfl, ?_⟩
  cases r with
  | other => trivial
  | _ => exact Eq.refl _

theorem Agree.symm {r : Role} {v w : Value} (h : Agree r v w) : Agree r w v := by
  obtain ⟨plain, same⟩ := h
  refine ⟨plain.symm, ?_⟩
  cases r with
  | other => trivial
  | _ => exact Eq.symm same

theorem Agree.trans {r : Role} {u v w : Value} (h : Agree r u v) (h' : Agree r v w) :
    Agree r u w := by
  obtain ⟨plain, same⟩ := h
  obtain ⟨plain', same'⟩ := h'
  refine ⟨plain.trans plain', ?_⟩
  cases r with
  | other => trivial
  | _ => exact Eq.trans same same'

section Fields

variable {r place : Role} {ms ns : List (String × Value)}

theorem Agree.text? {v w : Value} (h : Agree r v w) : v.text? = w.text? := by
  rw [v.text?_eq_plain?, w.text?_eq_plain?, h.plain]

theorem Agree.whole? {v w : Value} (h : Agree r v w) : v.whole? = w.whole? := by
  rw [v.whole?_eq_plain?, w.whole?_eq_plain?, h.plain]

theorem Agree.truth? {v w : Value} (h : Agree r v w) : v.truth? = w.truth? := by
  rw [v.truth?_eq_plain?, w.truth?_eq_plain?, h.plain]

variable {α : Type} {accept : Value → Option α}

theorem MembersAgree.required? (h : MembersAgree r ms ns) (key : String)
    (known : r.member? key = some place)
    (accepts : ∀ v w, Agree place v w → accept v = accept w) :
    Json.required? accept key ms = Json.required? accept key ns :=
  Json.required?_eq (h key place known) accepts

theorem MembersAgree.defaulted? {absent : α} (h : MembersAgree r ms ns) (key : String)
    (known : r.member? key = some place)
    (accepts : ∀ v w, Agree place v w → accept v = accept w) :
    Json.defaulted? accept absent key ms = Json.defaulted? accept absent key ns :=
  Json.defaulted?_eq (h key place known) accepts

theorem MembersAgree.optional? (h : MembersAgree r ms ns) (key : String)
    (known : r.member? key = some place)
    (accepts : ∀ v w, Agree place v w → accept v = accept w) :
    Json.optional? accept key ms = Json.optional? accept key ns :=
  Json.optional?_eq (h key place known) accepts fun _ _ agree => agree.plain

end Fields

/-! ### Records -/

section Records

variable {ms ns : List (String × Value)}

theorem MembersAgree.span (h : MembersAgree .span ms ns) :
    Span.ofValue? (.object ms) = Span.ofValue? (.object ns) := by
  have number (key : String) (known : Role.member? .span key = some .other) :
      Json.required? Value.whole? key ms = Json.required? Value.whole? key ns :=
    h.required? key known fun _ _ agree => agree.whole?
  simp only [Span.ofValue?, number "line_start" rfl, number "line_end" rfl,
    number "column_start" rfl, number "column_end" rfl,
    h.required? "file_name" rfl fun _ _ agree => agree.text?,
    h.required? "is_primary" rfl fun _ _ agree => agree.truth?,
    h.optional? "label" rfl fun _ _ agree => agree.text?]

theorem MembersAgree.code (h : MembersAgree .code ms ns) :
    Code.ofValue? (.object ms) = Code.ofValue? (.object ns) := by
  simp only [Code.ofValue?, h.required? "code" rfl fun _ _ agree => agree.text?,
    h.optional? "explanation" rfl fun _ _ agree => agree.text?]

/-- The children are those of the member that counts. -/
theorem childrenOfMembers?_eq (ms : List (String × Value)) :
    childrenOfMembers? ms =
      ((member? "children" ms).map fun v => (messagesOfValue? v).map some).getD (some none) := by
  induction ms with
  | nil => rw [childrenOfMembers?, member?, Option.map_none, Option.getD_none]
  | cons m ms ih =>
    obtain ⟨key, v⟩ := m
    rw [childrenOfMembers?, ih, Json.member?_cons]
    cases member? "children" ms with
    | none =>
      by_cases isKey : key = "children"
      · simp [isKey]
      · simp [isKey]
    | some later =>
      simp only [Option.map_some, Option.getD_some, Option.some_or]
      cases messagesOfValue? later <;> rfl

theorem MembersAgree.message (h : MembersAgree .message ms ns) :
    Message.ofValue? (.object ms) = Message.ofValue? (.object ns) := by
  have children : childrenOfMembers? ms = childrenOfMembers? ns := by
    rw [childrenOfMembers?_eq, childrenOfMembers?_eq]
    rcases Json.member?_cases (h "children" .messages rfl) with
      ⟨none, none'⟩ | ⟨v, w, found, found', agree⟩
    · rw [none, none']
    · have same : messagesOfValue? v = messagesOfValue? w := agree.same
      rw [found, found', Option.map_some, Option.map_some, same]
  have members (read : List Message) : Message.ofMembers? ms read = Message.ofMembers? ns read := by
    simp only [Message.ofMembers?, h.required? "message" rfl fun _ _ agree => agree.text?,
      h.required? "level" rfl fun _ _ agree => agree.text?,
      h.optional? "code" rfl fun _ _ agree => agree.same,
      h.defaulted? "spans" rfl fun _ _ agree => agree.same,
      h.optional? "rendered" rfl fun _ _ agree => agree.text?]
  rw [Message.ofValue?, Message.ofValue?, children]
  simp only [members]

/-- **Objects whose members agree** are read as the same. -/
theorem MembersAgree.object {r : Role} (h : MembersAgree r ms ns) :
    Agree r (.object ms) (.object ns) := by
  refine ⟨rfl, ?_⟩
  cases r with
  | message => exact h.message
  | code => exact h.code
  | span => exact h.span
  | messages => exact rfl
  | spans => exact rfl
  | other => trivial

theorem messagesOfItems?_eq_mapM (items : List Value) :
    messagesOfItems? items = items.mapM Message.ofValue? := by
  induction items with
  | nil => rfl
  | cons v rest ih =>
    rw [messagesOfItems?, ih, List.mapM_cons]
    cases Message.ofValue? v with
    | none => rfl
    | some m => cases List.mapM Message.ofValue? rest <;> rfl

/-- **Arrays that differ in an item** are read as the same if the items are. -/
theorem Agree.array {r : Role} {v w : Value} (h : Agree r.item v w) (before after : List Value) :
    Agree r (.array (before ++ v :: after)) (.array (before ++ w :: after)) := by
  have listed {α : Type} {read : Value → Option α} (same : read v = read w) :
      (before ++ v :: after).mapM read = (before ++ w :: after).mapM read := by
    rw [List.mapM_append, List.mapM_append, List.mapM_cons, List.mapM_cons, same]
  refine ⟨rfl, ?_⟩
  cases r with
  | messages =>
    show messagesOfValue? _ = messagesOfValue? _
    rw [messagesOfValue?, messagesOfValue?, messagesOfItems?_eq_mapM, messagesOfItems?_eq_mapM]
    exact listed h.same
  | spans => exact listed h.same
  | message => exact rfl
  | code => exact rfl
  | span => exact rfl
  | other => trivial

end Records

/-! ## Changes -/

section Changes

variable {r place : Role} {key : String}

theorem MembersAgree.of_eq {ms ns : List (String × Value)}
    (h : ∀ key place, r.member? key = some place → member? key ms = member? key ns) :
    MembersAgree r ms ns := by
  intro key place known
  rw [h key place known]
  cases member? key ns with
  | none => exact .none
  | some v => exact .some (.refl place v)

/-- A change within a member is one to the member of its key, if that counts at all. -/
theorem membersAgree_member {v w : Value} (known : r.member? key = some place)
    (h : Agree place v w) (before after : List (String × Value)) :
    MembersAgree r (before ++ (key, v) :: after) (before ++ (key, w) :: after) := by
  intro key' place' known'
  rw [Json.member?_append, Json.member?_append, Json.member?_cons, Json.member?_cons]
  -- a later member counts instead, or it is this one, or an earlier one
  cases member? key' after with
  | some later => exact .some (.refl _ later)
  | none =>
    by_cases same : key = key'
    · subst same
      obtain rfl := Option.some.inj (known.symm.trans known')
      simpa using Option.Rel.some h
    · simp only [same, if_false, Option.none_or]
      cases member? key' before with
      | none => exact .none
      | some earlier => exact .some (.refl _ earlier)

/-- **Values that present the same agree.** -/
theorem Alike.agree {v w : Value} (h : Alike r v w) : Agree r v w := by
  induction h with
  | refl v => exact .refl _ v
  | symm _ ih => exact ih.symm
  | trans _ _ ih ih' => exact ih.trans ih'
  | item before after _ ih => exact ih.array before after
  | member before after known _ ih => exact (membersAgree_member known ih before after).object
  | swap before after differ =>
    exact (MembersAgree.of_eq fun _ _ _ => Json.member?_swap differ before after).object
  | undeclared v before after unknown =>
    refine (MembersAgree.of_eq fun key place known => ?_).object
    refine (Json.member?_insert ?_ before after).symm
    rintro rfl
    rw [unknown] at known
    cases known

end Changes

end Rustc

/-! ## Records -/

namespace Format

open Json (Number SpellsSpaced Value)
open Rustc (Alike Message)

/-- That two records count for the same: they are read as the same message, or neither is read as
one, and in any list of records one of them can stand for the other. -/
structure Interchangeable (s t : List Char) : Prop where
  read : Message.read? s = Message.read? t
  parse : ∀ (root : Path) (before after : List (List Char)),
    parse root (before ++ s :: after) = parse root (before ++ t :: after)

/-- That a record counts for nothing: it is read as no message, and in any list of records it can
be left out. -/
structure Suppressed (s : List Char) : Prop where
  read : Message.read? s = none
  parse : ∀ (root : Path) (before after : List (List Char)),
    parse root (before ++ s :: after) = parse root (before ++ after)

theorem parse_append_cons (root : Path) (before after : List (List Char)) (s : List Char) :
    parse root (before ++ s :: after) =
      parse root before ++ (diagnosticsIn root s ++ parse root after) := by
  rw [parse_append, ← List.singleton_append, parse_append, parse_singleton]

theorem interchangeable_of_read?_eq {s t : List Char} (h : Message.read? s = Message.read? t) :
    Interchangeable s t where
  read := h
  parse root before after := by
    have diagnostics : diagnosticsIn root s = diagnosticsIn root t := by
      rw [diagnosticsIn, diagnosticsIn, h]
    rw [parse_append_cons, parse_append_cons, diagnostics]

theorem suppressed_of_read?_eq_none {s : List Char} (h : Message.read? s = none) :
    Suppressed s where
  read := h
  parse root before after := by
    have nothing : diagnosticsIn root s = [] := by rw [diagnosticsIn, h]
    rw [parse_append_cons, nothing, List.nil_append, parse_append]

/-- **The presentation of a record makes no difference.** Texts of values that present the same
are interchangeable. The values may lie as deep as the reader goes, and numbers have as many digits
as it takes.

A record that is no text of a value within these limits counts for nothing. A text in which any
string, of a key or of a member that is left out, has half of a pair is one. -/
theorem presentation :
    (∀ {s t : List Char} {v w : Value}, SpellsSpaced s v → SpellsSpaced t w →
      v.Fits (fun _ => True) 0 → w.Fits (fun _ => True) 0 → Alike .message v w →
        Interchangeable s t) ∧
    ∀ {s : List Char}, (∀ v, SpellsSpaced s v → ¬ v.Fits Number.IsShort 0) → Suppressed s := by
  constructor
  · intro s t v w first second fit fit' alike
    refine interchangeable_of_read?_eq ?_
    rw [Message.read?, Message.read?, Json.read?_of_spells first fit,
      Json.read?_of_spells second fit']
    exact alike.agree.same
  · intro s noText
    refine suppressed_of_read?_eq_none ?_
    have refused : Json.read? s = none := by
      rw [Option.eq_none_iff_forall_ne_some]
      intro v said
      obtain ⟨text, fit⟩ := Json.read?_eq_some_iff.mp said
      exact noText v text fit
    rw [Message.read?, refused]
    rfl

/-- The spans of an error at the beginning of a file. -/
def spanMembers : List (String × Value) :=
  [("spans", .array [.object [("file_name", .string "a.rs"), ("line_start", .number (.integer 1)),
    ("line_end", .number (.integer 1)), ("column_start", .number (.integer 1)),
    ("column_end", .number (.integer 1)), ("is_primary", .bool true)]])]

/-- The members of the error. -/
def errorMembers : List (String × Value) :=
  ("message", .string "é") :: ("level", .string "error") :: spanMembers

/-- The same members in another order, with one that is not declared. -/
def presentedMembers : List (String × Value) :=
  ("level", .string "error") :: ("phase", .array [.null]) :: ("message", .string "é") ::
    spanMembers

/-- A text of these with white space and with a character as it is. -/
def presentedText : List Char :=
  " \x7b \"level\" : \"error\", \"phase\":[ null ] ,\n\"message\":\"é\",".toList ++
    (Json.writeMembers spanMembers ++ "\x7d".toList)

theorem fits_members {P : Number → Prop} (h : P (.integer 1)) :
    (Value.object errorMembers).Fits P 0 ∧ (Value.object presentedMembers).Fits P 0 ∧
      ∀ m ∈ spanMembers, m.2.Fits P 1 := by
  simp [errorMembers, presentedMembers, spanMembers, h, Json.deepest]

theorem isWritable_one : (Number.integer 1).IsWritable := by
  show (Text.decimalDigits 1).length ≤ Json.longestInteger
  have limit : 1 ≤ Json.longestInteger := by decide
  rw [Text.decimalDigits_of_lt (by decide)]
  exact limit

open Json in
theorem spells_presentedText : SpellsSpaced presentedText (.object presentedMembers) := by
  have gap (s : List Char) (h : s.all State.isSpace = true) : IsGap s := List.all_eq_true.mp h
  have level := SpellsKey.mk (gap [' '] rfl) (spellsString_writeString "level") (gap [' '] rfl)
  have error := SpellsSpaced.mk (gap [' '] rfl) (.string (spellsString_writeString "error"))
    (gap [] rfl)
  have phase := SpellsKey.mk (gap [' '] rfl) (spellsString_writeString "phase") (gap [] rfl)
  have nulls := SpellsSpaced.mk (gap [] rfl)
    (.array (.last (.mk (gap [' '] rfl) .null (gap [' '] rfl)))) (gap [' '] rfl)
  have message := SpellsKey.mk (gap ['\n'] rfl) (spellsString_writeString "message") (gap [] rfl)
  have accent : SpellsChars ['é'] "é".toList :=
    .cons (.plain (by decide) (by decide) (by decide)) .nil
  have text := SpellsSpaced.mk (gap [] rfl) (.string (.mk accent)) (gap [] rfl)
  have spans := spellsMembers_write spanMembers 1 (fits_members isWritable_one).2.2
  have whole := SpellsSpaced.mk (gap [' '] rfl)
    (.object (.more level error (.more phase nulls (.more message text spans)))) (gap [] rfl)
  refine Eq.subst (motive := (SpellsSpaced · _)) ?_ whole
  decide +kernel

/-- The compact form of the error with one more member in front, whose string is given by its
text. -/
def errorWith (inner : String) : List Char :=
  ("\x7b\"x\":\"" ++ inner ++ "\",").toList ++ (Json.writeMembers errorMembers ++ "\x7d".toList)

/-- The compact form of the error, with its character escaped, and the other text are read as
the same message, and each gives the diagnostic. Half of a pair in a member that is not declared
leaves no text of a value, and then there is no diagnostic. -/
theorem presentation_reordered :
    SpellsSpaced (Value.object errorMembers).write (.object errorMembers) ∧
      SpellsSpaced presentedText (.object presentedMembers) ∧
      (Value.object errorMembers).Fits (fun _ => True) 0 ∧
      (Value.object presentedMembers).Fits (fun _ => True) 0 ∧
      Alike .message (.object errorMembers) (.object presentedMembers) ∧
      Interchangeable (Value.object errorMembers).write presentedText ∧
      (parse (.ofText "/ws") [presentedText]).map (·.message) = ["é"] ∧
      (∀ v, SpellsSpaced (errorWith "\\ud800") v → ¬ v.Fits Number.IsShort 0) ∧
      Suppressed (errorWith "\\ud800") := by
  have compact : SpellsSpaced (Value.object errorMembers).write (.object errorMembers) :=
    (Json.spells_write _ 0 (fits_members isWritable_one).1).spaced
  have fits := fits_members (P := fun _ => True) trivial
  have alike : Alike .message (.object errorMembers) (.object presentedMembers) :=
    .trans (.swap [] spanMembers (by decide))
      (.undeclared (.array [.null]) [("level", .string "error")]
        (("message", .string "é") :: spanMembers) (by decide))
  have noText : ∀ v, SpellsSpaced (errorWith "\\ud800") v → ¬ v.Fits Number.IsShort 0 := by
    intro v text fit
    have refused : (Json.read? (errorWith "\\ud800")).isSome = false := by decide +kernel
    rw [Json.read?_of_spells text fit] at refused
    cases refused
  exact ⟨compact, spells_presentedText, fits.1, fits.2.1, alike,
    presentation.1 compact spells_presentedText fits.1 fits.2.1 alike, by decide +kernel, noText,
    presentation.2 noText⟩

/-- **Half of a pair suppresses a diagnostic**, though it stands in a member that is not declared:
with the other half behind it the record gives the diagnostic that it gives without the member, and
by itself it gives none. -/
theorem half_pair_refused :
    (parse (.ofText "/ws") [(Value.object errorMembers).write]).map (·.message) = ["é"] ∧
      (parse (.ofText "/ws") [errorWith "\\ud800\\udc00"]).map (·.message) = ["é"] ∧
      Message.read? (errorWith "\\ud800") = none ∧
      parse (.ofText "/ws") [errorWith "\\ud800"] = [] := by
  decide +kernel

end Format

end OwnerBuild
