/-
# OwnerBuild.Proofs.Rustc.Reread -- writing a message and reading it again

The object of a message is read as that message (`ofValue?_toValue`), by induction on
the message tree. So a message is read back from the text of its object as soon as that
text is within the limits of the reader (`read?_write_toValue`).

A message that has been read is always within them (`fits_toValue`), whatever form its
record had: its whole numbers were taken from short integers, from decimals below 2^63,
from truth values or from texts that write short integers, and wherever a message or a
span stands it has members with required keys, so that the empty arrays and the nulls
that are written for absent members are no deeper than these. Hence reading, writing
and reading again ends where it began (`read?_reread`).
-/

import OwnerBuild.Proofs.Json.Written
import OwnerBuild.Rustc.Record

namespace OwnerBuild.Rustc

open Json (Value Number member? required? optional? defaulted? deepest longestInteger)
open Text (decimalDigits)

/-! ## Reading the object of a message -/

section Fields

variable {α : Type} {accept : Value → Option α} {key : String} {members : List (String × Value)}

/-- A text or null is read as the text that it was written for. -/
theorem optional?_textOrNull {s : Option String} (h : member? key members = some (textOrNull s)) :
    optional? Value.text? key members = some s := by
  cases s with
  | none => simp [optional?, h, textOrNull]
  | some s => simp [optional?, h, textOrNull, Value.text?]

end Fields

theorem Span.ofValue?_toValue (s : Span) : Span.ofValue? s.toValue = some s := by
  have label : optional? Value.text? "label" [("file_name", .string s.fileName),
      ("line_start", .number (.integer s.lineStart)), ("line_end", .number (.integer s.lineEnd)),
      ("column_start", .number (.integer s.columnStart)),
      ("column_end", .number (.integer s.columnEnd)), ("is_primary", .bool s.isPrimary),
      ("label", textOrNull s.label)] = some s.label :=
    optional?_textOrNull (by simp [member?])
  simp [toValue, ofValue?, required?, member?, label, Value.text?, Value.whole?, Value.truth?,
    Number.whole?]

theorem Code.ofValue?_toValue (c : Code) : Code.ofValue? c.toValue = some c := by
  have explanation : optional? Value.text? "explanation" [("code", .string c.code),
      ("explanation", textOrNull c.explanation)] = some c.explanation :=
    optional?_textOrNull (by simp [member?])
  simp [toValue, ofValue?, required?, member?, explanation, Value.text?]

/-- An error code or null is read as the code that it was written for. -/
theorem optional?_toValue {code : Option Code} {key : String} {members : List (String × Value)}
    (h : member? key members = some ((code.map Code.toValue).getD .null)) :
    optional? Code.ofValue? key members = some code := by
  cases code with
  | none => simp [optional?, h]
  | some c =>
    have object : ∃ fields, c.toValue = .object fields := ⟨_, rfl⟩
    obtain ⟨fields, shape⟩ := object
    have read := Code.ofValue?_toValue c
    rw [shape] at read
    simp [optional?, h, shape, read]

theorem spansOfValue?_toValues (spans : List Span) :
    spansOfValue? (.array (spans.map Span.toValue)) = some spans := by
  simp only [spansOfValue?, Value.items?, Option.bind_some]
  induction spans with
  | nil => rfl
  | cons s rest ih => simp [List.mapM_cons, Span.ofValue?_toValue, ih]

mutual
/-- **The object of a message is read as that message.** -/
theorem Message.ofValue?_toValue : ∀ m : Message, Message.ofValue? m.toValue = some m
  | ⟨message, level, code, spans, children, rendered⟩ => by
    rw [Message.toValue]
    generalize written : [("message", Value.string message), ("level", .string level),
      ("code", (code.map Code.toValue).getD .null), ("spans", .array (spans.map Span.toValue)),
      ("children", .array (messagesToValues children)), ("rendered", textOrNull rendered)] = members
    have childrenRead : childrenOfMembers? members = some (some children) := by
      simp [← written, childrenOfMembers?, messagesOfValue?, messagesOfItems?_toValues children]
    have messageRead : required? Value.text? "message" members = some message := by
      simp [← written, required?, member?, Value.text?]
    have levelRead : required? Value.text? "level" members = some level := by
      simp [← written, required?, member?, Value.text?]
    have codeRead : optional? Code.ofValue? "code" members = some code :=
      optional?_toValue (by simp [← written, member?])
    have spansRead : defaulted? spansOfValue? [] "spans" members = some spans := by
      simp [← written, defaulted?, member?, spansOfValue?_toValues]
    have renderedRead : optional? Value.text? "rendered" members = some rendered :=
      optional?_textOrNull (by simp [← written, member?])
    rw [Message.ofValue?, childrenRead, Option.bind_some, Message.ofMembers?, messageRead,
      levelRead, codeRead, spansRead, renderedRead]
    rfl

/-- The objects of messages are read as those messages. -/
theorem messagesOfItems?_toValues : ∀ ms : List Message,
    messagesOfItems? (messagesToValues ms) = some ms
  | [] => by rw [messagesToValues, messagesOfItems?]
  | m :: rest => by
    rw [messagesToValues, messagesOfItems?, Message.ofValue?_toValue m,
      messagesOfItems?_toValues rest]
    rfl
end

/-- **A message whose object is within the limits of the reader is read back from its
text.** -/
theorem Message.read?_write_toValue {m : Message} (fit : m.toValue.Fits Number.IsWritable 0) :
    Message.read? m.toValue.write = some m := by
  rw [Message.read?, Json.read?_write fit, Option.bind_some, Message.ofValue?_toValue]

/-! ## What has been read is short -/

/-- The whole number that a decimal stands for is below 2^63. -/
theorem natAbs_lt_of_wholeDouble? {m e n : Int} (h : Json.wholeDouble? m e = some n) :
    n.natAbs < 2 ^ 63 := by
  have magnitude {k : Nat} (h : Json.wholeMagnitude? m.natAbs e = some k) : k < 2 ^ 63 := by
    unfold Json.wholeMagnitude? at h
    -- zero, or what has been compared with the bound
    split at h
    · cases h
      decide
    split at h
    · cases h
    split at h
    · obtain ⟨-, below⟩ := Option.filter_eq_some_iff.mp h
      exact of_decide_eq_true below
    split at h
    · cases h
      decide
    · obtain ⟨-, below⟩ := Option.filter_eq_some_iff.mp h
      exact of_decide_eq_true below
  obtain ⟨size, rounded, signed⟩ := Option.map_eq_some_iff.mp h
  obtain ⟨k, found, rfl⟩ : ∃ k, Json.wholeMagnitude? m.natAbs e = some k ∧ (k : Int) = size := by
    simpa [Option.bind_eq_some_iff] using rounded
  have below := magnitude found
  split at signed <;> omega

theorem isShort_of_natAbs_lt {n : Int} (h : n.natAbs < 2 ^ 63) :
    (decimalDigits n.natAbs).length ≤ longestInteger := by
  have digits : (decimalDigits n.natAbs).length ≤ 19 :=
    (Text.length_decimalDigits_le_iff (by decide)).mpr (by omega)
  have limit : 19 ≤ longestInteger := by decide
  exact Nat.le_trans digits limit

variable {outer : Nat}

/-- **A whole number that a field has accepted is short**, whichever of the four kinds of
value it was taken from. -/
theorem isShort_of_whole? {v : Value} {n : Int} (fit : v.Fits Number.IsShort outer)
    (h : v.whole? = some n) : (decimalDigits n.natAbs).length ≤ longestInteger := by
  cases v with
  | number number =>
    have short := (Json.fits_number.mp fit).2
    cases number with
    | integer k =>
      obtain rfl := Option.some.inj h
      exact short
    | decimal m e => exact isShort_of_natAbs_lt (natAbs_lt_of_wholeDouble? h)
    | unbounded => cases h
  | bool b =>
    obtain rfl := Option.some.inj h
    exact isShort_of_natAbs_lt (by cases b <;> decide)
  | string s =>
    rw [Value.whole?, Json.wholeText?] at h
    dsimp only at h
    split at h
    · next read =>
      obtain rfl := Option.some.inj h
      obtain ⟨numeral, -, number⟩ := Option.bind_eq_some_iff.mp read
      exact Json.isShort_of_readNumber? number
    · cases h
  | null => cases h
  | array items => cases h
  | object members => cases h

/-! ## What has been read is no deeper -/

section Fields

variable {α : Type} {accept : Value → Option α} {key : String} {members : List (String × Value)}
  {a : α}

/-- A required member is there, where the members are. -/
theorem exists_of_required? (fit : ∀ m ∈ members, m.2.Fits Number.IsShort outer)
    (h : required? accept key members = some a) :
    ∃ v, v.Fits Number.IsShort outer ∧ accept v = some a := by
  obtain ⟨v, found, accepted⟩ := Option.bind_eq_some_iff.mp h
  exact ⟨v, Json.fits_of_member? fit found, accepted⟩

/-- An optional member that is not absent is there, where the members are. -/
theorem exists_of_optional? (fit : ∀ m ∈ members, m.2.Fits Number.IsShort outer)
    (h : optional? accept key members = some (some a)) :
    ∃ v, v.Fits Number.IsShort outer ∧ accept v = some a := by
  unfold optional? at h
  split at h
  · cases h
  · cases h
  · next v _ found =>
    obtain ⟨b, accepted, same⟩ := Option.map_eq_some_iff.mp h
    obtain rfl := Option.some.inj same
    exact ⟨v, Json.fits_of_member? fit found, accepted⟩

end Fields

theorem fits_textOrNull {P : Number → Prop} (s : Option String) (depth : outer ≤ deepest) :
    (textOrNull s).Fits P outer := by
  cases s with
  | none => exact Json.fits_null.mpr depth
  | some s => exact Json.fits_string.mpr depth

/-- The object of a span that has been read is within the limits. -/
theorem Span.fits_toValue {v : Value} {s : Span} (fit : v.Fits Number.IsShort outer)
    (h : Span.ofValue? v = some s) : s.toValue.Fits Number.IsWritable outer := by
  cases v with
  | object members =>
    -- one by one, the members that reading a span asks for
    obtain ⟨depth, fits⟩ := Json.fits_object.mp fit
    simp only [Span.ofValue?, Option.bind_eq_bind, Option.bind_eq_some_iff, Option.pure_def,
      Option.some.injEq] at h
    obtain ⟨fileName, file, lineStart, start, lineEnd, stop, columnStart, left, columnEnd, right,
      isPrimary, primary, label, labelled, rfl⟩ := h
    have whole {key : String} {n : Int} (read : required? Value.whole? key members = some n) :
        (decimalDigits n.natAbs).length ≤ longestInteger := by
      obtain ⟨w, fit, accepted⟩ := exists_of_required? fits read
      exact isShort_of_whole? fit accepted
    -- the required members show how deep the members of the object may be
    obtain ⟨w, member, -⟩ := exists_of_required? fits file
    have inner := member.outer_le
    simp [Span.toValue, depth, inner, fits_textOrNull, Number.IsWritable, whole start, whole stop,
      whole left, whole right]
  | _ => cases h

theorem Code.fits_toValue {v : Value} {c : Code} (fit : v.Fits Number.IsShort outer)
    (h : Code.ofValue? v = some c) : c.toValue.Fits Number.IsWritable outer := by
  cases v with
  | object members =>
    obtain ⟨depth, fits⟩ := Json.fits_object.mp fit
    simp only [Code.ofValue?, Option.bind_eq_bind, Option.bind_eq_some_iff, Option.pure_def,
      Option.some.injEq] at h
    obtain ⟨code, read, explanation, explained, rfl⟩ := h
    obtain ⟨w, member, -⟩ := exists_of_required? fits read
    have inner := member.outer_le
    simp [Code.toValue, depth, inner, fits_textOrNull]
  | _ => cases h

/-- The objects of spans that have been read are within the limits. -/
theorem fits_spans {items : List Value} {spans : List Span}
    (fit : ∀ v ∈ items, v.Fits Number.IsShort outer) (h : items.mapM Span.ofValue? = some spans) :
    ∀ s ∈ spans, s.toValue.Fits Number.IsWritable outer := by
  induction items generalizing spans with
  | nil =>
    obtain rfl : [] = spans := by simpa using h
    simp
  | cons v rest ih =>
    simp only [List.mapM_cons, Option.bind_eq_bind, Option.bind_eq_some_iff, Option.pure_def,
      Option.some.injEq] at h
    obtain ⟨s, first, others, read, rfl⟩ := h
    intro t ht
    rcases List.mem_cons.mp ht with rfl | ht
    · exact Span.fits_toValue (fit v List.mem_cons_self) first
    · exact ih (fun w hw => fit w (List.mem_cons_of_mem _ hw)) read t ht

theorem messagesToValues_eq_map (ms : List Message) :
    messagesToValues ms = ms.map Message.toValue := by
  induction ms with
  | nil => rw [messagesToValues, List.map_nil]
  | cons m rest ih => rw [messagesToValues, List.map_cons, ih]

/-- The object of a message is within the limits where its children and its other members
were. -/
theorem fits_ofMembers? {members : List (String × Value)} {children : List Message} {m : Message}
    (fits : ∀ m ∈ members, m.2.Fits Number.IsShort (outer + 1))
    (below : ∀ child ∈ children, child.toValue.Fits Number.IsWritable (outer + 2))
    (h : Message.ofMembers? members children = some m) :
    m.toValue.Fits Number.IsWritable outer := by
  simp only [Message.ofMembers?, Option.bind_eq_bind, Option.bind_eq_some_iff, Option.pure_def,
    Option.some.injEq] at h
  obtain ⟨message, messageRead, level, levelRead, code, codeRead, spans, spansRead, rendered,
    renderedRead, rfl⟩ := h
  -- the message's text shows how deep the members of the object may be
  obtain ⟨w, member, -⟩ := exists_of_required? fits messageRead
  have inner := member.outer_le
  have codeFits : ((code.map Code.toValue).getD .null).Fits Number.IsWritable (outer + 1) := by
    cases code with
    | none => exact Json.fits_null.mpr inner
    | some c =>
      obtain ⟨v, fit, read⟩ := exists_of_optional? fits codeRead
      exact Code.fits_toValue fit read
  have spansFit : ∀ s ∈ spans, s.toValue.Fits Number.IsWritable (outer + 2) := by
    unfold defaulted? at spansRead
    split at spansRead
    · obtain rfl := Option.some.inj spansRead
      simp
    · next v found =>
      obtain ⟨items, shape, read⟩ := Option.bind_eq_some_iff.mp spansRead
      have fit := Json.fits_of_member? fits found
      cases v with
      | array values =>
        obtain rfl := Option.some.inj shape
        exact fits_spans (Json.fits_array.mp fit).2 read
      | _ => cases shape
  have depth : outer ≤ deepest := by omega
  simpa [Message.toValue, depth, inner, codeFits, fits_textOrNull, messagesToValues_eq_map]
    using And.intro spansFit below

mutual
/-- **The object of a message that has been read is within the limits.** -/
theorem Message.fits_toValue : ∀ (v : Value) (outer : Nat) (m : Message),
    v.Fits Number.IsShort outer → Message.ofValue? v = some m →
    m.toValue.Fits Number.IsWritable outer
  | .object members, outer, m, fit, h => by
    rw [Message.ofValue?] at h
    obtain ⟨children, childrenRead, read⟩ := Option.bind_eq_some_iff.mp h
    obtain ⟨depth, fits⟩ := Json.fits_object.mp fit
    refine fits_ofMembers? fits ?_ read
    cases children with
    | none => simp
    | some children => exact fits_children members (outer + 1) children fits childrenRead
  | .null, _, _, _, h => nomatch h
  | .bool _, _, _, _, h => nomatch h
  | .number _, _, _, _, h => nomatch h
  | .string _, _, _, _, h => nomatch h
  | .array _, _, _, _, h => nomatch h

/-- The objects of the children among members are within the limits. -/
theorem fits_children : ∀ (members : List (String × Value)) (outer : Nat)
    (children : List Message), (∀ m ∈ members, m.2.Fits Number.IsShort outer) →
    childrenOfMembers? members = some (some children) →
    ∀ child ∈ children, child.toValue.Fits Number.IsWritable (outer + 1)
  | [], _, _, _, h => by
    rw [childrenOfMembers?] at h
    cases h
  | (key, v) :: rest, outer, children, fits, h => by
    rw [childrenOfMembers?] at h
    have later := fits_children rest outer children fun m hm => fits m (List.mem_cons_of_mem _ hm)
    split at h
    · cases h
    · next found => exact later (found.trans h)
    · split at h
      · obtain ⟨ms, read, same⟩ := Option.map_eq_some_iff.mp h
        obtain rfl := Option.some.inj same
        exact fits_messagesOfValue? v outer ms (fits (key, v) List.mem_cons_self) read
      · cases h

/-- The objects of messages that have been read from an array are within the limits. -/
theorem fits_messagesOfValue? : ∀ (v : Value) (outer : Nat) (ms : List Message),
    v.Fits Number.IsShort outer → messagesOfValue? v = some ms →
    ∀ m ∈ ms, m.toValue.Fits Number.IsWritable (outer + 1)
  | .array items, outer, ms, fit, h => by
    rw [messagesOfValue?] at h
    exact fits_messagesOfItems? items (outer + 1) ms (Json.fits_array.mp fit).2 h
  | .null, _, _, _, h => nomatch h
  | .bool _, _, _, _, h => nomatch h
  | .number _, _, _, _, h => nomatch h
  | .string _, _, _, _, h => nomatch h
  | .object _, _, _, _, h => nomatch h

/-- The objects of messages that have been read from items are within the limits. -/
theorem fits_messagesOfItems? : ∀ (items : List Value) (outer : Nat) (ms : List Message),
    (∀ v ∈ items, v.Fits Number.IsShort outer) → messagesOfItems? items = some ms →
    ∀ m ∈ ms, m.toValue.Fits Number.IsWritable outer
  | [], _, _, _, h => by
    rw [messagesOfItems?] at h
    obtain rfl := Option.some.inj h
    simp
  | v :: rest, outer, ms, fits, h => by
    rw [messagesOfItems?] at h
    split at h
    · cases h
    · next m first =>
      obtain ⟨others, read, rfl⟩ := Option.map_eq_some_iff.mp h
      intro n hn
      rcases List.mem_cons.mp hn with rfl | hn
      · exact Message.fits_toValue v outer _ (fits v List.mem_cons_self) first
      · exact fits_messagesOfItems? rest outer others
          (fun w hw => fits w (List.mem_cons_of_mem _ hw)) read n hn
end

/-- **Reading, writing and reading again ends where it began**: a message that has been
read, in whatever form its record had, is read from the text of its object as well. -/
theorem Message.read?_reread {record : List Char} {m : Message}
    (h : Message.read? record = some m) : Message.read? m.toValue.write = some m := by
  obtain ⟨v, read, message⟩ := Option.bind_eq_some_iff.mp h
  exact Message.read?_write_toValue
    (Message.fits_toValue v 0 m (Json.fits_of_read? read) message)

end OwnerBuild.Rustc
