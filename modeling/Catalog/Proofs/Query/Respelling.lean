import Catalog.Proofs.Query.Clauses
import Catalog.Proofs.Query.Texts

/-!
Dates spelled another way. An instant has many spellings, by offset, fraction, blanks or as a bare
date, and a query without patterns and nested literals asks for the instant alone. Main statement:
where a document holds a date, spelling it another way changes no answer of such a query.
-/
namespace Catalog.Query

open Json Time

/-- One text that reads as a date, anywhere in the document, gives way to a text that reads as the
same instant. -/
inductive Respells : Value → Value → Prop
  | text {s t : String} {instant : Instant} (first : Instant.parse? s = some instant)
    (second : Instant.parse? t = some instant) : Respells (.text s) (.text t)
  | item (before after : List Value) {v w : Value} (inner : Respells v w) :
    Respells (.array (before ++ v :: after)) (.array (before ++ w :: after))
  | member (before after : Members) (name : String) {v w : Value} (inner : Respells v w) :
    Respells (.object (before ++ (name, v) :: after)) (.object (before ++ (name, w) :: after))

/-- A bound that, if it is a text, reads as a date. -/
def Dated (bound : Value) : Prop := ∀ s, bound = .text s → (Instant.parse? s).isSome

/-- No patterns, no arrays or objects to be equal to, and no texts as bounds but dates. -/
def Condition.Plain : Condition → Prop
  | .eq literal => isCompound literal = false
  | .regex _ => False
  | .gte bound | .lt bound => Dated bound
  | .oneOf items => ∀ item ∈ items, ∃ literal, item = .value literal ∧ isCompound literal = false

variable {a b v w : Value}

theorem instant?_respelled (respelled : Respells v w) : v.instant? = w.instant? := by
  cases respelled with
  | text first second => exact first.trans second.symm
  | item | member => rfl

theorem equal_respelled {literal : Value} (simple : Condition.isCompound literal = false)
    (respelled : Respells v w) : equal v literal = equal w literal := by
  cases respelled with
  | text first second =>
    cases literal with
    | text u => rw [Bool.eq_iff_iff, equal_text_iff, equal_text_iff, first, second]; simp
    | null | bool | number => simp [equal, Value.instant?, Value.same]
    | array | object => cases simple
  | item | member => rw [equal_compound rfl simple, equal_compound rfl simple]

theorem compareToBound_respelled {bound : Value} (dated : Dated bound) (respelled : Respells v w) :
    compareToBound v bound = compareToBound w bound := by
  unfold compareToBound
  rw [instant?_respelled respelled]
  cases read : bound.instant? with
  | some => rfl
  | none =>
    -- What is left are numbers and booleans, which compare with no text, array or object.
    cases bound with
    | text s => simp [Value.instant?, Option.isSome_iff_ne_none.mp (dated s rfl)] at read
    | null | bool | number | array | object => cases respelled <;> rfl

theorem any_tried_respelled {test : Value → Bool}
    (alike : ∀ v w, Respells v w → test v = test w) (respelled : Respells v w) :
    (tried (some v)).any test = (tried (some w)).any test := by
  have single := alike v w respelled
  cases respelled with
  | text | member => simp only [tried, Option.getD_some, List.any_cons, single]
  | item before after inner =>
    simp only [tried, List.any_append, List.any_cons, alike _ _ inner]

theorem holds_respelled {condition : Condition} (plain : condition.Plain)
    (respelled : Respells v w) : condition.holds (some v) = condition.holds (some w) := by
  cases condition with
  | eq literal =>
    rw [holds_eq plain, holds_eq plain]
    exact any_tried_respelled (fun _ _ inner => equal_respelled plain inner) respelled
  | regex => exact plain.elim
  | gte bound | lt bound =>
    simp only [Condition.holds, Option.bind_some, compareToBound_respelled plain respelled]
  | oneOf items =>
    rw [holds_oneOf, holds_oneOf]
    refine any_tried_respelled (fun v w inner => ?_) respelled
    rw [Bool.eq_iff_iff, List.any_eq_true, List.any_eq_true]
    refine exists_congr fun item => and_congr_right fun member => ?_
    obtain ⟨literal, rfl, simple⟩ := plain item member
    rw [Item.admits, Item.admits, equal_respelled simple inner]

theorem get?_respelled (before after : Members) (name other : String) (v w : Value) :
    Members.get? other (before ++ (name, v) :: after) =
        Members.get? other (before ++ (name, w) :: after) ∨
      (Members.get? other (before ++ (name, v) :: after) = some v ∧
        Members.get? other (before ++ (name, w) :: after) = some w) := by
  rw [Members.get?_append, Members.get?_append]
  cases Members.get? other before with
  | some => exact .inl rfl
  | none =>
    by_cases same : name = other
    · exact .inr (by simp [Members.get?, same])
    · exact .inl (by simp [Members.get?, same])

/-- A path leads to the same value in both documents, or to the place of the date in both. -/
theorem select_respelled (respelled : Respells a b) (names : List String) :
    Document.select a names = Document.select b names ∨
      ∃ v w, Document.select a names = some v ∧ Document.select b names = some w ∧
        Respells v w := by
  induction names generalizing a b with
  | nil => exact .inr ⟨a, b, rfl, rfl, respelled⟩
  | cons other names ih =>
    cases respelled with
    | text | item => exact .inl rfl
    | member before after name inner =>
      simp only [Document.select, Value.member?]
      rcases get?_respelled before after name other _ _ with same | ⟨first, second⟩
      · rw [same]
        exact .inl rfl
      · rw [first, second]
        exact ih inner

/-- A plain query answers alike for documents that differ in the spelling of a date. -/
theorem respelling_keeps_answers (respelled : Respells a b) {f : Filter}
    (plain : ∀ c ∈ conditions f, c.2.Plain) : selects f a = selects f b := by
  refine selects_congr f fun c member => ?_
  rcases select_respelled respelled (segments c.1) with same | ⟨v, w, first, second, inner⟩
  · rw [MeetAlike, Document.resolve, Document.resolve, same]
  · rw [MeetAlike, Document.resolve, Document.resolve, first, second]
    exact holds_respelled (plain c member) inner

/-- A document with a list of days, the second in the given spelling. -/
def dayList (second : String) : Value :=
  .object [("days", .array [.text "open", .text second]), ("seats", .ofInt 40)]

/-- A query with a date to be equal to, one among some items and one as a bound. -/
def dayFilter : Filter :=
  [.either [[.field "days" (.eq (.text "2026-11-02T19:00:00-05:00"))],
      [.field "days" (.oneOf [.value .null, .value (.text "2026-11-09")]),
        .field "days" (.lt (.text "2026-11-10"))]],
    .field "seats" (.gte (.ofInt 1))]

theorem respelling_keeps_answers_days :
    Respells (dayList "2026-11-03") (dayList " 2026-11-03T05:30:00.000+05:30") ∧
      (∀ c ∈ conditions dayFilter, c.2.Plain) ∧
      selects dayFilter (dayList "2026-11-03") =
        selects dayFilter (dayList " 2026-11-03T05:30:00.000+05:30") := by
  have early : Instant.parse? "2026-11-03" = some ⟨1793664000, 0⟩ := by decide +kernel
  have late : Instant.parse? " 2026-11-03T05:30:00.000+05:30" = some ⟨1793664000, 0⟩ := by
    decide +kernel
  have respelled : Respells (dayList "2026-11-03") (dayList " 2026-11-03T05:30:00.000+05:30") :=
    .member [] _ "days" (.item [.text "open"] [] (.text early late))
  have bound : (Instant.parse? "2026-11-10").isSome := by decide +kernel
  have plain : ∀ c ∈ conditions dayFilter, c.2.Plain := by
    simp [dayFilter, conditions, clauseConditions, alternativeConditions, Condition.Plain,
      Condition.isCompound, bound, Dated, Value.ofInt]
  exact ⟨respelled, plain, respelling_keeps_answers respelled plain⟩

end Catalog.Query
