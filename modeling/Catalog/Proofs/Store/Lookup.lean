import Catalog.Proofs.Store.Changes
import Catalog.Proofs.Store.Identity
import Catalog.Proofs.Store.Session

/-!
Two ways to a document by its identity: the lookup compares texts, the filter for an identity asks
as every filter does, where dates are instants and lists are searched. Main statement: over every
collection the two find the same document just if no document ahead of the one sought passes for
it; an update by identity and an upsert by its filter then write the same.
-/
namespace Catalog.Store

open Json

variable {doc : Value} {docs : List Value} {id : String}

/-- A query for the identity takes the value for it: it is the same text or, if both read as dates,
another one for the same instant. -/
def CountsAs (id : String) (v : Value) : Prop :=
  v = .text id ∨ ∃ t, v.instant? = some t ∧ Time.Instant.parse? id = some t

/-- The document has another identity, but a query for the given one selects it. -/
inductive PassesFor (id : String) (doc : Value) : Prop
  | respelled {other : String} (own : doc.member? Field.id = some (.text other))
    (apart : other ≠ id) (counts : CountsAs id (.text other))
  | listed {elements : List Value} {v : Value} (own : doc.member? Field.id = some (.array elements))
    (inside : v ∈ elements) (counts : CountsAs id v)

/-- Nothing passes for the identity ahead of the first document that has it. -/
def Undisputed (id : String) (docs : List Value) : Prop :=
  ∀ doc ∈ docs.takeWhile (fun doc => !Collection.hasId id doc), ¬ PassesFor id doc

theorem equal_text_iff {v : Value} : Query.equal v (.text id) = true ↔ CountsAs id v := by
  unfold Query.equal CountsAs
  split
  · rename_i x y first second
    rw [beq_iff_eq]
    constructor
    · rintro rfl
      exact .inr ⟨x, first, second⟩
    · rintro (rfl | ⟨t, read, sought⟩)
      · exact Option.some.inj (first.symm.trans second)
      · cases first.symm.trans read
        exact Option.some.inj (sought.symm.trans second)
  · rename_i unread
    have apart : ¬ ∃ t, v.instant? = some t ∧ Time.Instant.parse? id = some t :=
      fun ⟨t, first, second⟩ => unread t t first second
    rw [or_iff_left apart]
    cases v <;> simp [Value.same]

theorem hasId_iff : Collection.hasId id doc = true ↔ doc.member? Field.id = some (.text id) := by
  rw [Collection.hasId, beq_iff_eq]
  constructor
  · exact member_id
  · intro own
    rw [Document.id?, own]

/-- The filter for an identity asks for equality with the identity, at the member that holds it. -/
theorem selects_byId_eq_holds : Query.selects (Query.Filter.byId id) doc =
    (Query.Condition.eq (.text id)).holds (doc.member? Field.id) := by
  have path : segments Field.id = [Field.id] := by decide
  have found : Document.resolve doc Field.id = doc.member? Field.id := by
    simp only [Document.resolve, path, Document.select]
    cases doc.member? Field.id <;> rfl
  simp [Query.Filter.byId, Query.Filter.eq, Query.selects, Query.clauseHolds, found]

theorem hasId_or_passes_of_counts {v : Value} (own : doc.member? Field.id = some v)
    (counts : CountsAs id v) : Collection.hasId id doc = true ∨ PassesFor id doc := by
  rw [hasId_iff, own]
  by_cases same : v = .text id
  · exact .inl (congrArg some same)
  · cases v with
    | text other =>
      exact .inr (.respelled own (fun equal => same (congrArg Value.text equal)) counts)
    | null | bool | number | array | object =>
      rcases counts with equal | ⟨t, read, -⟩
      · exact absurd equal same
      · cases read

theorem selects_byId_iff : Query.selects (Query.Filter.byId id) doc = true ↔
    Collection.hasId id doc = true ∨ PassesFor id doc := by
  simp only [selects_byId_eq_holds, Query.Condition.holds, Bool.or_eq_true, equal_text_iff]
  constructor
  · intro selected
    cases own : doc.member? Field.id with
    | none =>
      rw [own] at selected
      rcases selected with (same | ⟨t, read, -⟩) | inside
      · cases same
      · cases read
      · cases inside
    | some v =>
      rw [own] at selected
      rcases selected with counts | inside
      · exact hasId_or_passes_of_counts own counts
      · split at inside
        · rename_i elements held
          cases held
          obtain ⟨v, member, counts⟩ := List.any_eq_true.mp (Bool.and_eq_true_iff.mp inside).2
          exact .inr (.listed own member (equal_text_iff.mp counts))
        · cases inside
  · rintro (own | ⟨own, -, counts⟩ | ⟨own, inside, counts⟩)
    · rw [hasId_iff.mp own]
      exact .inl (.inl rfl)
    · rw [own]
      exact .inl counts
    · rw [own]
      exact .inr (List.any_eq_true.mpr ⟨_, inside, equal_text_iff.mpr counts⟩)

theorem undisputed_iff : Undisputed id docs ↔
    ∀ doc ∈ docs.takeWhile (fun doc => !Collection.hasId id doc),
      Query.selects (Query.Filter.byId id) doc = false := by
  refine forall₂_congr fun doc ahead => ?_
  have other : ¬ Collection.hasId id doc = true := by
    simpa using List.all_eq_true.mp List.all_takeWhile doc ahead
  rw [← Bool.not_eq_true, selects_byId_iff, or_iff_right other]

/-- Identities that storage hands out are never disputed. -/
theorem undisputed_of_identified
    (identified : ∀ doc ∈ docs, ∃ own, Document.id? doc = some own ∧ IsIdentity own) (id : String) :
    Undisputed id docs := by
  intro doc ahead passes
  obtain ⟨own, has, known⟩ := identified doc ((List.takeWhile_sublist _).mem ahead)
  have text := member_id has
  rcases passes with ⟨held, apart, same | ⟨t, read, -⟩⟩ | ⟨held, -, -⟩
  · exact apart (Value.text.inj same)
  · cases text.symm.trans held
    cases known.not_date.symm.trans read
  · cases text.symm.trans held

namespace Collection

/-- A looser test that passes nothing ahead of the first item changes the same item. -/
theorem reviseFirst_congr {test loose : Value → Bool} (change : Value → Except Fault Value)
    (implies : ∀ doc, test doc = true → loose doc = true)
    (ahead : ∀ doc ∈ docs.takeWhile (fun doc => !test doc), loose doc = false) :
    reviseFirst loose change docs = reviseFirst test change docs := by
  induction docs with
  | nil => rfl
  | cons doc docs ih =>
    cases passes : test doc with
    | true => simp [reviseFirst, passes, implies doc passes]
    | false =>
      rw [List.takeWhile_cons_of_pos (by simp [passes])] at ahead
      obtain ⟨here, later⟩ := List.forall_mem_cons.mp ahead
      simp [reviseFirst, passes, here, ih later]

theorem hasId_selects (doc : Value) (has : hasId id doc = true) :
    Query.selects (Query.Filter.byId id) doc = true :=
  selects_byId_iff.mpr (.inl has)

end Collection

namespace Session

variable {δ : Type} [Service δ] {s t : Storage δ} {now : Time.Instant} {record patch : Value}

theorem findById_run (now : Time.Instant) (id : String) (holds : s.Holds docs) :
    ask now (.findById id) s = (.ok (docs.find? (Collection.hasId id)), s.after 1) :=
  ask_read now _ holds rfl rfl

/-- Where nothing is disputed, an update by identity and an upsert by its filter write the same
record to the same place. -/
theorem upsert_eq_update (holds : s.Holds docs) (undisputed : Undisputed id docs) :
    ask now (.upsert (Query.Filter.byId id) patch) s = (.ok ⟨false, record⟩, t) ↔
      ask now (.update id patch) s = (.ok (some record), t) := by
  have same := Collection.reviseFirst_congr (Collection.revise now patch) Collection.hasId_selects
    (undisputed_iff.mp undisputed)
  change s.answer now (.upsert (Query.Filter.byId id) patch) = _ ↔
    s.answer now (.update id patch) = _
  rw [Storage.answer_file now _ holds.active, Storage.answer_file now _ holds.active]
  simp only [File.answer, Collection.refusal?, holds.loaded, Collection.answer, same]
  generalize
    Collection.reviseFirst (Collection.hasId id) (Collection.revise now patch) docs = revised
  cases revised with
  | error fault => simp [bind, Except.bind]
  | ok found =>
    cases found with
    | some written => simp [bind, Except.bind]
    | none =>
      -- the upsert creates, and the update finds nothing
      cases Collection.stamped ⟨now, s.ids s.issued⟩ patch <;> simp [bind, Except.bind]

/-- The lookup of an identity and the filter for it answer alike just if nothing passes for the
identity ahead of the document that has it; what an update by identity writes is then what an upsert
by the filter does. Of a file that cannot be read both answer its fault. -/
theorem lookups_agree_iff (s : Storage δ) (now : Time.Instant) (id : String)
    (active : s.active = .file) :
    (∀ docs, s.file.load = .ok docs →
      (findOne now (Query.Filter.byId id) s = ask now (.findById id) s ↔ Undisputed id docs) ∧
      (Undisputed id docs → ∀ patch record t,
        ask now (.upsert (Query.Filter.byId id) patch) s = (.ok ⟨false, record⟩, t) ↔
          ask now (.update id patch) s = (.ok (some record), t))) ∧
    ∀ fault, s.file.load = .error fault →
      findOne now (Query.Filter.byId id) s = (.error fault, s.after 1) ∧
      ask now (.findById id) s = (.error fault, s.after 1) := by
  refine ⟨fun docs loaded => ?_, fun fault unreadable => ?_⟩
  · have holds : s.Holds docs := ⟨active, loaded⟩
    refine ⟨?_, fun undisputed patch record t => upsert_eq_update holds undisputed⟩
    rw [findOne_run now _ holds, findById_run now id holds, undisputed_iff,
      ← find?_eq_find?_iff Collection.hasId_selects, Prod.mk.injEq, Except.ok.injEq,
      and_iff_left rfl]
  · exact ⟨bind_error (ask_unreadable now _ active rfl unreadable),
      ask_unreadable now _ active rfl unreadable⟩

/-- Two documents with the given identities. -/
def namedTwice (first second : String) : List Value :=
  [.object [("id", .text first)], .object [("id", .text second)]]

/-- Their collection. -/
def namedShelf (first second : String) : Storage := .fileOnly ⟨"named.json", .text
  ("[\x7b\"id\":\"" ++ first ++ "\"\x7d,\x7b\"id\":\"" ++ second ++ "\"\x7d]")⟩

theorem lookups_agree_iff_identified :
    (namedShelf "a" "b").active = .file ∧
      (namedShelf "a" "b").file.load = .ok (namedTwice "a" "b") ∧
      findOne ⟨5, 0⟩ (Query.Filter.byId "b") (namedShelf "a" "b") =
        ask ⟨5, 0⟩ (.findById "b") (namedShelf "a" "b") ∧
      (namedTwice "a" "b").find? (Collection.hasId "b") = some (.object [("id", .text "b")]) := by
  have undisputed : Undisputed "b" (namedTwice "a" "b") := by
    refine undisputed_of_identified (List.forall_mem_cons.mpr ⟨⟨"a", rfl, ?_⟩,
      List.forall_mem_singleton.mpr ⟨"b", rfl, ?_⟩⟩) "b" <;> decide
  obtain ⟨agree, -⟩ := (lookups_agree_iff (namedShelf "a" "b") ⟨5, 0⟩ "b" rfl).1 _ rfl
  exact ⟨rfl, rfl, agree.mpr undisputed, rfl⟩

/-- The filter for the second identity finds the first document, which has another one. -/
theorem respelled_identity_found :
    (namedShelf "2026-01-01T00:00:00Z" "2026-01-01").active = .file ∧
      (namedShelf "2026-01-01T00:00:00Z" "2026-01-01").file.load =
        .ok (namedTwice "2026-01-01T00:00:00Z" "2026-01-01") ∧
      ask ⟨5, 0⟩ (.findById "2026-01-01") (namedShelf "2026-01-01T00:00:00Z" "2026-01-01") =
        (.ok (some (.object [("id", .text "2026-01-01")])),
          (namedShelf "2026-01-01T00:00:00Z" "2026-01-01").after 1) ∧
      findOne ⟨5, 0⟩ (Query.Filter.byId "2026-01-01")
          (namedShelf "2026-01-01T00:00:00Z" "2026-01-01") =
        (.ok (some (.object [("id", .text "2026-01-01T00:00:00Z")])),
          (namedShelf "2026-01-01T00:00:00Z" "2026-01-01").after 1) := by
  have holds : (namedShelf "2026-01-01T00:00:00Z" "2026-01-01").Holds
      (namedTwice "2026-01-01T00:00:00Z" "2026-01-01") := ⟨rfl, rfl⟩
  refine ⟨holds.active, holds.loaded, findById_run _ _ holds, ?_⟩
  have passes : Query.selects (Query.Filter.byId "2026-01-01")
      (.object [("id", .text "2026-01-01T00:00:00Z")]) = true := by decide +kernel
  rw [findOne_run _ _ holds, namedTwice, List.find?_cons_of_pos passes]

end Session

end Catalog.Store
