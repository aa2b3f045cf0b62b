import Catalog.Proofs.Text.Digits
import Catalog.Proofs.Time.Reading
import Catalog.Query.Matching
import Catalog.Store.Facade

/-!
Documents known by identity. Identities are hexadecimal digits, which never read as dates, so the
filter for an identity selects the document that has it and no other.
-/
namespace Catalog.Store

open Json

/-- What the storage hands out as an identity: hexadecimal digits. -/
def IsIdentity (id : String) : Prop := ∀ c ∈ id.toList, (Text.hexValue? c).isSome

instance (id : String) : Decidable (IsIdentity id) :=
  decidable_of_iff (id.toList.all fun c => (Text.hexValue? c).isSome) List.all_eq_true

theorem isIdentity_identity (n : Nat) : IsIdentity (Storage.identity n) := by
  intro c member
  refine Text.hexValue?_of_mem_toDigits (n := Storage.firstIdentity + n) ?_
  simpa [Storage.identity, Text.hexText] using member

theorem identity_injective {m n : Nat} (same : Storage.identity m = Storage.identity n) :
    m = n := by
  have numbers := Text.hexText_injective same
  omega

/-- A source of identities: each is hexadecimal digits, and no two of them are the same. -/
structure Fresh (ids : Nat → String) : Prop where
  known : ∀ n, IsIdentity (ids n)
  injective : ∀ {m n}, ids m = ids n → m = n

theorem fresh_identity : Fresh Storage.identity := ⟨isIdentity_identity, identity_injective⟩

theorem IsIdentity.not_date {id : String} (identity : IsIdentity id) :
    Time.Instant.parse? id = none := by
  cases read : Time.Instant.parse? id with
  | none => rfl
  | some t =>
    have hyphen := identity '-' (Time.Instant.hyphen_of_parse? read)
    exact absurd hyphen (by decide)

/-- Every document has an identity that storage hands out, and no two have the same. -/
structure Assigned (docs : List Value) : Prop where
  identified : ∀ doc ∈ docs, ∃ id, Document.id? doc = some id ∧ IsIdentity id
  distinct : docs.Pairwise fun a b => Document.id? a ≠ Document.id? b

theorem member_id {doc : Value} {id : String} (has : Document.id? doc = some id) :
    doc.member? Field.id = some (.text id) := by
  unfold Document.id? at has
  split at has
  · rename_i s found
    rw [found, Option.some.inj has]
  · cases has

theorem selects_byId {doc : Value} {id other : String} (has : Document.id? doc = some id)
    (known : IsIdentity id) :
    Query.selects (Query.Filter.byId other) doc = (id == other) := by
  have path : segments Field.id = [Field.id] := by decide
  have found : Document.resolve doc Field.id = some (.text id) := by
    simp only [Document.resolve, path, Document.select, member_id has]
  simp [Query.Filter.byId, Query.Filter.eq, Query.selects, Query.clauseHolds, found,
    Query.Condition.holds, Query.equal, Value.instant?, known.not_date, Value.same]

/-- The filter for a document's identity passes over documents with other identities. -/
theorem byId_first {earlier : List Value} {doc : Value} {id : String}
    (has : Document.id? doc = some id) (known : IsIdentity id)
    (identified : ∀ d ∈ earlier, ∃ i, Document.id? d = some i ∧ IsIdentity i)
    (apart : ∀ d ∈ earlier, Document.id? d ≠ Document.id? doc) :
    Query.selects (Query.Filter.byId id) doc = true ∧
      ∀ d ∈ earlier, Query.selects (Query.Filter.byId id) d = false := by
  refine ⟨?_, fun d member => ?_⟩
  · rw [selects_byId has known]
    simp
  · obtain ⟨i, hasOwn, knownOwn⟩ := identified d member
    have differ := apart d member
    rw [selects_byId hasOwn knownOwn]
    rw [hasOwn, has] at differ
    simpa using differ

end Catalog.Store
