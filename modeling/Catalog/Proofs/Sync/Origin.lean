import Catalog.Proofs.Document.Reread
import Catalog.Proofs.Sync.Sweep
import Catalog.Proofs.Sync.Written

/-!
Where stored documents come from. Reconciling gives every document the platform and identity of
one listing, and neither the sweep nor the file changes them, so the key by platform and identity
selects exactly the documents that claim the same listing.
-/
namespace Catalog.Sync

open Json Store

/-- The value at a path, unless it is missing, null or blank. -/
def filled? (doc : Value) (path : String) : Option Value :=
  match Document.resolve doc path with
  | some .null => none
  | some (.text s) => if Text.isBlankText s then none else some (.text s)
  | found => found

/-- Platform and identity at the source of a document, if both are given. -/
def sourceKey? (doc : Value) : Option (Value × Value) :=
  match filled? doc Field.platform, filled? doc Field.sourceId with
  | some platform, some id => some (platform, id)
  | _, _ => none

/-- Both documents claim one listing of one platform. -/
def SameKey (a b : Value) : Prop :=
  ∃ j k, sourceKey? a = some j ∧ sourceKey? b = some k ∧
    Query.equal j.1 k.1 = true ∧ Query.equal j.2 k.2 = true

/-- The document names the origin of a listing. -/
structure ComesFrom (origin : Listing.Origin) (doc : Value) : Prop where
  platform : Document.resolve doc Field.platform = some (.text origin.platform)
  sourceId : Document.resolve doc Field.sourceId = origin.sourceId.map .text

namespace ComesFrom

variable {o p : Listing.Origin} {doc other : Value}

theorem listing (l : Listing) (now : Time.Instant) : ComesFrom l.origin (l.toDocument now) :=
  ⟨l.resolve_platform now, l.resolve_sourceId now⟩

theorem of_source (from_origin : ComesFrom o doc)
    (agree : ∀ rest, Document.select other ("source" :: rest) = Document.select doc ("source" :: rest)) :
    ComesFrom o other where
  platform := (agree ["platform"]).trans from_origin.platform
  sourceId := (agree ["source_id"]).trans from_origin.sourceId

theorem newDocument (l : Listing) (now clock : Time.Instant) (id : String) :
    ComesFrom l.origin (newDocument l now id clock) :=
  (listing l now).of_source fun rest => select_newDocument (by decide) rest

theorem rewritten (l : Listing) (now clock : Time.Instant) (doc : Value) :
    ComesFrom l.origin (rewritten doc l now clock) :=
  (listing l now).of_source fun rest => select_rewritten (by decide) rest

theorem swept (from_origin : ComesFrom o doc) (clock now : Time.Instant) :
    ComesFrom o (swept clock now doc) where
  platform := (select_swept (by decide) (by decide) (by decide)).trans from_origin.platform
  sourceId := (select_swept (by decide) (by decide) (by decide)).trans from_origin.sourceId

theorem reread (from_origin : ComesFrom o doc) (read : doc.Rereads other) : ComesFrom o other where
  platform := by
    refine (Document.resolve_reread_of_steady read fun v found => ?_).trans from_origin.platform
    rw [from_origin.platform] at found
    cases found
    rfl
  sourceId := by
    refine (Document.resolve_reread_of_steady read fun v found => ?_).trans from_origin.sourceId
    rw [from_origin.sourceId] at found
    obtain ⟨s, _, same⟩ := Option.map_eq_some_iff.mp found
    subst same
    rfl

theorem sourceKey?_eq (from_origin : ComesFrom o doc) :
    sourceKey? doc = o.identity?.map fun key => (.text key.1, .text key.2) := by
  have platform : filled? doc Field.platform = (Listing.solid? o.platform).map .text := by
    simp only [filled?, from_origin.platform, Listing.solid?]
    split <;> rfl
  have id : filled? doc Field.sourceId = (o.sourceId.bind Listing.solid?).map .text := by
    simp only [filled?, from_origin.sourceId]
    cases o.sourceId with
    | none => rfl
    | some i =>
      simp only [Option.map_some, Option.bind_some, Listing.solid?]
      split <;> rfl
  rw [sourceKey?, platform, id, Listing.Origin.identity?]
  cases Listing.solid? o.platform with
  | none => rfl
  | some p => cases o.sourceId.bind Listing.solid? <;> rfl

theorem sameKey_iff (first : ComesFrom o doc) (second : ComesFrom p other) :
    SameKey doc other ↔ ∃ j k, o.identity? = some j ∧ p.identity? = some k ∧
      Query.equal (.text j.1) (.text k.1) = true ∧ Query.equal (.text j.2) (.text k.2) = true := by
  unfold SameKey
  rw [first.sourceKey?_eq, second.sourceKey?_eq]
  cases o.identity? <;> cases p.identity? <;> simp

theorem sameKey_symm (first : ComesFrom o doc) (second : ComesFrom p other)
    (same : SameKey doc other) : SameKey other doc := by
  obtain ⟨j, k, ofFirst, ofSecond, platforms, ids⟩ := (first.sameKey_iff second).mp same
  exact (second.sameKey_iff first).mpr ⟨k, j, ofSecond, ofFirst, Query.equal_symm platforms,
    Query.equal_symm ids⟩

theorem sameKey_trans {q : Listing.Origin} {third : Value} (first : ComesFrom o doc)
    (second : ComesFrom p other) (last : ComesFrom q third) (same : SameKey doc other)
    (again : SameKey other third) : SameKey doc third := by
  obtain ⟨i, j, ofFirst, ofSecond, platforms, ids⟩ := (first.sameKey_iff second).mp same
  obtain ⟨j', k, ofSecond', ofThird, platforms', ids'⟩ := (second.sameKey_iff last).mp again
  rw [ofSecond] at ofSecond'
  cases ofSecond'
  exact (first.sameKey_iff last).mpr ⟨i, k, ofFirst, ofThird,
    Query.equal_trans platforms platforms', Query.equal_trans ids ids'⟩

/-- The key of an identity selects the documents whose origin has that identity. -/
theorem selects_identityKey (from_origin : ComesFrom o doc) {platform id : String}
    (given : p.identity? = some (platform, id)) (second : ComesFrom p other) :
    Query.selects (Listing.identityKey platform id) doc = true ↔ SameKey doc other := by
  obtain ⟨samePlatform, sameId, solidPlatform, solidId⟩ :=
    Listing.Origin.identity?_eq_some.mp given
  have tests : Query.selects (Listing.identityKey platform id) doc = true ↔
      Query.equal (.text o.platform) (.text platform) = true ∧
        ∃ i, o.sourceId = some i ∧ Query.equal (.text i) (.text id) = true := by
    simp only [Listing.identityKey, Query.Filter.eq, Query.selects, Query.clauseHolds,
      from_origin.platform, from_origin.sourceId, Query.holds_text, Bool.and_true,
      Bool.and_eq_true]
    cases o.sourceId with
    | none => simp [Query.holds_absent]
    | some i => simp [Query.holds_text]
  rw [tests, from_origin.sameKey_iff second]
  constructor
  · rintro ⟨platforms, i, held, ids⟩
    have solid : o.identity? = some (o.platform, i) := Listing.Origin.identity?_eq_some.mpr
      ⟨rfl, held, (Query.isBlankText_of_equal platforms).trans solidPlatform,
        (Query.isBlankText_of_equal ids).trans solidId⟩
    exact ⟨_, _, solid, given, platforms, ids⟩
  · rintro ⟨j, k, ofDoc, ofOther, platforms, ids⟩
    rw [given] at ofOther
    cases ofOther
    obtain ⟨held, heldId, -, -⟩ := Listing.Origin.identity?_eq_some.mp (show o.identity? = some (j.1, j.2) from ofDoc)
    exact ⟨held ▸ platforms, j.2, heldId, ids⟩

end ComesFrom

end Catalog.Sync
