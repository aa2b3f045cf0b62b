import Catalog.Proofs.Listing.Keys
import Catalog.Proofs.Sync.Reconcile

/-!
What a document shows after it was written for a listing. Whether it is new or was there before,
under every name that listings' documents have in common it holds what the listing says.
-/
namespace Catalog.Sync

open Json Store

variable {listing : Listing} {now clock : Time.Instant} {doc : Value} {id name : String}

theorem segments_listingField (field : name ∈ listingFields) : segments name = [name] := by
  have single : ∀ field ∈ listingFields, segments field = [field] := by decide
  exact single name field

theorem select_newDocument (present : name ∈ Listing.presentFields) (rest : List String) :
    Document.select (newDocument listing now id clock) (name :: rest) =
      Document.select (listing.toDocument now) (name :: rest) := by
  have apart : ∀ stamp ∈ [Field.id, Field.createdAt, Field.updatedAt],
      ∀ field ∈ Listing.presentFields, (segments stamp).head? ≠ some field := by decide
  have kept := fun stamp member => Document.diverge_of_head (apart stamp member name present) rest
  rw [newDocument, Document.touch, Document.select_set_of_diverge (kept _ (by decide)),
    Document.select_set_of_diverge (kept _ (by decide)),
    Document.select_set_of_diverge (kept _ (by decide))]

theorem select_rewritten (present : name ∈ Listing.presentFields) (rest : List String) :
    Document.select (rewritten doc listing now clock) (name :: rest) =
      Document.select (listing.toDocument now) (name :: rest) := by
  have apart : ∀ field ∈ Listing.presentFields,
      (segments Field.updatedAt).head? ≠ some field ∧ Field.fixed field = false := by decide
  obtain ⟨stamp, free⟩ := apart name present
  obtain ⟨v, member⟩ := Listing.member?_toDocument_present listing now present
  have plain : ∀ m ∈ Document.membersOf (listing.toDocument now), segments m.1 = [m.1] :=
    fun m member => segments_listingField (toDocument_fields listing now m member)
  rw [rewritten, Document.touch,
    Document.select_set_of_diverge (Document.diverge_of_head stamp rest),
    Document.select_merge_member (Listing.sorted_membersOf_toDocument listing now) plain free member]
  simp only [Document.select, member]

theorem id?_newDocument : Document.id? (newDocument listing now id clock) = some id := by
  have set_id : Document.resolve (Document.set (listing.toDocument now) Field.id (.text id))
      Field.id = some (.text id) := Document.resolve_set_self
  have path : segments Field.id = [Field.id] := by decide
  rw [Document.resolve, path, Document.select_one] at set_id
  have held : (newDocument listing now id clock).member? Field.id = some (.text id) := by
    rw [newDocument, Document.touch, Document.member?_set_of_ne (by decide),
      Document.member?_set_of_ne (by decide), set_id]
  rw [Document.id?, held]

theorem wellFormed_newDocument (formed : (listing.toDocument now).WellFormed) :
    (newDocument listing now id clock).WellFormed := by
  have identified : (Document.set (listing.toDocument now) Field.id (.text id)).WellFormed :=
    Document.wellFormed_set formed trivial
  have stamp : (Document.stampValue clock).WellFormed := trivial
  exact Document.wellFormed_touch (Document.wellFormed_set identified stamp) clock

theorem wellFormed_rewritten (formed : doc.WellFormed)
    (listed : (listing.toDocument now).WellFormed) :
    (rewritten doc listing now clock).WellFormed :=
  Document.wellFormed_touch
    (Document.wellFormed_merge formed (Document.formed_membersOf listed)) clock

end Catalog.Sync
