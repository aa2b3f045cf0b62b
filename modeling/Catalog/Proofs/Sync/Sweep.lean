import Catalog.Proofs.Store.Changes
import Catalog.Proofs.Store.Session
import Catalog.Sync.Sweep

/-!
What the sweep does to the documents of the file: each one that has expired is deactivated in its
place. Only the activity and the stamps change, wherever they stood before.
-/
namespace Catalog.Sync

open Json Store

variable {δ : Type} [Service δ] {s : Storage δ} {docs : List Value} {clock now : Time.Instant} {doc : Value}

/-- A document after the sweep. -/
def swept (clock now : Time.Instant) (doc : Value) : Value :=
  if Query.selects (expired now) doc then
    Document.touch
      (Document.set (Document.set doc Field.isActive (.bool false)) Field.lastUpdated
        (Document.stampValue now)) clock
  else doc

theorem revise_deactivation (clock now : Time.Instant) (doc : Value) :
    Collection.revise clock (deactivation now) doc =
      .ok (Document.touch
        (Document.set (Document.set doc Field.isActive (.bool false)) Field.lastUpdated
          (Document.stampValue now)) clock) := rfl

theorem reviseAll_expired (clock now : Time.Instant) (docs : List Value) :
    Collection.reviseAll (Query.selects (expired now)) (Collection.revise clock (deactivation now))
      docs = .ok (docs.map (swept clock now)) :=
  Collection.reviseAll_eq_map (revise_deactivation clock now) docs

/-- Where nothing has expired nothing is written. -/
theorem sweep_run (clock now : Time.Instant) (holds : s.Holds docs) :
    sweep clock now s = (.ok (docs.countP (Query.selects (expired now))),
      if docs.countP (Query.selects (expired now)) = 0 then s.after 1
      else s.written 1 (docs.map (swept clock now))) := by
  by_cases none_expired : docs.countP (Query.selects (expired now)) = 0
  · rw [if_pos none_expired]
    refine Session.ask_read clock _ holds rfl ?_
    simp only [Collection.answer, reviseAll_expired]
    simp [none_expired, bind, Except.bind]
  · rw [if_neg none_expired]
    refine Session.ask_write clock _ holds rfl ?_
    simp only [Collection.answer, reviseAll_expired]
    simp [none_expired, bind, Except.bind]

theorem sweep_unreadable (clock now : Time.Instant) {fault : Fault} (active : s.active = .file)
    (unreadable : s.file.load = .error fault) :
    sweep clock now s = (.error fault, s.after 1) :=
  Session.ask_unreadable clock _ active rfl unreadable

/-- What does not lead to the activity or to a stamp is kept. -/
theorem select_swept {names : List String}
    (activity : Document.Diverge (segments Field.isActive) names)
    (lastUpdated : Document.Diverge (segments Field.lastUpdated) names)
    (updated : Document.Diverge (segments Field.updatedAt) names) :
    Document.select (swept clock now doc) names = Document.select doc names := by
  unfold swept
  split
  · rw [Document.touch, Document.select_set_of_diverge updated,
      Document.select_set_of_diverge lastUpdated, Document.select_set_of_diverge activity]
  · rfl

theorem id?_swept : Document.id? (swept clock now doc) = Document.id? doc := by
  refine Document.id?_eq ?_
  rw [← Document.select_one, ← Document.select_one]
  exact select_swept (by decide) (by decide) (by decide)

theorem wellFormed_swept (formed : doc.WellFormed) : (swept clock now doc).WellFormed := by
  have deactivated : (Document.set doc Field.isActive (.bool false)).WellFormed :=
    Document.wellFormed_set formed trivial
  have stamp : (Document.stampValue now).WellFormed := trivial
  unfold swept
  split
  · exact Document.wellFormed_touch (Document.wellFormed_set deactivated stamp) clock
  · exact formed

end Catalog.Sync
