import Catalog.Proofs.Store.Course
import Catalog.Proofs.Sync.Reconcile
import Catalog.Sync.Sweep

/-!
Calls that may be cut off. While the file is active, what the operating system refuses in the course
of a call can only make the call fail: it goes as in calm weather, or it ends in a fault and has
written nothing.
-/
namespace Catalog.Sync

open Json Store

variable {δ : Type} {s : Storage δ} {docs : List Value} {listing : Listing}

/-- The work ended in a fault, and only identities are gone. -/
def CutOff (ran : Except ε α × Storage δ) (s : Storage δ) : Prop :=
  ∃ fault requests, ran = (.error fault, s.after requests)

theorem CutOff.bind {first : Work δ α} {next : α → Work δ β} (cut : CutOff (first s) s) :
    CutOff ((first >>= next) s) s := by
  obtain ⟨fault, requests, failed⟩ := cut
  exact ⟨fault, requests, Session.bind_error failed⟩

theorem CutOff.behind {requests : Nat} {ran : Except ε α × Storage δ}
    (cut : CutOff ran (s.after requests)) : CutOff ran s := by
  obtain ⟨fault, more, failed⟩ := cut
  exact ⟨fault, requests + more, failed.trans (by rw [Storage.after_after])⟩

variable [Service δ] (course : Course)

theorem ask_course (request : Request α) (here : s.active = .file) :
    course.ask request s = Session.ask (course.clock s.issued) request s ∨
      CutOff (course.ask request s) s :=
  (course.ask_cases request here).imp_right fun ⟨fault, failed⟩ => ⟨fault, 1, failed⟩

/-- What a filter finds does not hang on the time. -/
theorem findOne_course (clock : Time.Instant) (filter : Query.Filter) (holds : s.Holds docs) :
    Session.findOneBy course.ask filter s = Session.findOne clock filter s ∨
      CutOff (Session.findOneBy course.ask filter s) s := by
  rcases ask_course course (.find filter { limit := some 1 }) holds.active with calm | cut
  · have found := calm.trans (Session.ask_read _ _ holds rfl rfl)
    have foundThen := Session.ask_read clock (.find filter { limit := some 1 }) holds rfl rfl
    refine .inl ?_
    rw [Session.findOne, Session.findOneBy, Session.findOneBy, Session.bind_ok found,
      Session.bind_ok foundThen]
  · exact .inr cut.bind

theorem findPrevious_course (clock : Time.Instant) (keys : List Query.Filter)
    (holds : s.Holds docs) :
    findPreviousBy course.ask keys s = findPreviousBy (Session.ask clock) keys s ∨
      CutOff (findPreviousBy course.ask keys s) s := by
  induction keys generalizing s with
  | nil => exact .inl rfl
  | cons key keys ih =>
    rcases findOne_course course clock key holds with calm | cut
    · have found := calm.trans (Session.findOne_run clock key holds)
      rw [findPrevious_cons clock key keys holds, findPreviousBy, Session.bind_ok found]
      cases docs.find? (Query.selects key) with
      | some doc => exact .inl rfl
      | none => exact (ih (holds.after 1)).imp_right CutOff.behind
    · exact .inr cut.bind

/-- What is written is stamped by the clock of its own request. -/
theorem reconcileListing_course (now : Time.Instant) (window : Window) (listing : Listing)
    (holds : s.Holds docs) :
    (∃ clock, reconcileListingBy course.ask now window listing s =
        reconcileListing clock now window listing s) ∨
      CutOff (reconcileListingBy course.ask now window listing s) s := by
  obtain ⟨requests, found, searched⟩ : ∃ requests found, ∀ clock,
      findPreviousBy (Session.ask clock) listing.candidates s = (.ok found, s.after requests) := by
    rcases unmatched_or_match listing.candidates docs with unmatched | ⟨⟨m⟩⟩
    · exact ⟨_, none, fun clock => findPrevious_unmatched clock holds unmatched⟩
    · exact ⟨_, some (m.key, m.doc), fun clock => findPrevious_match clock holds m⟩
  have stays := (holds.after requests).active
  let clock := course.clock (s.after requests).issued
  rcases findPrevious_course course clock listing.candidates holds with calm | cut
  · unfold reconcileListing reconcileListingBy
    rw [Session.bind_ok (calm.trans (searched clock))]
    -- At most one write follows the look-ups.
    cases found with
    | none =>
      rcases ask_course course (.upsert [.either listing.candidates] (listing.toDocument now)) stays
        with wrote | cut
      · refine .inl ⟨clock, ?_⟩
        rw [Session.bind_ok (searched clock)]
        exact Session.bind_congr wrote
      · exact .inr cut.bind.behind
    | some pair =>
      obtain ⟨key, existing⟩ := pair
      cases outdated : needsUpdate existing (listing.toDocument now) now window with
      | true =>
        rcases ask_course course (.upsert _ (listing.toDocument now)) stays with wrote | cut
        · refine .inl ⟨clock, ?_⟩
          rw [Session.bind_ok (searched clock)]
          simp only [outdated, if_true]
          exact Session.bind_congr wrote
        · simp only [outdated, if_true]
          exact .inr cut.bind.behind
      | false =>
        refine .inl ⟨clock, ?_⟩
        rw [Session.bind_ok (searched clock)]
        simp only [outdated, Bool.false_eq_true, if_false]
  · exact .inr cut.bind

theorem reconcileListing_course_unreadable (now : Time.Instant) (window : Window)
    {fault : Store.Fault} (keyed : listing.candidates ≠ []) (here : s.active = .file)
    (unreadable : s.file.load = .error fault) :
    CutOff (reconcileListingBy course.ask now window listing s) s := by
  cases keys : listing.candidates with
  | nil => exact absurd keys keyed
  | cons key weaker =>
    have asked : CutOff (course.ask (.find key { limit := some 1 }) s) s := by
      rcases ask_course course (.find key { limit := some 1 }) here with calm | cut
      · exact ⟨fault, 1, calm.trans (Session.ask_unreadable _ _ here rfl unreadable)⟩
      · exact cut
    unfold reconcileListingBy
    rw [keys]
    exact asked.bind.bind.bind

/-- A call is one of the program, at the time of its write, or it is cut off. -/
theorem reconcileBy_course (now : Time.Instant) (window : Window) (record : Value)
    (here : s.active = .file) :
    (∃ clock, reconcileBy course.ask now window record s = reconcile clock now window record s) ∨
      CutOff (reconcileBy course.ask now window record s) s := by
  by_cases keyed : ∃ listing, Listing.ofValue record = .ok listing ∧ listing.candidates ≠ []
  · obtain ⟨listing, accepted, some_key⟩ := keyed
    rw [reconcileBy_accepted course.ask now window accepted some_key]
    simp only [reconcile_accepted _ now window accepted some_key]
    have failing : CutOff (reconcileListingBy course.ask now window listing s) s →
        CutOff ((reconcileListingBy course.ask now window listing s).1.mapError Failure.storage,
          (reconcileListingBy course.ask now window listing s).2) s := by
      rintro ⟨fault, requests, failed⟩
      exact ⟨.storage fault, requests, by rw [failed]; rfl⟩
    cases load : s.file.load with
    | error fault =>
      exact .inr (failing (reconcileListing_course_unreadable course now window some_key here load))
    | ok docs =>
      rcases reconcileListing_course course now window listing ⟨here, load⟩ with ⟨clock, same⟩ | cut
      · exact .inl ⟨clock, by rw [same]⟩
      · exact .inr (failing cut)
  · have resting := fun (ask : {α : Type} → Request α → Work δ α) =>
      reconcileBy_resting ask now window (unkeyed_of_not keyed) s
    exact .inl ⟨course.clock s.issued, (resting course.ask).trans (resting _).symm⟩

theorem sweepBy_course (now : Time.Instant) (here : s.active = .file) :
    (∃ clock, sweepBy course.ask now s = sweep clock now s) ∨ CutOff (sweepBy course.ask now s) s :=
  (ask_course course _ here).imp_left fun calm => ⟨_, calm⟩

end Catalog.Sync
