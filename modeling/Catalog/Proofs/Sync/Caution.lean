import Catalog.Proofs.Store.Caution
import Catalog.Sync.Reconcile
import Catalog.Sync.Sweep

/-!
Reconciling and sweeping under any weather. Both look before they write and write once, so whatever
the operating system refuses on the way, a call that fails or reports no change leaves the stored
documents as they were.
-/
namespace Catalog.Sync

open Json Store

variable {δ : Type}

section Cautious

variable {ask : {α : Type} → Request α → Work δ α} {now : Time.Instant} {window : Window}
  (cautious : ∀ {α : Type} (request : Request α), Cautious request.Quiet (ask request))

include cautious

theorem cautious_findOneBy (filter : Query.Filter) :
    Cautious (fun _ => True) (Session.findOneBy ask filter) :=
  (cautious (.find filter { limit := some 1 })).map fun _ _ => trivial

theorem cautious_findPreviousBy (keys : List Query.Filter) :
    Cautious (fun _ => True) (findPreviousBy ask keys) := by
  induction keys with
  | nil => exact cautious_pure _ none
  | cons key keys ih =>
    unfold findPreviousBy
    apply (cautious_findOneBy cautious key).bind
    intro found
    cases found with
    | none => exact ih
    | some doc => exact cautious_pure _ _

theorem cautious_reconcileListingBy (listing : Listing) :
    Cautious (· = .skipped) (reconcileListingBy ask now window listing) := by
  unfold reconcileListingBy
  -- Up to here there are only look-ups; at most one write follows.
  apply (cautious_findPreviousBy cautious listing.candidates).bind
  intro found
  cases found with
  | none =>
    apply (cautious (.upsert [.either listing.candidates] (listing.toDocument now))).map
    intro written skipped
    split at skipped <;> cases skipped
  | some pair =>
    obtain ⟨key, existing⟩ := pair
    dsimp only
    split
    · exact (cautious (.upsert _ (listing.toDocument now))).map fun _ skipped => nomatch skipped
    · exact cautious_pure _ _

theorem cautious_reconcileBy (record : Value) :
    Cautious (· = .skipped) (reconcileBy ask now window record) := by
  intro s
  unfold reconcileBy
  cases Listing.ofValue record with
  | error mismatch => exact ⟨fun _ _ => ⟨rfl, rfl⟩, nofun⟩
  | ok listing =>
    dsimp only
    split
    · exact ⟨fun _ _ => ⟨rfl, rfl⟩, nofun⟩
    · have writing : Cautious (· = .skipped) (reconcileListingBy ask now window listing) :=
        cautious_reconcileListingBy cautious listing
      obtain ⟨failing, quiet⟩ := writing s
      cases ran : reconcileListingBy ask now window listing s with
      | mk result t =>
        rw [ran] at failing quiet
        cases result with
        | error fault => exact ⟨fun _ _ => failing fault rfl, nofun⟩
        | ok outcome =>
          refine ⟨nofun, ?_⟩
          rintro a ⟨⟩ skipped
          exact quiet outcome rfl skipped

theorem cautious_sweepBy : Cautious (· = 0) (sweepBy ask now) :=
  cautious (.updateMany (expired now) (deactivation now))

end Cautious

/-- Whatever stands in the file and whatever the operating system refuses, a call that fails leaves
the file as it was, and so does one that finds, counts, or reports that nothing changed. The same is
true of a database as far as each single request to it keeps to that. In calm weather the calls are
those of the program. -/
theorem failed_calls_change_nothing [Transactional δ] (weather : Nat → Weather)
    (clock now : Time.Instant) (window : Window) (record : Value) :
    (∀ (α : Type) (request : Request α),
      Cautious request.Quiet (Session.askUnder weather clock request : Work δ α)) ∧
    (∀ filter, Cautious (fun _ => True)
      (Session.findOneBy (Session.askUnder weather clock) filter : Work δ (Option Value))) ∧
    Cautious (· = .skipped) (fun s : Storage δ =>
      reconcileBy (Session.askUnder weather clock) now window record s) ∧
    Cautious (· = 0) (sweepBy (Session.askUnder weather clock) now : Work δ Nat) ∧
    (∀ (α : Type) (request : Request α),
      (Session.askUnder (fun _ => .calm) clock request : Work δ α) = Session.ask clock request) ∧
    (∀ filter, (Session.findOneBy (Session.askUnder (fun _ => .calm) clock) filter : Work δ _) =
      Session.findOne clock filter) ∧
    (∀ s : Storage δ, reconcileBy (Session.askUnder (fun _ => .calm) clock) now window record s =
      reconcile clock now window record s) ∧
    (sweepBy (Session.askUnder (fun _ => .calm) clock) now : Work δ Nat) = sweep clock now := by
  have cautious : ∀ {α : Type} (request : Request α),
      Cautious request.Quiet (Session.askUnder weather clock request : Work δ α) :=
    fun request => Session.cautious_askUnder weather clock request
  have calm : (fun {α : Type} (request : Request α) =>
      (Session.askUnder (fun _ => .calm) clock request : Work δ α)) =
        fun {α} request => Session.ask clock request := by
    funext α request
    exact Session.askUnder_calm clock request
  refine ⟨fun _ request => cautious request, cautious_findOneBy cautious,
    cautious_reconcileBy cautious record, cautious_sweepBy cautious,
    fun _ request => Session.askUnder_calm clock request, fun filter => ?_, fun s => ?_, ?_⟩
  · exact congrArg (fun ask : {α : Type} → Request α → Work δ α => Session.findOneBy ask filter) calm
  · exact congrArg (fun ask : {α : Type} → Request α → Work δ α =>
      reconcileBy ask now window record s) calm
  · exact Session.askUnder_calm clock _

end Catalog.Sync
