import Catalog.Proofs.Store.Changes
import Catalog.Proofs.Store.Rewrite
import Catalog.Proofs.Store.Session

/-!
Requests that leave the storage as it was: those that fail, for whatever reason, and those whose
answer reports no change. Every failure comes before the only write or is one of the write itself.
-/
namespace Catalog.Store

open Json

variable {δ ε : Type} {weather : Nat → Weather} {now : Time.Instant} {moment : Moment}
  {request : Request α} {docs written : List Value}

/-- The answer reports that nothing was changed. -/
def Request.Quiet : {α : Type} → Request α → α → Prop
  | _, .find _ _, _ => True
  | _, .findById _, _ => True
  | _, .count _, _ => True
  | _, .update _ _, found => found = none
  | _, .updateMany _ _, changed => changed = 0
  | _, .create _, _ => False
  | _, .upsert _ _, _ => False

/-- What is stored is the same; only identities may have been handed out. -/
def Storage.Unchanged (before after : Storage δ) : Prop :=
  after.file = before.file ∧ after.database = before.database

/-- A failure leaves what is stored as it was, and so does an answer that reports no change. -/
def Cautious (quiet : α → Prop) (run : Storage δ → Except ε α × Storage δ) : Prop :=
  ∀ s, (∀ failure, (run s).1 = .error failure → s.Unchanged (run s).2) ∧
    ∀ a, (run s).1 = .ok a → quiet a → s.Unchanged (run s).2

/-- A database that leaves what it holds alone when it fails or reports no change. -/
class Transactional (δ : Type) extends Service δ where
  failed : ∀ {α : Type} {moment : Moment} {request : Request α} {db : δ} {fault : Fault},
    (answer moment request db).1 = .error fault → (answer moment request db).2 = db
  quiet : ∀ {α : Type} {moment : Moment} {request : Request α} {db : δ} {a : α},
    (answer moment request db).1 = .ok a → request.Quiet a → (answer moment request db).2 = db

theorem Storage.Unchanged.trans {first second third : Storage δ} (early : first.Unchanged second)
    (late : second.Unchanged third) : first.Unchanged third :=
  ⟨late.1.trans early.1, late.2.trans early.2⟩

theorem not_quiet_of_written {a : α}
    (answered : Collection.answer moment request docs = .ok (a, some written)) :
    ¬ request.Quiet a := by
  cases request with
  | find | findById | count => cases answered
  | create | upsert => exact id
  | update id patch =>
    obtain ⟨found, first, done⟩ := bind_eq_ok.mp answered
    cases found with
    | none => cases done
    | some pair =>
      cases done
      exact nofun
  | updateMany filter patch =>
    obtain ⟨all, revised, done⟩ := bind_eq_ok.mp answered
    simp only [Except.ok.injEq, Prod.mk.injEq] at done
    obtain ⟨same, stored⟩ := done
    intro none_changed
    have none_changed : a = 0 := none_changed
    rw [same, none_changed] at stored
    cases stored

theorem File.answer_unchanged (moment : Moment) (request : Request α) (file : File) :
    (∀ fault, (file.answer moment request).1 = .error fault →
        (file.answer moment request).2 = file) ∧
      ∀ a, (file.answer moment request).1 = .ok a → request.Quiet a →
        (file.answer moment request).2 = file := by
  unfold File.answer
  cases Collection.refusal? request with
  | some fault => exact ⟨fun _ _ => rfl, nofun⟩
  | none =>
    dsimp only
    cases file.load with
    | error fault => exact ⟨fun _ _ => rfl, nofun⟩
    | ok docs =>
      dsimp only
      cases answered : Collection.answer moment request docs with
      | error fault => exact ⟨fun _ _ => rfl, nofun⟩
      | ok pair =>
        obtain ⟨a, stored⟩ := pair
        cases stored with
        | none => exact ⟨nofun, fun _ _ _ => rfl⟩
        | some written =>
          refine ⟨nofun, ?_⟩
          rintro b ⟨⟩ quiet
          exact absurd quiet (not_quiet_of_written answered)

theorem File.answerUnder_unchanged (weather : Weather) (moment : Moment) (request : Request α)
    (file : File) :
    (∀ fault, (file.answerUnder weather moment request).1 = .error fault →
        (file.answerUnder weather moment request).2 = file) ∧
      ∀ a, (file.answerUnder weather moment request).1 = .ok a → request.Quiet a →
        (file.answerUnder weather moment request).2 = file := by
  rcases file.answerUnder_cases weather moment request with calm | ⟨fault, failed⟩
  · rw [calm]
    exact file.answer_unchanged moment request
  · rw [failed]
    exact ⟨fun _ _ => rfl, nofun⟩

theorem StandIn.answer_unchanged (moment : Moment) (request : Request α) (db : StandIn) :
    (∀ fault, (db.answer moment request).1 = .error fault → (db.answer moment request).2 = db) ∧
      ∀ a, (db.answer moment request).1 = .ok a → request.Quiet a →
        (db.answer moment request).2 = db := by
  unfold StandIn.answer
  split
  · exact ⟨fun _ _ => rfl, nofun⟩
  · obtain ⟨failing, quiet⟩ := db.collection.answer_unchanged moment request
    exact ⟨fun fault failed => congrArg (fun file => { db with collection := file })
        (failing fault failed),
      fun a answered rests => congrArg (fun file => { db with collection := file })
        (quiet a answered rests)⟩

instance : Transactional StandIn where
  failed failed := (StandIn.answer_unchanged _ _ _).1 _ failed
  quiet answered rests := (StandIn.answer_unchanged _ _ _).2 _ answered rests

theorem Session.cautious_askUnder [Transactional δ] (weather : Nat → Weather) (now : Time.Instant)
    (request : Request α) :
    Cautious request.Quiet (Session.askUnder weather now request : Work δ α) := by
  intro s
  have file := File.answerUnder_unchanged (weather s.issued) ⟨now, s.ids s.issued⟩ request s.file
  unfold Session.askUnder Storage.answerUnder
  cases active : s.active with
  | file =>
    exact ⟨fun fault failed => ⟨file.1 fault failed, rfl⟩,
      fun a answered quiet => ⟨file.2 a answered quiet, rfl⟩⟩
  | database =>
    cases present : s.database with
    | none =>
      exact ⟨fun fault failed => ⟨file.1 fault failed, present.symm⟩,
        fun a answered quiet => ⟨file.2 a answered quiet, present.symm⟩⟩
    | some db =>
      refine ⟨fun fault failed => ⟨rfl, ?_⟩, fun a answered quiet => ⟨rfl, ?_⟩⟩
      · exact (congrArg some (Transactional.failed failed)).trans present.symm
      · exact (congrArg some (Transactional.quiet answered quiet)).trans present.symm

theorem Session.askUnder_calm [Service δ] (now : Time.Instant) (request : Request α) :
    (Session.askUnder (fun _ => .calm) now request : Work δ α) = Session.ask now request := by
  funext s
  unfold Session.askUnder Session.ask
  cases active : s.active <;> cases present : s.database <;>
    simp [Storage.answerUnder, Storage.answer, active, present, File.answerUnder_calm]

/-! Caution of what is made of requests -/

theorem cautious_pure (quiet : α → Prop) (a : α) : Cautious quiet (pure a : Work δ α) :=
  fun _ => ⟨nofun, fun _ _ _ => ⟨rfl, rfl⟩⟩

/-- After an answer that reports no change whatever follows decides. -/
theorem Cautious.bind {first : Work δ α} {next : α → Work δ β} {quiet : β → Prop}
    (reads : Cautious (fun _ => True) first) (then_ : ∀ a, Cautious quiet (next a)) :
    Cautious quiet (first >>= next : Work δ β) := by
  intro s
  cases ran : first s with
  | mk result t =>
    obtain ⟨failing, done⟩ := reads s
    rw [ran] at failing done
    cases result with
    | error fault =>
      rw [Session.bind_error ran]
      exact ⟨fun _ _ => failing fault rfl, nofun⟩
    | ok a =>
      rw [Session.bind_ok ran]
      have early : s.Unchanged t := done a rfl trivial
      obtain ⟨failingNext, doneNext⟩ := then_ a t
      exact ⟨fun fault failed => early.trans (failingNext fault failed),
        fun b answered rests => early.trans (doneNext b answered rests)⟩

/-- The last request of a session decides alone if the session tells of every change. -/
theorem Cautious.map {last : Work δ α} {report : α → β} {quiet : α → Prop} {silent : β → Prop}
    (cautious : Cautious quiet last) (tells : ∀ a, silent (report a) → quiet a) :
    Cautious silent (last >>= fun a => pure (report a) : Work δ β) := by
  intro s
  cases ran : last s with
  | mk result t =>
    obtain ⟨failing, done⟩ := cautious s
    rw [ran] at failing done
    cases result with
    | error fault =>
      rw [Session.bind_error ran]
      exact ⟨fun _ _ => failing fault rfl, nofun⟩
    | ok a =>
      rw [Session.bind_ok ran, Session.pure_run]
      refine ⟨nofun, ?_⟩
      rintro b ⟨⟩ rests
      exact done a rfl (tells a rests)

end Catalog.Store
