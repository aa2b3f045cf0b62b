import Catalog.Proofs.Store.Caution

/-!
Storage in use: time passes between the requests, and the operating system may refuse any step of
any rewriting. What the database makes of a request is left to it altogether; only for what a sweep
leaves on it is it taken to answer from a collection. Whatever happens stays on the active side.
-/
namespace Catalog.Store

/-- What goes on around the requests, by their number. -/
structure Course where
  clock : Nat → Time.Instant
  weather : Nat → Weather

/-- A database whose answers are those of a collection that it keeps. It may fail all the same, and
then have done anything. -/
class Faithful (δ : Type) extends Service δ where
  collection : δ → File
  answered : ∀ {α : Type} {moment : Moment} {request : Request α} {db : δ} {a : α},
    (answer moment request db).1 = .ok a →
      (collection db).answer moment request = (.ok a, collection (answer moment request db).2)

variable {δ : Type}

/-- Only the active side may have changed, and it is the active side still. -/
structure Storage.Confined (before after : Storage δ) : Prop where
  active : after.active = before.active
  file : before.active = .database → after.file = before.file
  database : before.active = .file → after.database = before.database

namespace Course

/-- Nothing is refused and no time passes. -/
def calm (now : Time.Instant) : Course := ⟨fun _ => now, fun _ => .calm⟩

def ask [Service δ] (course : Course) (request : Request α) : Work δ α := fun s =>
  s.answerUnder course.weather (course.clock s.issued) request

end Course

instance : Faithful StandIn where
  collection db := db.collection
  answered {_ moment request db _} answered := by
    change (db.answer moment request).1 = _ at answered
    change _ = (_, (db.answer moment request).2.collection)
    unfold StandIn.answer at answered ⊢
    split at answered
    · cases answered
    · rename_i works
      rw [if_neg works]
      exact Prod.ext answered rfl

namespace Storage

variable {s : Storage δ}

theorem confined_refl (s : Storage δ) : s.Confined s := ⟨rfl, fun _ => rfl, fun _ => rfl⟩

theorem Confined.trans {first second third : Storage δ} (early : first.Confined second)
    (late : second.Confined third) : first.Confined third where
  active := late.active.trans early.active
  file := fun here => (late.file (early.active.trans here)).trans (early.file here)
  database := fun here => (late.database (early.active.trans here)).trans (early.database here)

theorem database_of_active (here : s.active = .database) : ∃ db, s.database = some db := by
  cases present : s.database with
  | none => simp [active, present] at here
  | some db => exact ⟨db, rfl⟩

section Asking

variable [Service δ]

theorem refresh_active :
    s.refresh.active = .database ↔ ∃ db, s.database = some db ∧ (Service.ping db).isOk = true := by
  cases present : s.database with
  | none => simp [refresh, active, present]
  | some db => simp [refresh, setAvailable, active, present]

theorem unchanged_refresh (s : Storage δ) : s.Unchanged s.refresh := by
  unfold refresh
  split <;> exact ⟨rfl, rfl⟩

theorem confined_answerUnder (weather : Nat → Weather) (now : Time.Instant) (request : Request α)
    (s : Storage δ) : s.Confined (s.answerUnder weather now request).2 := by
  cases here : s.active with
  | file =>
    have elsewhere : s.active ≠ .database := by simp [here]
    simp only [answerUnder, here]
    exact ⟨rfl, fun there => absurd there elsewhere, fun _ => rfl⟩
  | database =>
    have elsewhere : s.active ≠ .file := by simp [here]
    -- The active side can only be the database if there is one, so the request does reach it.
    obtain ⟨db, present⟩ := database_of_active here
    simp only [answerUnder, here, present]
    exact ⟨by simp [active, present], fun _ => rfl, fun there => absurd there elsewhere⟩

end Asking

section Collections

variable [Faithful δ]

/-- The collection of the active side. -/
def collection (s : Storage δ) : File :=
  match s.active, s.database with
  | .database, some db => Faithful.collection db
  | _, _ => s.file

theorem collection_file (here : s.active = .file) : s.collection = s.file := by
  unfold collection
  rw [here]

theorem collection_database {db : δ} (here : s.active = .database) (present : s.database = some db) :
    s.collection = Faithful.collection db := by
  unfold collection
  rw [here, present]

end Collections

end Storage

namespace Course

variable {s : Storage δ} (course : Course) (request : Request α)

section Asking

variable [Service δ]

theorem ask_calm (now : Time.Instant) :
    ((calm now).ask request : Work δ α) = Session.ask now request :=
  Session.askUnder_calm now request

theorem confined_ask (s : Storage δ) : s.Confined (course.ask request s).2 :=
  s.confined_answerUnder course.weather _ request

/-- A request that only looks leaves the file as it was, whichever side is active. -/
theorem file_ask (looks : ∀ a, request.Quiet a) (s : Storage δ) :
    (course.ask request s).2.file = s.file := by
  cases here : s.active with
  | database => exact (course.confined_ask request s).file here
  | file =>
    obtain ⟨failing, quiet⟩ := s.file.answerUnder_unchanged (course.weather s.issued)
      ⟨course.clock s.issued, s.ids s.issued⟩ request
    unfold ask Storage.answerUnder
    rw [here]
    cases result : (s.file.answerUnder (course.weather s.issued)
      ⟨course.clock s.issued, s.ids s.issued⟩ request).1 with
    | error fault => exact failing fault result
    | ok a => exact quiet a result (looks a)

/-- While the file is active, a request is answered as in calm weather, or it fails and only an
identity is gone. -/
theorem ask_cases (here : s.active = .file) :
    course.ask request s = Session.ask (course.clock s.issued) request s ∨
      ∃ fault, course.ask request s = (.error fault, s.after 1) := by
  have calm := Storage.answer_file (course.clock s.issued) request here
  change course.ask request s = s.answer _ request ∨ _
  unfold ask Storage.answerUnder
  rw [calm, here]
  rcases s.file.answerUnder_cases (course.weather s.issued)
    ⟨course.clock s.issued, s.ids s.issued⟩ request with same | ⟨fault, failed⟩
  · exact .inl (by simp only [same])
  · exact .inr ⟨fault, by simp only [failed, Storage.after]⟩

end Asking

/-- A request that was answered was answered by the collection of the active side. -/
theorem ask_ok [Faithful δ] {after : Storage δ} {a : α}
    (asked : course.ask request s = (.ok a, after)) :
    s.collection.answer ⟨course.clock s.issued, s.ids s.issued⟩ request =
      (.ok a, after.collection) := by
  have stays : after.active = s.active := by
    have confined := course.confined_ask request s
    rw [asked] at confined
    exact confined.active
  cases here : s.active with
  | file =>
    rcases course.ask_cases request here with calm | ⟨fault, failed⟩
    · have answered := (Storage.answer_file (course.clock s.issued) request here).symm.trans
        (calm.symm.trans asked)
      obtain ⟨answer, rfl⟩ := Prod.mk.inj answered
      rw [Storage.collection_file here, Storage.collection_file (stays.trans here)]
      exact Prod.ext answer rfl
    · cases failed.symm.trans asked
  | database =>
    obtain ⟨db, present⟩ := Storage.database_of_active here
    unfold ask Storage.answerUnder at asked
    rw [here, present] at asked
    obtain ⟨answer, rfl⟩ := Prod.mk.inj asked
    rw [Storage.collection_database here present,
      Storage.collection_database (stays.trans here) rfl]
    exact Faithful.answered answer

end Course

end Catalog.Store
