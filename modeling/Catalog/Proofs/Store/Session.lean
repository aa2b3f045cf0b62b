import Mathlib.Data.List.Basic
import Catalog.Store.Facade

/-!
Requests while the file is active. Each request reads the documents of the file, hands out one
identity, and leaves the file either alone or with the documents its answer says to store.
-/
namespace Catalog.Store

open Json

variable {δ : Type} {s : Storage δ} {docs : List Value} {α β : Type}

/-- Requests go to the file, and the file holds the documents. -/
structure Storage.Holds (s : Storage δ) (docs : List Value) : Prop where
  active : s.active = .file
  loaded : s.file.load = .ok docs

/-- The storage after a number of requests that wrote nothing. -/
def Storage.after (s : Storage δ) (requests : Nat) : Storage δ :=
  { s with issued := s.issued + requests }

/-- The storage after a number of requests, the last of which wrote the documents. -/
def Storage.written (s : Storage δ) (requests : Nat) (docs : List Value) : Storage δ :=
  { s with file := s.file.store docs, issued := s.issued + requests }

theorem Storage.Holds.after (holds : s.Holds docs) (requests : Nat) :
    (s.after requests).Holds docs := ⟨holds.active, holds.loaded⟩

theorem Storage.after_after (first second : Nat) :
    (s.after first).after second = s.after (first + second) := by
  simp [Storage.after, Nat.add_assoc]

theorem Storage.written_after (first second : Nat) :
    (s.after first).written second docs = s.written (first + second) docs := by
  simp [Storage.after, Storage.written, Nat.add_assoc]

namespace Session

theorem bind_ok {first : Work δ α} {next : α → Work δ β} {a : α} {t : Storage δ}
    (done : first s = (.ok a, t)) : (first >>= next) s = next a t := by
  simp only [bind, ExceptT.bind, ExceptT.mk, StateT.bind, done, ExceptT.bindCont]

theorem bind_error {first : Work δ α} {next : α → Work δ β} {fault : Fault} {t : Storage δ}
    (failed : first s = (.error fault, t)) : (first >>= next) s = (.error fault, t) := by
  simp only [bind, ExceptT.bind, ExceptT.mk, StateT.bind, failed, ExceptT.bindCont]
  rfl

theorem bind_congr {first other : Work δ α} {next : α → Work δ β} (same : first s = other s) :
    (first >>= next) s = (other >>= next) s := by
  simp only [bind, ExceptT.bind, ExceptT.mk, StateT.bind, same]

theorem pure_run (a : α) : (pure a : Work δ α) s = (.ok a, s) := rfl

theorem apply_nil (found : List Value) : Query.Ranking.apply [] found = found := by
  induction found with
  | nil => rfl
  | cons doc found ih =>
    have placed : ∀ rest, Query.Ranking.place (Query.Ranking.compareDocuments []) doc rest =
        doc :: rest := by
      intro rest
      cases rest <;> simp [Query.Ranking.place, Query.Ranking.compareDocuments]
    simp only [Query.Ranking.apply, Query.Ranking.sortWith, List.foldr_cons] at ih ⊢
    rw [ih, placed]

end Session

variable [Service δ]

theorem Storage.answer_file (now : Time.Instant) (request : Request α) (active : s.active = .file) :
    s.answer now request =
      ((s.file.answer ⟨now, s.ids s.issued⟩ request).1,
        { s with file := (s.file.answer ⟨now, s.ids s.issued⟩ request).2,
                 issued := s.issued + 1 }) := by
  simp [Storage.answer, active]

namespace Session

theorem ask_read (now : Time.Instant) (request : Request α) {a : α} (holds : s.Holds docs)
    (accepted : Collection.refusal? request = none)
    (answered : Collection.answer ⟨now, s.ids s.issued⟩ request docs = .ok (a, none)) :
    ask now request s = (.ok a, s.after 1) := by
  change s.answer now request = _
  rw [Storage.answer_file now request holds.active]
  simp [File.answer, accepted, holds.loaded, answered, Storage.after]

theorem ask_write (now : Time.Instant) (request : Request α) {a : α} {written : List Value}
    (holds : s.Holds docs)
    (accepted : Collection.refusal? request = none)
    (answered : Collection.answer ⟨now, s.ids s.issued⟩ request docs =
      .ok (a, some written)) :
    ask now request s = (.ok a, s.written 1 written) := by
  change s.answer now request = _
  rw [Storage.answer_file now request holds.active]
  simp [File.answer, accepted, holds.loaded, answered, Storage.written]

theorem ask_unreadable (now : Time.Instant) (request : Request α) {fault : Fault}
    (active : s.active = .file) (accepted : Collection.refusal? request = none)
    (unreadable : s.file.load = .error fault) :
    ask now request s = (.error fault, s.after 1) := by
  change s.answer now request = _
  rw [Storage.answer_file now request active]
  simp [File.answer, accepted, unreadable, Storage.after]

theorem findOne_run (now : Time.Instant) (filter : Query.Filter) (holds : s.Holds docs) :
    findOne now filter s = (.ok (docs.find? (Query.selects filter)), s.after 1) := by
  have asked := ask_read now (.find filter { limit := some 1 }) holds rfl rfl
  have first : ∀ found : List Value,
      (Query.Selection.window { limit := some 1 } found).head? = found.head? := by
    intro found
    cases found <;> simp [Query.Selection.window, Query.Selection.offset]
  rw [findOne, findOneBy, bind_ok asked, pure_run, apply_nil, first, List.head?_filter]

end Session

end Catalog.Store
