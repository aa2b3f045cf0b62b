import Catalog.Proofs.Store.Changes
import Catalog.Proofs.Store.File

/-!
Requests put to a collection file one after the other. A turn leaves the file as it is or writes
the documents that the request makes of those that load; a file that does not load stays as it is.
-/
namespace Catalog.Store

open Json

/-- A request at its moment. -/
structure Turn where
  {answer : Type}
  moment : Moment
  request : Request answer

namespace Turn

/-- The file after the turn, whatever the answer. -/
def run (turn : Turn) (file : File) : File := (file.answer turn.moment turn.request).2

/-- The documents that the turn makes of documents. -/
def documents (turn : Turn) (docs : List Value) : List Value :=
  match Collection.answer turn.moment turn.request docs with
  | .ok (_, some written) => written
  | _ => docs

def runAll (turns : List Turn) (file : File) : File :=
  turns.foldl (fun file turn => turn.run file) file

/-- Something holds of every turn and the file it meets. -/
def Along (P : Turn → File → Prop) : List Turn → File → Prop
  | [], _ => True
  | turn :: rest, file => P turn file ∧ Along P rest (turn.run file)

theorem runAll_cons (turn : Turn) (rest : List Turn) (file : File) :
    runAll (turn :: rest) file = runAll rest (turn.run file) := rfl

theorem runAll_append (earlier later : List Turn) (file : File) :
    runAll (earlier ++ later) file = runAll later (runAll earlier file) :=
  List.foldl_append

theorem Along.append {P : Turn → File → Prop} {earlier later : List Turn} {file : File}
    (along : Along P (earlier ++ later) file) :
    Along P earlier file ∧ Along P later (runAll earlier file) := by
  induction earlier generalizing file with
  | nil => exact ⟨trivial, along⟩
  | cons turn earlier ih =>
    obtain ⟨first, rest⟩ := along
    obtain ⟨before, after⟩ := ih rest
    exact ⟨⟨first, before⟩, after⟩

/-- What is refused before the documents are read would be refused after. -/
theorem error_of_refusal {moment : Moment} {request : Request α} {fault : Fault}
    (refused : Collection.refusal? request = some fault) (docs : List Value) :
    ∃ fault, Collection.answer moment request docs = .error fault := by
  cases request with
  | create data =>
    cases data with
    | object => cases refused
    | null | bool | number | text | array => exact ⟨_, rfl⟩
  | find | findById | update | updateMany | upsert | count => cases refused

variable {turn : Turn} {file : File} {docs : List Value}

theorem run_unreadable {fault : Fault} (unreadable : file.load = .error fault) :
    turn.run file = file := by
  simp only [run, File.answer, unreadable]
  split <;> rfl

theorem run_loaded (turn : Turn) (loaded : file.load = .ok docs) :
    (turn.run file = file ∧ turn.documents docs = docs) ∨
      (turn.run file = file.store (turn.documents docs) ∧
        Collection.Change turn.moment turn.request docs (turn.documents docs)) := by
  simp only [run, documents, File.answer, loaded]
  cases refused : Collection.refusal? turn.request with
  | some fault =>
    obtain ⟨fault, failed⟩ := error_of_refusal refused docs
    rw [failed]
    exact .inl ⟨rfl, rfl⟩
  | none =>
    cases answered : Collection.answer turn.moment turn.request docs with
    | error fault => exact .inl ⟨rfl, rfl⟩
    | ok pair =>
      obtain ⟨a, stored⟩ := pair
      cases stored with
      | none => exact .inl ⟨rfl, rfl⟩
      | some written => exact .inr ⟨rfl, Collection.change_of_answer answered⟩

theorem runAll_unreadable {fault : Fault} (turns : List Turn)
    (unreadable : file.load = .error fault) : runAll turns file = file := by
  induction turns with
  | nil => rfl
  | cons turn rest ih =>
    rw [runAll_cons, run_unreadable unreadable]
    exact ih

end Turn

end Catalog.Store
