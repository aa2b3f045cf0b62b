import Catalog.Proofs.Store.Course

/-!
The storage as two collections behind a switch. A run of switching, pinging and asking is compared
with two runs of collections by themselves, one for each side, where each gets just the operations
that were issued while it was the active one. How either side answers is left open: it may depend on
the number of the request in any way, so a side may fail or be slow, and the database may be changed
from elsewhere at any time.
-/
namespace Catalog.Store

inductive Operation : Type 1 where
  | request {α : Type} (r : Request α)
  | findOne (filter : Query.Filter)
  | ping

structure Reply : Type 1 where
  {Answer : Type}
  result : Except Fault Answer

/-- How the two collections answer the request with a given number. -/
structure Sides (δ : Type) where
  file : {α : Type} → Nat → Request α → File → Except Fault α × File
  database : {α : Type} → Nat → Request α → δ → Except Fault α × δ

structure Shelf (σ : Type) where
  answer : {α : Type} → Nat → Request α → σ → Except Fault α × σ
  ping : σ → Except Fault Unit

/-- What reaches a collection: operations with their numbers, and what is done to it elsewhere. -/
inductive Visit (σ : Type) : Type 1 where
  | elsewhere (change : σ → σ)
  | operation (number : Nat) (op : Operation)

/-- What happens to the storage. -/
inductive Event (δ : Type) : Type 1 where
  | elsewhere (change : δ → δ)
  | setAvailable (available : Bool)
  | refresh
  | operation (op : Operation)

/-- What is written down of it. -/
inductive Entry (δ : Type) : Type 1 where
  | elsewhere (change : δ → δ)
  | heard (available : Bool)
  | served (side : Backend) (number : Nat) (op : Operation) (reply : Reply)

namespace Shelf

variable {σ : Type} (shelf : Shelf σ)

def operate (number : Nat) : Operation → σ → Reply × σ
  | .request r, c => (⟨(shelf.answer number r c).1⟩, (shelf.answer number r c).2)
  | .findOne filter, c =>
    let found := shelf.answer number (.find filter { limit := some 1 }) c
    (⟨found.1.map fun page => page.items.head?⟩, found.2)
  | .ping, c => (⟨shelf.ping c⟩, c)

def run : List (Visit σ) → σ → List Reply × σ
  | [], c => ([], c)
  | .elsewhere change :: rest, c => run rest (change c)
  | .operation number op :: rest, c =>
    let (reply, c) := shelf.operate number op c
    let (replies, c) := run rest c
    (reply :: replies, c)

theorem run_append (early late : List (Visit σ)) (c : σ) :
    shelf.run (early ++ late) c =
      ((shelf.run early c).1 ++ (shelf.run late (shelf.run early c).2).1,
        (shelf.run late (shelf.run early c).2).2) := by
  induction early generalizing c with
  | nil => rfl
  | cons visit early ih => cases visit <;> simp only [List.cons_append, run, ih]

end Shelf

section Log

variable {δ : Type}

/-- The latest word on the database. -/
def latest : List (Entry δ) → Bool → Bool
  | [], before => before
  | .heard available :: rest, _ => latest rest available
  | _ :: rest, before => latest rest before

def fileVisits (log : List (Entry δ)) : List (Visit File) :=
  log.filterMap fun
    | .served .file number op _ => some (.operation number op)
    | _ => none

def databaseVisits (log : List (Entry δ)) : List (Visit δ) :=
  log.filterMap fun
    | .elsewhere change => some (.elsewhere change)
    | .served .database number op _ => some (.operation number op)
    | _ => none

def replies (side : Backend) (log : List (Entry δ)) : List Reply :=
  log.filterMap fun
    | .served who _ _ reply => if who = side then some reply else none
    | _ => none

/-- The operations that were answered, by either side. -/
def answered (log : List (Entry δ)) : List Operation :=
  log.filterMap fun
    | .served _ _ op _ => some op
    | _ => none

def issued (events : List (Event δ)) : List Operation :=
  events.filterMap fun
    | .operation op => some op
    | _ => none

theorem latest_append (early late : List (Entry δ)) (before : Bool) :
    latest (early ++ late) before = latest late (latest early before) := by
  induction early generalizing before with
  | nil => rfl
  | cons entry early ih => cases entry <;> exact ih _

end Log

namespace Sides

variable {δ : Type}

variable (sides : Sides δ)

def fileShelf : Shelf File := ⟨sides.file, fun _ => .ok ()⟩

def ask (r : Request α) : Work δ α := fun s =>
  match s.active, s.database with
  | .database, some db =>
    let (a, db) := sides.database s.issued r db
    (a, { s with database := some db, issued := s.issued + 1 })
  | _, _ =>
    let (a, file) := sides.file s.issued r s.file
    (a, { s with file := file, issued := s.issued + 1 })

def findOne (filter : Query.Filter) : Work δ (Option Json.Value) :=
  Session.findOneBy sides.ask filter

section Asking

variable {sides} {s : Storage δ} {db : δ}

theorem ask_file (here : s.active = .file) (r : Request α) :
    sides.ask r s = ((sides.file s.issued r s.file).1,
      { s with file := (sides.file s.issued r s.file).2, issued := s.issued + 1 }) := by
  unfold ask
  rw [here]

theorem ask_database (here : s.active = .database) (present : s.database = some db)
    (r : Request α) :
    sides.ask r s = ((sides.database s.issued r db).1,
      { s with database := some (sides.database s.issued r db).2, issued := s.issued + 1 }) := by
  unfold ask
  rw [here, present]

theorem findOne_eq (filter : Query.Filter) (s : Storage δ) :
    sides.findOne filter s =
      let asked := sides.ask (.find filter { limit := some 1 }) s
      (asked.1.map fun page => page.items.head?, asked.2) := by
  unfold findOne Session.findOneBy
  simp only [bind, ExceptT.bind, ExceptT.mk, StateT.bind]
  cases sides.ask (.find filter { limit := some 1 }) s with
  | mk result t => cases result <;> rfl

end Asking

variable [Service δ]

/-- The sides as the program has them. -/
def program (clock : Nat → Time.Instant) (ids : Nat → String) : Sides δ where
  file n r file := file.answer ⟨clock n, ids n⟩ r
  database n r db := Service.answer ⟨clock n, ids n⟩ r db

def databaseShelf : Shelf δ := ⟨sides.database, Service.ping⟩

def operate : Operation → Storage δ → Reply × Storage δ
  | .request r, s => (⟨(sides.ask r s).1⟩, (sides.ask r s).2)
  | .findOne filter, s => (⟨(sides.findOne filter s).1⟩, (sides.findOne filter s).2)
  | .ping, s => (⟨s.ping⟩, s)

def step : Event δ → Storage δ → List (Entry δ) × Storage δ
  | .elsewhere change, s => ([.elsewhere change], { s with database := s.database.map change })
  | .setAvailable available, s => ([.heard available], s.setAvailable available)
  | .refresh, s => (s.database.toList.map fun db => .heard (Service.ping db).isOk, s.refresh)
  | .operation op, s =>
    let (reply, after) := sides.operate op s
    ([.served s.active s.issued op reply], after)

def run : List (Event δ) → Storage δ → List (Entry δ) × Storage δ
  | [], s => ([], s)
  | event :: rest, s =>
    let (entries, s) := sides.step event s
    let (more, s) := run rest s
    (entries ++ more, s)

variable {sides} {s after final : Storage δ} {log more : List (Entry δ)} {db : δ}

/-! One operation -/

variable (sides) in
theorem operate_file (here : s.active = .file) (op : Operation) :
    ∃ issued, sides.operate op s = ((sides.fileShelf.operate s.issued op s.file).1,
      { s with file := (sides.fileShelf.operate s.issued op s.file).2, issued := issued }) := by
  cases op with
  | request r => exact ⟨s.issued + 1, by simp only [operate, ask_file here]; rfl⟩
  | findOne filter => exact ⟨s.issued + 1, by simp only [operate, findOne_eq, ask_file here]; rfl⟩
  | ping => exact ⟨s.issued, by simp only [operate, Storage.ping, here]; rfl⟩

variable (sides) in
theorem operate_database (here : s.active = .database) (present : s.database = some db)
    (op : Operation) :
    ∃ issued, sides.operate op s = ((sides.databaseShelf.operate s.issued op db).1,
      { s with database := some (sides.databaseShelf.operate s.issued op db).2,
               issued := issued }) := by
  cases op with
  | request r => exact ⟨s.issued + 1, by simp only [operate, ask_database here present]; rfl⟩
  | findOne filter =>
    exact ⟨s.issued + 1, by simp only [operate, findOne_eq, ask_database here present]; rfl⟩
  | ping =>
    obtain ⟨file, _, available, issued⟩ := s
    cases present
    refine ⟨issued, ?_⟩
    simp only [operate, Storage.ping, here]
    rfl

/-! One step, and then a run -/

variable (sides) in
/-- The run over the storage comes apart into a run of either side by itself. -/
structure Split (s : Storage δ) (log : List (Entry δ)) (after : Storage δ) : Prop where
  file : sides.fileShelf.run (fileVisits log) s.file = (replies .file log, after.file)
  database : ∀ db, s.database = some db → ∃ held, after.database = some held ∧
    sides.databaseShelf.run (databaseVisits log) db = (replies .database log, held)
  absent : s.database = none → after.database = none ∧ replies .database log = []
  available : s.database.isSome = true → after.available = latest log s.available

theorem Split.append (first : Split sides s log after) (second : Split sides after more final) :
    Split sides s (log ++ more) final where
  file := by
    have early := first.file
    have late := second.file
    unfold fileVisits replies at *
    rw [List.filterMap_append, List.filterMap_append, Shelf.run_append, early, late]
  database db present := by
    obtain ⟨held, between, early⟩ := first.database db present
    obtain ⟨last, done, late⟩ := second.database held between
    refine ⟨last, done, ?_⟩
    unfold databaseVisits replies at *
    rw [List.filterMap_append, List.filterMap_append, Shelf.run_append, early, late]
  absent none := by
    obtain ⟨between, early⟩ := first.absent none
    obtain ⟨done, late⟩ := second.absent between
    refine ⟨done, ?_⟩
    unfold replies at *
    rw [List.filterMap_append, early, late, List.append_nil]
  available present := by
    obtain ⟨db, same⟩ := Option.isSome_iff_exists.mp present
    obtain ⟨held, between, -⟩ := first.database db same
    rw [second.available (by rw [between]; rfl), first.available present, latest_append]

theorem split_operation (op : Operation) (s : Storage δ) :
    Split sides s [.served s.active s.issued op (sides.operate op s).1] (sides.operate op s).2 := by
  -- The active side is asked as it would be by itself; the other has no part in it.
  cases here : s.active with
  | file =>
    obtain ⟨issued, ran⟩ := sides.operate_file here op
    rw [ran]
    exact ⟨rfl, fun db present => ⟨db, present, rfl⟩, fun none => ⟨none, rfl⟩, fun _ => rfl⟩
  | database =>
    obtain ⟨db, same⟩ := Storage.database_of_active here
    obtain ⟨issued, ran⟩ := sides.operate_database here same op
    rw [ran]
    refine ⟨rfl, fun other held => ?_, fun none => ?_, fun _ => rfl⟩
    · cases same.symm.trans held
      exact ⟨_, rfl, rfl⟩
    · cases same.symm.trans none

theorem split_setAvailable (available : Bool) (s : Storage δ) :
    Split sides s [.heard available] (s.setAvailable available) where
  file := rfl
  database db present := ⟨db, present, rfl⟩
  absent none := ⟨none, rfl⟩
  available present := by simp [Storage.setAvailable, present, latest]

theorem split_refl (s : Storage δ) : Split sides s [] s :=
  ⟨rfl, fun db present => ⟨db, present, rfl⟩, fun none => ⟨none, rfl⟩, fun _ => rfl⟩

theorem split_step (event : Event δ) (s : Storage δ) :
    Split sides s (sides.step event s).1 (sides.step event s).2 := by
  cases event with
  | operation op => exact split_operation op s
  | setAvailable available => exact split_setAvailable available s
  | elsewhere change =>
    refine ⟨rfl, fun db present => ⟨change db, ?_, rfl⟩, fun none => ⟨?_, rfl⟩, fun _ => rfl⟩
    · simp only [step, present, Option.map_some]
    · simp only [step, none, Option.map_none]
  | refresh =>
    cases present : s.database with
    | none =>
      simp only [step, Storage.refresh, present]
      exact split_refl s
    | some db =>
      simp only [step, Storage.refresh, present]
      exact split_setAvailable _ s

theorem split_run (events : List (Event δ)) (s : Storage δ) :
    Split sides s (sides.run events s).1 (sides.run events s).2 := by
  induction events generalizing s with
  | nil => exact split_refl s
  | cons event rest ih => exact (split_step event s).append (ih _)

/-- Every operation is answered once, in its turn. -/
theorem answered_run (events : List (Event δ)) (s : Storage δ) :
    answered (sides.run events s).1 = issued events := by
  induction events generalizing s with
  | nil => rfl
  | cons event rest ih =>
    have later := ih (sides.step event s).2
    unfold answered issued at *
    simp only [run, List.filterMap_append, later]
    cases event with
    | refresh => cases present : s.database <;> simp [step, present]
    | elsewhere | setAvailable | operation => rfl

theorem Split.active (split : Split sides s log after) :
    after.active = .database ↔ s.database.isSome = true ∧ latest log s.available = true := by
  cases present : s.database with
  | none => simp [Storage.active, (split.absent present).1]
  | some db =>
    obtain ⟨held, same, -⟩ := split.database db present
    simp [Storage.active, same, ← split.available (by rw [present]; rfl)]

theorem ask_program (clock : Nat → Time.Instant) (r : Request α) (s : Storage δ) :
    (program clock s.ids).ask r s = Session.ask (clock s.issued) r s := rfl

theorem findOne_program (clock : Nat → Time.Instant) (filter : Query.Filter) (s : Storage δ) :
    (program clock s.ids).findOne filter s = Session.findOne (clock s.issued) filter s := rfl

/-- However switching, pinging and asking follow one another, the storage answers and ends as its two
sides would by themselves, each given the operations that were issued while it was active. The
database is the active side only if there is one and the latest word on it was good. -/
theorem storage_is_two_collections (sides : Sides δ) (events : List (Event δ)) (s : Storage δ) :
    Split sides s (sides.run events s).1 (sides.run events s).2 ∧
      answered (sides.run events s).1 = issued events ∧
      ((sides.run events s).2.active = .database ↔
        s.database.isSome = true ∧ latest (sides.run events s).1 s.available = true) ∧
      (s.database = none → (sides.run events s).2.active = .file) ∧
      (∀ (clock : Nat → Time.Instant) (t : Storage δ), (∀ {α : Type} (r : Request α),
          (program clock t.ids).ask r t = Session.ask (clock t.issued) r t) ∧
        ∀ filter, (program clock t.ids).findOne filter t = Session.findOne (clock t.issued) filter t) := by
  have split : Split sides s _ _ := split_run events s
  refine ⟨split, answered_run events s, split.active, fun none => ?_, fun clock t => ⟨?_, ?_⟩⟩
  · simp [Storage.active, (split.absent none).1]
  · exact fun r => ask_program clock r t
  · exact fun filter => findOne_program clock filter t

end Sides

end Catalog.Store
