import Catalog.Proofs.Store.File
import Catalog.Proofs.Sync.Settled
import Catalog.Sync.Run

/-!
Passes over a batch of records. A pass that writes every record it can leaves a file in which every
listing of the batch is settled, and the sweep at the same time changes nothing about that.
-/
namespace Catalog.Sync

open Json Store

variable {δ : Type}

/-- Requests go to the file, what it writes is identified by digits, and if it loads its documents
are settled. -/
structure Ready (now : Time.Instant) (done : List Listing) (s : Storage δ) : Prop where
  active : s.active = .file
  known : ∀ n, IsIdentity (s.ids n)
  settled : ∀ docs, s.file.load = .ok docs → Settled now done docs

variable {now later : Time.Instant} {window : Window} {done : List Listing} {s : Storage δ}
  {docs : List Value} {record : Value} {listing : Listing}

theorem Ready.after (ready : Ready now done s) (requests : Nat) :
    Ready now done (s.after requests) := ⟨ready.active, ready.known, ready.settled⟩

/-- Settled documents are settled when they load again. -/
theorem Ready.written (ready : Ready now done s) {more : List Listing}
    (steady : ∀ l ∈ more, Steady now l) (settled : Settled now more docs) (requests : Nat) :
    Ready now more (s.written requests docs) where
  active := ready.active
  known := ready.known
  settled := by
    intro read loaded
    have again := File.reread_of_load settled.formed loaded
    exact settled.follow ((Value.rereadItems?_eq_some.mp again).imp
      fun _ _ => Follows.reread steady)

theorem Ready.unreadable (ready : Ready now done s) {fault : Store.Fault}
    (unreadable : s.file.load = .error fault) (more : List Listing) : Ready now more s where
  active := ready.active
  known := ready.known
  settled := by
    intro docs loaded
    rw [unreadable] at loaded
    cases loaded

variable [Service δ]

/-- One pass over a batch: the records in order, all as seen at one time, what is written stamped
by the clock of each call. -/
def pass (clock : Nat → Time.Instant) (now : Time.Instant) (window : Window) :
    List Value → Storage δ → List (Except Failure Outcome) × Storage δ
  | [], s => ([], s)
  | record :: rest, s =>
    let (outcome, s) := reconcile (clock 0) now window record s
    let (outcomes, s) := pass (fun n => clock (n + 1)) now window rest s
    (outcome :: outcomes, s)

/-- The pipeline makes its passes with the clock at the time of the run. -/
theorem reconcileAll_eq_pass (now : Time.Instant) (window : Window) (records : List Value)
    (s : Storage δ) : reconcileAll now window records s = pass (fun _ => now) now window records s := by
  induction records generalizing s with
  | nil => rfl
  | cons record rest ih =>
    have later := ih (reconcile now now window record s).2
    unfold reconcileAll at later ⊢
    simp only [reconcileAllBy, pass, reconcile] at later ⊢
    rw [later]

theorem pass_cons (clock : Nat → Time.Instant) (now : Time.Instant) (window : Window)
    (record : Value) (rest : List Value) (s : Storage δ) :
    pass clock now window (record :: rest) s =
      let first := reconcile (clock 0) now window record s
      let others := pass (fun n => clock (n + 1)) now window rest first.2
      (first.1 :: others.1, others.2) := rfl

/-- The records of a batch that can be read. -/
def accepted (records : List Value) : List Listing :=
  records.filterMap fun record => (Listing.ofValue record).toOption

/-- The answer that a second pass owes after an answer of the first: a failure again, otherwise
nothing to do. -/
def again : Except Failure Outcome → Except Failure Outcome
  | .error failure => .error failure
  | .ok _ => .ok .skipped

theorem again_restingAnswer (record : Value) :
    again (restingAnswer record) = restingAnswer record := by
  unfold restingAnswer
  split
  · rfl
  · split <;> rfl

theorem reconcile_resting (unkeyed : ∀ l, Listing.ofValue record = .ok l → l.candidates = [])
    (clock now : Time.Instant) (window : Window) (s : Storage δ) :
    reconcile clock now window record s = (restingAnswer record, s) :=
  reconcileBy_resting (Session.ask clock) now window unkeyed s

/-- Writing a record leaves a file that is ready for the next; where it loads, the record was
reconciled. -/
theorem Ready.reconcile (ready : Ready now done s) (steadyDone : ∀ l ∈ done, Steady now l)
    (read : Listing.ofValue record = .ok listing) (keyed : listing.candidates ≠ [])
    (formed : record.WellFormed) (steady : Steady now listing)
    (separate : ∀ l ∈ done, Separate now listing l) (clock : Time.Instant)
    (wrote : (reconcile clock now window record s).1 ≠ .ok .skipped) :
    Ready now (listing :: done) (reconcile clock now window record s).2 ∧
      ∀ docs, s.file.load = .ok docs →
        again (reconcile clock now window record s).1 = restingAnswer record := by
  have started := reconcile_accepted clock now window read keyed s
  have answer : restingAnswer record = .ok .skipped := by
    simp [restingAnswer, read, keyed]
  cases load : s.file.load with
  | error fault =>
    rw [started, reconcileListing_unreadable keyed ready.active load]
    refine ⟨(ready.unreadable load _).after 1, fun docs loaded => ?_⟩
    cases loaded
  | ok docs =>
    have holds : s.Holds docs := ⟨ready.active, load⟩
    have settled := ready.settled docs load
    have listed := Listing.wellFormed_toDocument formed read now
    have steadyMore : ∀ l ∈ listing :: done, Steady now l :=
      List.forall_mem_cons.mpr ⟨steady, steadyDone⟩
    rw [answer]
    rcases unmatched_or_match listing.candidates docs with unmatched | ⟨⟨m⟩⟩
    · rw [started, reconcileListing_unmatched holds unmatched]
      exact ⟨ready.written steadyMore (settled.create listed unmatched (ready.known _)) _, fun _ _ => rfl⟩
    · cases needed : needsUpdate m.doc (listing.toDocument now) now window with
      | false =>
        rw [started, reconcileListing_current holds m needed] at wrote
        exact absurd rfl wrote
      | true =>
        obtain ⟨id, addressed⟩ := settled.addressed m separate
        rw [started, reconcileListing_outdated holds m addressed needed]
        exact ⟨ready.written steadyMore (settled.update m separate listed) _, fun _ _ => rfl⟩

theorem reconcile_unreadable {fault : Store.Fault} (active : s.active = .file)
    (unreadable : s.file.load = .error fault) (clock now : Time.Instant) (window : Window)
    (record : Value) : (reconcile clock now window record s).2.active = .file ∧
      (reconcile clock now window record s).2.file = s.file := by
  by_cases keyed : ∃ l, Listing.ofValue record = .ok l ∧ l.candidates ≠ []
  · obtain ⟨l, read, some_key⟩ := keyed
    rw [reconcile_accepted clock now window read some_key,
      reconcileListing_unreadable some_key active unreadable]
    exact ⟨active, rfl⟩
  · have unkeyed := unkeyed_of_not keyed
    rw [reconcile_resting unkeyed]
    exact ⟨active, rfl⟩

theorem pass_unreadable {fault : Store.Fault} (clock : Nat → Time.Instant) (now : Time.Instant)
    (window : Window) (records : List Value) (active : s.active = .file)
    (unreadable : s.file.load = .error fault) : (pass clock now window records s).2.file = s.file := by
  induction records generalizing clock s with
  | nil => rfl
  | cons record rest ih =>
    obtain ⟨activeStill, kept⟩ := reconcile_unreadable active unreadable (clock 0) now window record
    rw [pass_cons]
    exact (ih _ activeStill (kept ▸ unreadable)).trans kept

theorem Separate.symm {l m : Listing} (separate : Separate now l m) : Separate now m l :=
  ⟨separate.2, separate.1⟩

/-- A batch whose accepted listings are steady and separate from each other and from others. -/
structure Batch (now : Time.Instant) (done : List Listing) (records : List Value) : Prop where
  formed : ∀ record ∈ records, record.WellFormed
  steady : ∀ l ∈ accepted records, Steady now l
  separate : (accepted records).Pairwise (Separate now)
  apart : ∀ l ∈ accepted records, ∀ m ∈ done, Separate now l m

theorem ok_of_toOption {answer : Except Mismatch Listing} (read : answer.toOption = some listing) :
    answer = .ok listing := by
  cases answer with
  | error => cases read
  | ok l => exact congrArg Except.ok (Option.some.inj read)

theorem accepted_cons_ok (read : Listing.ofValue record = .ok listing) (rest : List Value) :
    accepted (record :: rest) = listing :: accepted rest := by
  simp [accepted, read, Except.toOption]

theorem accepted_subset (record : Value) (rest : List Value) :
    (accepted rest).Sublist (accepted (record :: rest)) :=
  (List.sublist_cons_self record rest).filterMap _

theorem Batch.rest {rest : List Value} (batch : Batch now done (record :: rest)) :
    Batch now done rest where
  formed := fun r member => batch.formed r (List.mem_cons_of_mem _ member)
  steady := fun l member => batch.steady l ((accepted_subset record rest).subset member)
  separate := batch.separate.sublist (accepted_subset record rest)
  apart := fun l member => batch.apart l ((accepted_subset record rest).subset member)

theorem Batch.behind {rest : List Value} (batch : Batch now done (record :: rest))
    (read : Listing.ofValue record = .ok listing) : Batch now (listing :: done) rest where
  formed := batch.rest.formed
  steady := batch.rest.steady
  separate := batch.rest.separate
  apart := by
    intro l member m there
    have pairs := batch.separate
    rw [accepted_cons_ok read] at pairs
    rcases List.mem_cons.mp there with here | earlier
    · exact here ▸ ((List.pairwise_cons.mp pairs).1 l member).symm
    · exact batch.rest.apart l member m earlier

/-- A first pass that writes every record it can settles the listings of the batch; where its file
loads, no record failed for the sake of the file. -/
theorem Ready.pass (ready : Ready now done s) (steadyDone : ∀ l ∈ done, Steady now l)
    {records : List Value} (batch : Batch now done records) (clock : Nat → Time.Instant)
    (wrote : ∀ answer ∈ (pass clock now window records s).1, answer ≠ .ok .skipped) :
    (∃ more, Ready now more (pass clock now window records s).2 ∧
      (∀ l ∈ more, Steady now l) ∧ (∀ l ∈ done, l ∈ more) ∧
      ∀ l ∈ accepted records, l.candidates ≠ [] → l ∈ more) ∧
    ∀ docs, (pass clock now window records s).2.file.load = .ok docs →
      (pass clock now window records s).1.map again = records.map restingAnswer := by
  induction records generalizing s done clock with
  | nil => exact ⟨⟨done, ready, steadyDone, fun _ member => member, fun _ none => nomatch none⟩,
      fun _ _ => rfl⟩
  | cons record rest ih =>
    rw [pass_cons] at wrote ⊢
    obtain ⟨wroteFirst, wroteRest⟩ := List.forall_mem_cons.mp wrote
    by_cases keyed : ∃ l, Listing.ofValue record = .ok l ∧ l.candidates ≠ []
    · obtain ⟨listing, read, some_key⟩ := keyed
      have members := accepted_cons_ok read rest
      have first : listing ∈ accepted (record :: rest) := members ▸ List.mem_cons_self
      have steady := batch.steady listing first
      obtain ⟨readyNext, answered⟩ := ready.reconcile steadyDone read some_key
        (batch.formed record List.mem_cons_self) steady (batch.apart listing first) (clock 0)
        wroteFirst
      obtain ⟨⟨more, readyEnd, steadyMore, kept, found⟩, answers⟩ := ih readyNext
        (List.forall_mem_cons.mpr ⟨steady, steadyDone⟩) (batch.behind read) _ wroteRest
      refine ⟨⟨more, readyEnd, steadyMore, (List.forall_mem_cons.mp kept).2, ?_⟩, ?_⟩
      · rw [members]
        exact List.forall_mem_cons.mpr ⟨fun _ => (List.forall_mem_cons.mp kept).1, found⟩
      · intro docs loaded
        cases load : s.file.load with
        | ok before => exact List.cons_eq_cons.mpr ⟨answered before load, answers docs loaded⟩
        | error fault =>
          obtain ⟨active, same⟩ := reconcile_unreadable ready.active load (clock 0) now window record
          rw [pass_unreadable _ now window rest active (same ▸ load), same, load] at loaded
          cases loaded
    · have unkeyed := unkeyed_of_not keyed
      rw [reconcile_resting unkeyed] at wroteRest ⊢
      obtain ⟨⟨more, readyEnd, steadyMore, kept, found⟩, answers⟩ :=
        ih ready steadyDone batch.rest _ wroteRest
      refine ⟨⟨more, readyEnd, steadyMore, kept, ?_⟩, ?_⟩
      · intro l member some_key
        obtain ⟨r, there, read⟩ := List.mem_filterMap.mp member
        rcases List.mem_cons.mp there with here | later
        · exact absurd (unkeyed l (ok_of_toOption (here ▸ read))) some_key
        · exact found l (List.mem_filterMap.mpr ⟨r, later, read⟩) some_key
      · intro docs loaded
        exact List.cons_eq_cons.mpr ⟨again_restingAnswer record, answers docs loaded⟩

theorem Ready.sweep (ready : Ready now done s) (steady : ∀ l ∈ done, Steady now l)
    (clock : Time.Instant) : Ready now done (sweep clock now s).2 := by
  cases load : s.file.load with
  | error fault =>
    rw [sweep_unreadable clock now ready.active load]
    exact ready.after 1
  | ok docs =>
    rw [sweep_run clock now ⟨ready.active, load⟩]
    have followed : List.Forall₂ (Follows now done) docs (docs.map (swept clock now)) :=
      List.forall₂_map_right_iff.mpr (List.forall₂_same.mpr fun doc _ => .swept clock doc)
    split
    · exact ready.after 1
    · exact ready.written steady ((ready.settled docs load).follow followed) 1

end Catalog.Sync
