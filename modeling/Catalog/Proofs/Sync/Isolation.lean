import Catalog.Proofs.Sync.Ledger
import Catalog.Proofs.Sync.Pass

/-!
Records that fail do nothing to the others. A record that is malformed or has no key never reaches
the storage, and over a file that does not load all others fail alike; so a batch ends the same
with its failing records or without them, and its ledger tells which they were.
-/
namespace Catalog.Sync

open Json Store

variable {δ : Type} {s t : Storage δ} {docs : List Value} {clock now : Time.Instant} {window : Window}
  {record : Value} {listing : Listing} {isBad : Except Failure Outcome → Bool}

/-! Storages that no record tells apart -/

/-- The storages hold the same, and are one or keep a file that does not load. -/
structure Alike (s t : Storage δ) : Prop where
  file : s.file = t.file
  database : s.database = t.database
  same : s = t ∨ s.active = .file ∧ t.active = .file ∧ ∃ fault, s.file.load = .error fault

theorem Alike.refl (s : Storage δ) : Alike s s := ⟨rfl, rfl, .inl rfl⟩

theorem Alike.symm (alike : Alike s t) : Alike t s where
  file := alike.file.symm
  database := alike.database.symm
  same := by
    rcases alike.same with same | ⟨active, activeOther, unreadable⟩
    · exact .inl same.symm
    · exact .inr ⟨activeOther, active, alike.file ▸ unreadable⟩

theorem Alike.trans {u : Storage δ} (first : Alike s t) (second : Alike t u) : Alike s u where
  file := first.file.trans second.file
  database := first.database.trans second.database
  same := by
    rcases first.same with same | ⟨active, activeOther, unreadable⟩
    · exact same ▸ second.same
    · rcases second.same with same | ⟨-, activeLast, -⟩
      · exact .inr ⟨active, same ▸ activeOther, unreadable⟩
      · exact .inr ⟨active, activeLast, unreadable⟩

theorem Alike.after {fault : Store.Fault} (active : s.active = .file)
    (unreadable : s.file.load = .error fault) (requests : Nat) : Alike s (s.after requests) :=
  ⟨rfl, rfl, .inr ⟨active, active, fault, unreadable⟩⟩

variable [Service δ]

/-! One record -/

theorem upsert_answered (moment : Moment) (filter : Query.Filter) (listing : Listing)
    (now : Time.Instant) (docs : List Value) : ∃ a written,
      Collection.answer moment (.upsert filter (listing.toDocument now)) docs =
        .ok (a, some written) := by
  cases found : docs.find? (Query.selects filter) with
  | none =>
    have passed : ∀ d ∈ docs, Query.selects filter d = false := by
      simpa using List.find?_eq_none.mp found
    exact ⟨_, _, Collection.answer_upsert_new passed⟩
  | some doc =>
    obtain ⟨selected, earlier, later, placed, first⟩ := List.find?_eq_some_iff_append.mp found
    have passed : ∀ d ∈ earlier, Query.selects filter d = false := by simpa using first
    exact ⟨_, _, Collection.answer_upsert_match placed passed selected⟩

theorem reconcileListing_matched (clock now : Time.Instant) (window : Window)
    (holds : s.Holds docs) (m : Match listing.candidates docs) : ∃ outcome t,
    reconcileListing clock now window listing s = (.ok outcome, t) ∧ outcome ≠ .created ∧
      t.active = .file := by
  cases needed : needsUpdate m.doc (listing.toDocument now) now window with
  | false => exact ⟨_, _, reconcileListing_current holds m needed, by decide, holds.active⟩
  | true =>
    have finished : ∀ target, ∃ t,
        (Session.ask clock (.upsert target (listing.toDocument now)) >>= fun _ =>
          (pure .updated : Work δ Outcome)) (s.after (m.before.length + 1)) =
            (.ok .updated, t) ∧ t.active = .file := by
      intro target
      obtain ⟨a, written, answered⟩ := upsert_answered
        ⟨clock, s.ids (s.after (m.before.length + 1)).issued⟩ target listing now docs
      have asked := Session.ask_write clock _ (holds.after (m.before.length + 1)) rfl answered
      exact ⟨_, Session.bind_ok asked, holds.active⟩
    have run : ∃ t, reconcileListing clock now window listing s = (.ok .updated, t) ∧
        t.active = .file := by
      rw [reconcileListing, reconcileListingBy, Session.bind_ok (findPrevious_match clock holds m)]
      simp only [needed, if_true]
      exact finished _
    obtain ⟨t, done, active⟩ := run
    exact ⟨.updated, t, done, by decide, active⟩

/-- Over documents that load no listing fails, whatever the documents are. -/
theorem reconcileListing_answered (clock now : Time.Instant) (window : Window) (listing : Listing)
    (holds : s.Holds docs) : ∃ outcome t,
    reconcileListing clock now window listing s = (.ok outcome, t) ∧ t.active = .file := by
  rcases unmatched_or_match listing.candidates docs with unmatched | ⟨⟨m⟩⟩
  · exact ⟨_, _, reconcileListing_unmatched holds unmatched, holds.active⟩
  · obtain ⟨outcome, t, done, -, active⟩ := reconcileListing_matched clock now window holds m
    exact ⟨outcome, t, done, active⟩

theorem reconcile_active (clock now : Time.Instant) (window : Window) (record : Value)
    (active : s.active = .file) : (reconcile clock now window record s).2.active = .file := by
  cases load : s.file.load with
  | error fault => exact (reconcile_unreadable active load clock now window record).1
  | ok docs =>
    by_cases keyed : ∃ l, Listing.ofValue record = .ok l ∧ l.candidates ≠ []
    · obtain ⟨l, read, some_key⟩ := keyed
      obtain ⟨outcome, t, done, still⟩ :=
        reconcileListing_answered clock now window l ⟨active, load⟩
      rw [reconcile_accepted clock now window read some_key, done]
      exact still
    · rw [reconcile_resting (unkeyed_of_not keyed)]
      exact active

/-- A record that fails leaves the storage like it was; while a database is in use, this is said of
the records only that never reach it. -/
theorem Alike.of_failed
    (failed : Ledger.failed (reconcile clock now window record s).1 = true)
    (reached : s.active = .file ∨
      ∀ fault, (reconcile clock now window record s).1 ≠ .error (.storage fault)) :
    Alike s (reconcile clock now window record s).2 := by
  by_cases keyed : ∃ l, Listing.ofValue record = .ok l ∧ l.candidates ≠ []
  · obtain ⟨l, read, some_key⟩ := keyed
    rw [reconcile_accepted clock now window read some_key] at failed reached ⊢
    rcases reached with active | apart
    · cases load : s.file.load with
      | error fault =>
        rw [reconcileListing_unreadable some_key active load]
        exact .after active load 1
      | ok docs =>
        obtain ⟨outcome, t, done, -⟩ := reconcileListing_answered clock now window l ⟨active, load⟩
        rw [done] at failed
        cases failed
    · cases ended : (reconcileListing clock now window l s).1 with
      | error fault => exact absurd (congrArg (Except.mapError Failure.storage) ended) (apart fault)
      | ok outcome =>
        rw [ended] at failed
        cases failed
  · rw [reconcile_resting (unkeyed_of_not keyed)]
    exact .refl s

/-- Over a file that does not load, records that reach it fail for the same reason. -/
theorem reconcile_over_unreadable {fault : Store.Fault} (active : s.active = .file)
    (unreadable : s.file.load = .error fault) (clock now : Time.Instant) (window : Window)
    (record : Value) : reconcile clock now window record s =
      match restingAnswer record with
      | .ok _ => (.error (.storage fault), s.after 1)
      | .error failure => (.error failure, s) := by
  by_cases keyed : ∃ l, Listing.ofValue record = .ok l ∧ l.candidates ≠ []
  · obtain ⟨l, read, some_key⟩ := keyed
    have resting : restingAnswer record = .ok .skipped := by simp [restingAnswer, read, some_key]
    rw [reconcile_accepted clock now window read some_key,
      reconcileListing_unreadable some_key active unreadable, resting]
    rfl
  · have unkeyed := unkeyed_of_not keyed
    rw [reconcile_resting unkeyed]
    cases read : Listing.ofValue record with
    | error mismatch => simp [restingAnswer, read]
    | ok l => simp [restingAnswer, read, unkeyed l read]

theorem Alike.reconcile (alike : Alike s t) (clock now : Time.Instant) (window : Window)
    (record : Value) :
    (reconcile clock now window record t).1 = (reconcile clock now window record s).1 ∧
      Alike (reconcile clock now window record s).2 (reconcile clock now window record t).2 := by
  rcases alike.same with same | ⟨active, activeOther, fault, unreadable⟩
  · subst same
    exact ⟨rfl, .refl _⟩
  · have unreadableOther : t.file.load = .error fault := alike.file ▸ unreadable
    rw [reconcile_over_unreadable active unreadable,
      reconcile_over_unreadable activeOther unreadableOther]
    cases restingAnswer record with
    | error failure => exact ⟨rfl, alike⟩
    | ok answer =>
      exact ⟨rfl, (Alike.after active unreadable 1).symm.trans
        (alike.trans (.after activeOther unreadableOther 1))⟩

/-! Batches -/

/-- The records of a batch whose outcomes are not bad. -/
def without (isBad : Except Failure Outcome → Bool) (records : List Value)
    (outcomes : List (Except Failure Outcome)) : List Value :=
  ((records.zip outcomes).filter fun pair => !isBad pair.2).map Prod.fst

theorem reconcileAll_cons (record : Value) (rest : List Value) (s : Storage δ) :
    reconcileAll now window (record :: rest) s =
      let first := reconcile now now window record s
      let others := reconcileAll now window rest first.2
      (first.1 :: others.1, others.2) := rfl

theorem reconcileAll_without (now : Time.Instant) (window : Window) (alike : Alike s t)
    (fails : ∀ outcome, isBad outcome = true → Ledger.failed outcome = true)
    (reached : s.active = .file ∨ ∀ fault, isBad (.error (.storage fault)) = false)
    (records : List Value) :
    let full := reconcileAll now window records s
    let rest := reconcileAll now window (without isBad records full.1) t
    rest.1 = full.1.filter (fun outcome => !isBad outcome) ∧ Alike full.2 rest.2 := by
  -- The two runs need not be in one storage: a record that failed may have used up identities.
  induction records generalizing s t with
  | nil => exact ⟨rfl, alike⟩
  | cons record records ih =>
    have reachedNext := reached.imp_left (reconcile_active now now window record)
    simp only [reconcileAll_cons, without, List.zip_cons_cons, List.filter_cons]
    cases bad : isBad (reconcile now now window record s).1 with
    | true =>
      have apart : s.active = .file ∨
          ∀ fault, (reconcile now now window record s).1 ≠ .error (.storage fault) := by
        refine reached.imp_right fun harmless fault same => ?_
        rw [same, harmless] at bad
        cases bad
      have passed := Alike.of_failed (fails _ bad) apart
      exact ih (passed.symm.trans alike) reachedNext
    | false =>
      obtain ⟨outcome, next⟩ := alike.reconcile now now window record
      obtain ⟨outcomes, last⟩ := ih next reachedNext
      simp only [Bool.not_false, if_true, List.map_cons, reconcileAll_cons]
      exact ⟨List.cons_eq_cons.mpr ⟨outcome, outcomes⟩, last⟩

theorem reconcileAll_length (now : Time.Instant) (window : Window) (records : List Value) (s : Storage δ) :
    (reconcileAll now window records s).1.length = records.length := by
  induction records generalizing s with
  | nil => rfl
  | cons record records ih => exact congrArg (· + 1) (ih _)

/-- Each outcome is that of its record, met with what the records before it left. -/
theorem reconcileAll_getElem? (records : List Value) (s : Storage δ) (i : Nat) :
    (reconcileAll now window records s).1[i]? = records[i]?.map fun record =>
      (reconcile now now window record (reconcileAll now window (records.take i) s).2).1 := by
  induction records generalizing s i with
  | nil => rfl
  | cons record records ih =>
    cases i with
    | zero => rfl
    | succ i => exact ih _ i

/-! Summaries -/

namespace Ledger

/-- Outcomes that failed are counted as skipped, and nowhere else. -/
theorem summary_filter (l : Ledger)
    (fails : ∀ outcome, isBad outcome = true → failed outcome = true) :
    let rest : Ledger := ⟨l.fetchError, l.outcomes.filter fun outcome => !isBad outcome⟩
    l.summary = { rest.summary with skipped := rest.summary.skipped + l.outcomes.countP isBad } := by
  obtain ⟨fetchError, outcomes⟩ := l
  simp only [summary_counts, failures, SourceSummary.mk.injEq]
  induction outcomes with
  | nil => simp
  | cons outcome outcomes ih =>
    cases bad : isBad outcome with
    | true =>
      have failure := fails outcome bad
      cases outcome with
      | ok => cases failure
      | error => simp [bad, came, failed, List.countP_cons] at ih ⊢; omega
    | false =>
      rcases outcome with failure | (_ | _ | _) <;>
        simp [bad, came, failed, List.countP_cons] at ih ⊢ <;> omega

end Ledger

/-- The records of a source are reconciled as if those that fail had not been there: the others
have the same outcomes and leave the same documents, whether the malformed records and those
without a key are left out or, where the file is in use, all that fail. The ledger has one outcome
for every record, in their order, and its summary counts every one once, those that failed as
skipped. -/
theorem bad_records_are_isolated (now : Time.Instant) (window : Window) (source : Feed.Source)
    (s : Storage δ) (isBad : Except Failure Outcome → Bool)
    (fails : ∀ outcome, isBad outcome = true → Ledger.failed outcome = true)
    (reached : s.active = .file ∨ ∀ fault, isBad (.error (.storage fault)) = false) :
    let records := source.recordsOrSample.1
    let ledger := (syncSource now window source s).1
    let after := (syncSource now window source s).2
    let rest := reconcileAll now window (without isBad records ledger.outcomes) s
    (rest.1 = ledger.outcomes.filter (fun outcome => !isBad outcome) ∧
      rest.2.file = after.file ∧ rest.2.database = after.database) ∧
    (ledger.outcomes.length = records.length ∧
      ∀ i, ledger.outcomes[i]? = records[i]?.map fun record =>
        (reconcile now now window record (reconcileAll now window (records.take i) s).2).1) ∧
    ledger.summary.total = records.length ∧
    ledger.summary = ⟨ledger.outcomes.countP (Ledger.came .created),
      ledger.outcomes.countP (Ledger.came .updated),
      ledger.outcomes.countP (Ledger.came .skipped) + ledger.failures, ledger.fetchError⟩ ∧
    ledger.summary =
      let others : Ledger := ⟨ledger.fetchError, rest.1⟩
      { others.summary with
        skipped := others.summary.skipped + ledger.outcomes.countP isBad } := by
  obtain ⟨outcomes, last⟩ := reconcileAll_without now window (.refl s) fails reached
    source.recordsOrSample.1
  have length := reconcileAll_length now window source.recordsOrSample.1 s
  refine ⟨⟨outcomes, last.file.symm, last.database.symm⟩, ⟨length, ?_⟩, ?_, ?_, ?_⟩
  · exact reconcileAll_getElem? _ s
  · exact (Ledger.total_summary _).trans length
  · exact Ledger.summary_counts _
  · have summary := Ledger.summary_filter
      ⟨source.recordsOrSample.2, (reconcileAll now window source.recordsOrSample.1 s).1⟩ fails
    dsimp only at summary
    rw [← outcomes] at summary
    exact summary

/-- A record that is no object, one with a key, and one without. -/
def mixed : Feed.Source :=
  .fixed "fairs" [.null, sighting, .object [("title", .text "Closed day")]]

theorem bad_records_are_isolated_mixed :
    let ledger := (syncSource ⟨5, 0⟩ .standard mixed bareShelf).1
    let after := (syncSource ⟨5, 0⟩ .standard mixed bareShelf).2
    let rest := reconcileAll ⟨5, 0⟩ .standard
      (without Ledger.failed mixed.recordsOrSample.1 ledger.outcomes) bareShelf
    ledger.outcomes.map Ledger.failed = [true, false, true] ∧
      (rest.1 = ledger.outcomes.filter (fun outcome => !Ledger.failed outcome) ∧
        rest.2.file = after.file ∧ rest.2.database = after.database) ∧
      ledger.summary.total = 3 := by
  obtain ⟨others, -, total, -⟩ := bad_records_are_isolated ⟨5, 0⟩ .standard mixed bareShelf
    Ledger.failed (fun _ failed => failed) (.inl rfl)
  exact ⟨rfl, others, total⟩

end Catalog.Sync
