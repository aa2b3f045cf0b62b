import Catalog.Proofs.Document.Reread
import Catalog.Proofs.Sync.Caution
import Catalog.Proofs.Store.Course
import Catalog.Proofs.Store.File
import Catalog.Proofs.Sync.Sweep
import Catalog.Proofs.Time.Order
import Catalog.Proofs.Time.Stamp

/-!
What has expired, for the sweep and for the writer of listings. The sweep compares the end of a
listing with a stamp of the time, which has whole milliseconds, and it wants the end to be earlier;
the writer compares with the time itself. So they agree on every end outside the millisecond in
which the sweep takes place.
-/
namespace Catalog

open Json

def Document.finish? (doc : Value) : Option Time.Instant :=
  (resolve doc Field.endDate).bind Value.instant?

def Document.Active (doc : Value) : Prop := resolve doc Field.isActive = some (.bool true)

namespace Sync

open Store Document

variable {clock now t : Time.Instant} {doc other : Value}

section Reread

variable {v w : Value} {found anew : Option Value}

theorem instant?_reread (read : v.Rereads w) : w.instant? = v.instant? := by
  cases v with
  | text | null | bool =>
    cases read
    rfl
  | number | array | object =>
    obtain ⟨_, _, rfl⟩ := Option.map_eq_some_iff.mp read
    rfl

theorem bool_reread (read : v.Rereads w) (b : Bool) : w = .bool b ↔ v = .bool b := by
  cases v with
  | text | null | bool =>
    cases read
    rfl
  | number | array | object =>
    obtain ⟨_, _, rfl⟩ := Option.map_eq_some_iff.mp read
    simp

theorem finish?_reread (read : doc.Rereads other) : finish? other = finish? doc := by
  have related := select_reread read (segments Field.endDate)
  unfold finish? resolve
  generalize select doc _ = found at related ⊢
  generalize select other _ = anew at related ⊢
  cases related with
  | none => rfl
  | some again => exact instant?_reread again

theorem active_reread (read : doc.Rereads other) : Active other ↔ Active doc := by
  have related := select_reread read (segments Field.isActive)
  unfold Active resolve
  generalize select doc _ = found at related ⊢
  generalize select other _ = anew at related ⊢
  cases related with
  | none => exact Iff.rfl
  | some again => rw [Option.some.injEq, Option.some.injEq, bool_reread again]

end Reread

/-! One document -/

section Stamped

variable (valid : now.Valid) (low : 0 ≤ now.date.year) (high : now.date.year ≤ 9999)

include valid low high

theorem holds_before_stamp (actual : Option Value) :
    (Query.Condition.lt (stampValue now)).holds actual = true ↔
      ∃ t, actual.bind Value.instant? = some t ∧ t.lt now.toMillis = true := by
  have bound : (stampValue now).instant? = some now.toMillis :=
    Time.Instant.parse?_stamp valid low high
  cases actual with
  | none => simp [Query.Condition.holds]
  | some v =>
    simp only [Query.Condition.holds, Option.bind_some, Query.compareToBound, bound]
    cases v.instant? <;> simp [Time.Instant.compare_eq_lt]

/-- The sweep selects an active document just if its end lies before the millisecond. -/
theorem selects_expired (active : Active doc) : Query.selects (expired now) doc = true ↔
    ∃ t, finish? doc = some t ∧ t.lt now.toMillis = true := by
  have isActive : (Query.Condition.eq (.bool true)).holds (resolve doc Field.isActive) = true := by
    rw [active]
    rfl
  rw [finish?, ← holds_before_stamp valid low high]
  simp only [Query.selects, expired, Query.Filter.eq, Query.clauseHolds, isActive, Bool.true_and,
    Bool.and_true]

end Stamped

theorem finish?_swept (clock now : Time.Instant) (doc : Value) :
    finish? (swept clock now doc) = finish? doc := by
  have activity : Diverge (segments Field.isActive) (segments Field.endDate) := by decide
  have lastUpdated : Diverge (segments Field.lastUpdated) (segments Field.endDate) := by decide
  have updated : Diverge (segments Field.updatedAt) (segments Field.endDate) := by decide
  rw [finish?, resolve, select_swept activity lastUpdated updated, finish?, resolve]

theorem active_deactivated (clock now : Time.Instant) (doc : Value) :
    ¬ Active (touch (set (set doc Field.isActive (.bool false)) Field.lastUpdated
      (stampValue now)) clock) := by
  have updated : Diverge (segments Field.updatedAt) (segments Field.isActive) := by decide
  have lastUpdated : Diverge (segments Field.lastUpdated) (segments Field.isActive) := by decide
  rw [Active, touch, resolve_set_of_diverge updated, resolve_set_of_diverge lastUpdated,
    resolve_set_self]
  simp

/-- After the sweep those documents are active that were so and have not ended before the
millisecond. -/
theorem active_swept (valid : now.Valid) (low : 0 ≤ now.date.year) (high : now.date.year ≤ 9999) :
    Active (swept clock now doc) ↔
      Active doc ∧ ∀ t, finish? doc = some t → t.lt now.toMillis = false := by
  unfold swept
  split
  · rename_i selected
    constructor
    · intro active
      exact absurd active (active_deactivated clock now doc)
    · rintro ⟨active, alive⟩
      obtain ⟨t, ends, before⟩ := (selects_expired valid low high active).mp selected
      exact absurd (before.symm.trans (alive t ends)) (by decide)
  · rename_i unselected
    constructor
    · intro active
      refine ⟨active, fun t ends => Bool.eq_false_iff.mpr fun before => unselected ?_⟩
      exact (selects_expired valid low high active).mpr ⟨t, ends, before⟩
    · exact And.left

/-! The writer -/

theorem dates_of_ofValue {members : Members} {listing : Listing}
    (read : Listing.ofValue (.object members) = .ok listing) :
    listing.dates = Listing.Lenient.readOr Listing.Dates.read? {} (Members.get? "dates" members) := by
  obtain ⟨url, -, read⟩ := bind_eq_ok.mp read
  obtain ⟨origin, -, read⟩ := bind_eq_ok.mp read
  obtain ⟨title, -, read⟩ := bind_eq_ok.mp read
  cases read
  rfl

theorem finish_of_member {members : Members} {v : Value}
    (held : Members.get? "end_date" members = some v) (dated : v.instant? = some t) :
    ∃ dates, Listing.Dates.read? (.object members) = some dates ∧
      dates.finish = some (.known t) := by
  refine ⟨_, rfl, ?_⟩
  cases v with
  | text s => simp [held, Listing.Lenient.readOptional, Listing.Lenient.read, dated]
  | null | bool | number | array | object => cases dated

/-- The end that a document tells is the end of the listing that the document reads as. -/
theorem endDate?_of_finish? {listing : Listing} (ends : finish? doc = some t)
    (read : Listing.ofValue doc = .ok listing) : listing.endDate? = some t := by
  have path : segments Field.endDate = ["dates", "end_date"] := by decide
  obtain ⟨v, found, dated⟩ := Option.bind_eq_some_iff.mp ends
  obtain ⟨dates, held, inside⟩ : ∃ dates, doc.member? "dates" = some dates ∧
      dates.member? "end_date" = some v := by
    rw [resolve, path, select] at found
    cases held : doc.member? "dates" with
    | none => simp [held] at found
    | some dates =>
      simp only [held, select_one] at found
      exact ⟨dates, rfl, found⟩
  cases doc with
  | object members =>
    cases dates with
    | object dateMembers =>
      obtain ⟨known, readDates, finish⟩ := finish_of_member inside dated
      have held : Members.get? "dates" members = some (.object dateMembers) := held
      simp [Listing.endDate?, dates_of_ofValue read, held, Listing.Lenient.readOr,
        Listing.Lenient.read, readDates, Listing.Lenient.known?, finish]
    | null | bool | number | text | array => cases inside
  | null | bool | number | text | array => cases held

/-- What the sweep owes to a document and to what is stored in its place. -/
structure Expires (now : Time.Instant) (doc other : Value) : Prop where
  finish : finish? other = finish? doc
  expired : ∀ t, finish? other = some t → t.lt now.toMillis = true → ¬ Active other
  alive : Active doc → (∀ t, finish? doc = some t → t.lt now.toMillis = false) → Active other
  writer : ∀ t listing, finish? other = some t → Listing.ofValue other = .ok listing →
    Active other → listing.isActiveAt now = false →
      t.lt now.toMillis = false ∧ now.lt t = false

theorem Expires.of_active (finish : finish? other = finish? doc) (exactly : Active other ↔
    Active doc ∧ ∀ t, finish? doc = some t → t.lt now.toMillis = false) :
    Expires now doc other where
  finish := finish
  expired t ends before active := by
    have alive := (exactly.mp active).2 t (finish ▸ ends)
    exact absurd (before.symm.trans alive) (by decide)
  alive active alive := exactly.mpr ⟨active, alive⟩
  writer t listing ends read active inactive := by
    have alive := (exactly.mp active).2 t (finish ▸ ends)
    refine ⟨alive, ?_⟩
    simpa [Listing.isActiveAt, endDate?_of_finish? ends read] using inactive

section Stamped

variable (valid : now.Valid) (low : 0 ≤ now.date.year) (high : now.date.year ≤ 9999)

include valid low high

theorem expires_swept (clock : Time.Instant) (doc : Value) :
    Expires now doc (swept clock now doc) :=
  .of_active (finish?_swept clock now doc) (active_swept valid low high)

theorem expires_reread (read : (swept clock now doc).Rereads other) : Expires now doc other :=
  .of_active ((finish?_reread read).trans (finish?_swept clock now doc))
    ((active_reread read).trans (active_swept valid low high))

end Stamped

/-! The collection -/

theorem answer_sweep (moment : Moment) (docs : List Value) :
    Collection.answer moment (.updateMany (expired now) (deactivation now)) docs =
      .ok (docs.countP (Query.selects (expired now)),
        if docs.countP (Query.selects (expired now)) = 0 then none
        else some (docs.map (swept moment.now now))) := by
  simp [Collection.answer, reviseAll_expired, bind, Except.bind]

theorem map_swept_of_none {docs : List Value}
    (unselected : docs.countP (Query.selects (expired now)) = 0) :
    docs.map (swept clock now) = docs := by
  refine (List.map_congr_left fun doc held => ?_).trans (List.map_id docs)
  exact if_neg (List.countP_eq_zero.mp unselected doc held)

/-- A sweep that was answered has written every document swept, unless that changes none. -/
theorem swept_collection {moment : Moment} {file after : File} {n : Nat}
    (answered : file.answer moment (.updateMany (expired now) (deactivation now)) =
      (.ok n, after)) :
    ∃ docs, file.load = .ok docs ∧
      (after = file ∧ docs.map (swept moment.now now) = docs ∨
        after = file.store (docs.map (swept moment.now now))) := by
  have accepted : Collection.refusal? (.updateMany (expired now) (deactivation now)) = none := rfl
  unfold File.answer at answered
  rw [accepted] at answered
  cases loaded : file.load with
  | error fault =>
    rw [loaded] at answered
    cases answered
  | ok docs =>
    refine ⟨docs, rfl, ?_⟩
    simp only [loaded, answer_sweep] at answered
    by_cases unselected : docs.countP (Query.selects (expired now)) = 0
    · rw [if_pos unselected] at answered
      cases answered
      exact .inl ⟨rfl, map_swept_of_none unselected⟩
    · rw [if_neg unselected] at answered
      cases answered
      exact .inr rfl

/-- After a sweep no document is active whose listing ended before the millisecond of the sweep, and
no other has been deactivated. This holds of what was written and of whatever is read of it. -/
theorem sweep_deactivates_expired {δ : Type} [Faithful δ] (course : Course) (s after : Storage δ)
    (n : Nat) (valid : now.Valid) (low : 0 ≤ now.date.year) (high : now.date.year ≤ 9999)
    (ran : sweepBy course.ask now s = (.ok n, after)) :
    ∃ docs written, s.collection.load = .ok docs ∧
      (after.collection = s.collection ∧ written = docs ∨
        after.collection = s.collection.store written) ∧
      List.Forall₂ (Expires now) docs written ∧
      ∀ loaded, after.collection.load = .ok loaded → List.Forall₂ (Expires now) docs loaded := by
  obtain ⟨docs, loaded, left⟩ := swept_collection (course.ask_ok _ ran)
  have each : List.Forall₂ (Expires now) docs (docs.map (swept (course.clock s.issued) now)) :=
    List.forall₂_map_right_iff.mpr
      (List.forall₂_same.mpr fun doc _ => expires_swept valid low high _ doc)
  refine ⟨docs, docs.map (swept (course.clock s.issued) now), loaded, left, each, ?_⟩
  intro read readAgain
  rcases left with ⟨same, unchanged⟩ | stored
  · rw [same, loaded] at readAgain
    cases readAgain
    rwa [unchanged] at each
  · rw [stored] at readAgain
    have formed : ∀ doc ∈ docs.map (swept (course.clock s.issued) now), doc.WellFormed := by
      intro doc member
      obtain ⟨before, held, rfl⟩ := List.mem_map.mp member
      exact wellFormed_swept (File.wellFormed_of_load loaded before held)
    have again := Value.rereadItems?_eq_some.mp (File.reread_of_load formed readAgain)
    refine (List.forall₂_map_left_iff.mp again).imp fun doc other read => ?_
    exact expires_reread valid low high read

/-! The millisecond of the sweep -/

/-- An active listing with the given end. -/
def listedUntil (id finish : String) : Value :=
  .object [("dates", .object [("end_date", .text finish)]), ("id", .text id),
    ("is_active", .bool true)]

theorem listedUntil_formed (id finish : String) : (listedUntil id finish).WellFormed := by
  have first : Text.Before "dates" "id" := by decide
  have second : Text.Before "id" "is_active" := by decide
  have third : Text.Before "dates" "is_active" := by decide
  refine ⟨?_, ⟨List.pairwise_singleton _ _, trivial, trivial⟩, trivial, trivial, trivial⟩
  simp [Members.Sorted, first, second, third]

/-- A storage whose file was written with two such listings. -/
def listedShelf (first second : String) : Storage :=
  .fileOnly (File.store ⟨"shelf.json", .missing⟩ [listedUntil "a" first, listedUntil "b" second])

theorem listedShelf_holds (first second : String) :
    (listedShelf first second).Holds [listedUntil "a" first, listedUntil "b" second] := by
  have formed : ∀ doc ∈ [listedUntil "a" first, listedUntil "b" second], doc.WellFormed :=
    List.forall_mem_cons.mpr ⟨listedUntil_formed _ _, List.forall_mem_singleton.mpr (listedUntil_formed _ _)⟩
  have depth : Value.itemsDepth [listedUntil "a" first, listedUntil "b" second] = 2 := rfl
  have shallow : Value.itemsDepth [listedUntil "a" first, listedUntil "b" second] < Json.Progress.deepest := by
    rw [depth]
    decide
  exact ⟨rfl, (File.load_store _ formed rfl).trans (if_pos shallow)⟩

/-- Nine tenths of a millisecond past noon. -/
def pastNoon : Time.Instant := ⟨1792324800, 900000⟩

theorem sweep_deactivates_expired_listed :
    let before := listedShelf "2026-10-18T11:59:59Z" "2026-10-18T12:00:01Z"
    let listed := [listedUntil "a" "2026-10-18T11:59:59Z", listedUntil "b" "2026-10-18T12:00:01Z"]
    ∃ after, sweepBy (Course.calm pastNoon).ask pastNoon before = (.ok 1, after) ∧
      (∃ written, List.Forall₂ (Expires pastNoon) listed written) ∧
      ∀ loaded, after.collection.load = .ok loaded → List.Forall₂ (Expires pastNoon) listed loaded := by
  intro before listed
  have holds : before.Holds listed := listedShelf_holds _ _
  have one : listed.countP (Query.selects (expired pastNoon)) = 1 := by decide +kernel
  have ran : sweepBy (Course.calm pastNoon).ask pastNoon before =
      (.ok 1, before.written 1 (listed.map (swept pastNoon pastNoon))) := by
    have swept := sweep_run pastNoon pastNoon holds
    rw [if_neg (by rw [one]; decide), one] at swept
    rw [sweep, sweepBy] at swept
    rw [sweepBy, Course.ask_calm, swept]
  obtain ⟨docs, written, loaded, -, each, later⟩ := sweep_deactivates_expired (Course.calm pastNoon)
    before _ 1 ⟨by decide, fun leap => absurd leap (by decide)⟩ (by decide) (by decide) ran
  rw [Storage.collection_file holds.active, holds.loaded] at loaded
  cases loaded
  exact ⟨_, ran, ⟨written, each⟩, later⟩

/-- Neither a listing that ended within the millisecond nor one that ends at the very time of the
sweep is deactivated, although the writer calls both inactive. -/
theorem sweep_misses_millisecond :
    let shelf := listedShelf "2026-10-18T12:00:00.0005Z" "2026-10-18T12:00:00.0009Z"
    ∃ after, sweepBy (Course.calm pastNoon).ask pastNoon shelf = (.ok 0, after) ∧
      ∃ docs, after.collection.load = .ok docs ∧ ∀ doc ∈ docs, Active doc ∧
        (∃ t, finish? doc = some t ∧ pastNoon.lt t = false) ∧
        ∃ listing, Listing.ofValue doc = .ok listing ∧ listing.isActiveAt pastNoon = false := by
  intro shelf
  have holds := listedShelf_holds "2026-10-18T12:00:00.0005Z" "2026-10-18T12:00:00.0009Z"
  have unselected : [listedUntil "a" "2026-10-18T12:00:00.0005Z",
      listedUntil "b" "2026-10-18T12:00:00.0009Z"].countP (Query.selects (expired pastNoon)) = 0 := by
    decide +kernel
  have ran : sweepBy (Course.calm pastNoon).ask pastNoon shelf = (.ok 0, shelf.after 1) := by
    have swept := sweep_run pastNoon pastNoon holds
    rw [if_pos unselected, unselected] at swept
    rw [sweep, sweepBy] at swept
    rw [sweepBy, Course.ask_calm, swept]
  have loaded : (shelf.after 1).collection.load =
      .ok [listedUntil "a" "2026-10-18T12:00:00.0005Z", listedUntil "b" "2026-10-18T12:00:00.0009Z"] := by
    rw [Storage.collection_file (holds.after 1).active]
    exact holds.loaded
  refine ⟨_, ran, _, loaded, ?_⟩
  have ends : finish? (listedUntil "a" "2026-10-18T12:00:00.0005Z") = some ⟨1792324800, 500000⟩ ∧
      finish? (listedUntil "b" "2026-10-18T12:00:00.0009Z") = some pastNoon := by decide +kernel
  have named : ∀ id finish t, finish? (listedUntil id finish) = some t → pastNoon.lt t = false →
      Active (listedUntil id finish) ∧ (∃ t, finish? (listedUntil id finish) = some t ∧ pastNoon.lt t = false) ∧
        ∃ listing, Listing.ofValue (listedUntil id finish) = .ok listing ∧
          listing.isActiveAt pastNoon = false := by
    intro id finish t told late
    refine ⟨rfl, ⟨t, told, late⟩, _, rfl, ?_⟩
    rw [Listing.isActiveAt, endDate?_of_finish? told rfl]
    exact late
  exact List.forall_mem_cons.mpr ⟨named _ _ _ ends.1 (by decide),
    List.forall_mem_singleton.mpr (named _ _ _ ends.2 (by decide))⟩

end Sync

end Catalog
