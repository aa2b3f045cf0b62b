import Catalog.Proofs.Sync.Attempt
import Catalog.Proofs.Sync.Uniqueness

/-!
Runs of the reconciler and the sweep, in any order, at any times and under any weather. What a run
leaves in the file is what it started from, or documents that were reconciled and swept.
-/
namespace Catalog.Sync

open Json Store

variable {δ : Type}

/-- Storage whose file is the first one still, or holds orderly documents. -/
structure Tidy (first : Store.File) (s : Storage δ) : Prop where
  active : s.active = .file
  fresh : Fresh s.ids
  content : s.file = first ∨ ∃ docs, s.file = first.store docs ∧ Orderly s.ids s.issued docs

namespace Tidy

variable {first : Store.File} {s : Storage δ} {docs : List Value}

theorem after (tidy : Tidy first s) (requests : Nat) : Tidy first (s.after requests) where
  active := tidy.active
  fresh := tidy.fresh
  content := tidy.content.imp_right fun ⟨docs, held, orderly⟩ =>
    ⟨docs, held, orderly.mono (Nat.le_add_right _ _)⟩

theorem written (tidy : Tidy first s) {requests : Nat}
    (orderly : Orderly s.ids (s.issued + requests) docs) :
    Tidy first (s.written requests docs) where
  active := tidy.active
  fresh := tidy.fresh
  content := by
    refine .inr ⟨docs, ?_, orderly⟩
    rcases tidy.content with same | ⟨before, held, -⟩
    · exact congrArg (fun file => file.store docs) same
    · exact congrArg (fun file => file.store docs) held

/-- What loads from the file is orderly, as the file began empty. -/
theorem loaded (tidy : Tidy first s) (empty : first.load = .ok [])
    (loaded : s.file.load = .ok docs) : Orderly s.ids s.issued docs := by
  rcases tidy.content with same | ⟨before, held, orderly⟩
  · rw [same, empty] at loaded
    cases loaded
    exact .nil _
  · rw [held] at loaded
    have read := File.reread_of_load (fun doc member => (orderly.kept doc member).formed) loaded
    exact orderly.carry ((Value.rereadItems?_eq_some.mp read).imp fun _ _ => Carries.reread)

theorem cutOff (tidy : Tidy first s) {ran : Except ε α × Storage δ} (cut : CutOff ran s) :
    Tidy first ran.2 := by
  obtain ⟨fault, requests, rfl⟩ := cut
  exact tidy.after requests

end Tidy

variable [Service δ]

/-- One call of the reconciler or of the sweep. -/
inductive Call where
  | reconcile (now : Time.Instant) (window : Window) (record : Value)
  | sweep (now : Time.Instant)

namespace Call

/-- The storage after a call, whatever its answer. -/
def run (course : Course) : Call → Storage δ → Storage δ
  | .reconcile now window record, s => (reconcileBy course.ask now window record s).2
  | .sweep now, s => (sweepBy course.ask now s).2

/-- The storage after some calls. -/
def runAll (course : Course) (calls : List Call) (s : Storage δ) : Storage δ :=
  calls.foldl (fun s call => call.run course s) s

/-- Records are JSON: no object in them has its members out of order. -/
def Formed : Call → Prop
  | .reconcile _ _ record => record.WellFormed
  | .sweep _ => True

end Call

namespace Tidy

variable {first : Store.File} {s : Storage δ}

theorem reconcile (tidy : Tidy first s) (empty : first.load = .ok []) (clock now : Time.Instant)
    (window : Window) {record : Value} (formed : record.WellFormed) :
    Tidy first (Sync.reconcile clock now window record s).2 := by
  by_cases keyed : ∃ listing, Listing.ofValue record = .ok listing ∧ listing.candidates ≠ []
  · obtain ⟨listing, accepted, keyed⟩ := keyed
    rw [reconcile_accepted clock now window accepted keyed]
    cases load : s.file.load with
    | error fault =>
      rw [reconcileListing_unreadable keyed tidy.active load]
      exact tidy.after 1
    | ok docs =>
      have holds : s.Holds docs := ⟨tidy.active, load⟩
      have orderly := tidy.loaded empty load
      have listed := Listing.wellFormed_toDocument formed accepted now
      rcases unmatched_or_match listing.candidates docs with unmatched | ⟨⟨m⟩⟩
      · rw [reconcileListing_unmatched holds unmatched]
        exact tidy.written
          (orderly.create tidy.fresh listed unmatched (Nat.le_add_right _ _))
      · cases needed : needsUpdate m.doc (listing.toDocument now) now window with
        | false =>
          rw [reconcileListing_current holds m needed]
          exact tidy.after _
        | true =>
          obtain ⟨id, addressed⟩ := m.addressed (orderly.assigned tidy.fresh)
          rw [reconcileListing_outdated holds m addressed needed]
          exact tidy.written ((orderly.update listed m).mono (Nat.le_add_right _ _))
  · have resting := reconcileBy_resting (Session.ask clock) now window (unkeyed_of_not keyed) s
    rw [Sync.reconcile, resting]
    exact tidy

theorem sweep (tidy : Tidy first s) (empty : first.load = .ok []) (clock now : Time.Instant) :
    Tidy first (Sync.sweep clock now s).2 := by
  cases load : s.file.load with
  | error fault =>
    rw [sweep_unreadable clock now tidy.active load]
    exact tidy.after 1
  | ok docs =>
    rw [sweep_run clock now ⟨tidy.active, load⟩]
    have carried : List.Forall₂ Carries docs (docs.map (swept clock now)) :=
      List.forall₂_map_right_iff.mpr (List.forall₂_same.mpr fun doc _ => .swept clock now doc)
    split
    · exact tidy.after 1
    · exact tidy.written (((tidy.loaded empty load).carry carried).mono (Nat.le_add_right _ _))

theorem run (tidy : Tidy first s) (empty : first.load = .ok []) (course : Course) {call : Call}
    (formed : call.Formed) : Tidy first (call.run course s) := by
  cases call with
  | reconcile now window record =>
    rcases reconcileBy_course course now window record tidy.active with ⟨clock, calm⟩ | cut
    · rw [Call.run, calm]
      exact tidy.reconcile empty clock now window formed
    · exact tidy.cutOff cut
  | sweep now =>
    rcases sweepBy_course course now tidy.active with ⟨clock, calm⟩ | cut
    · rw [Call.run, calm]
      exact tidy.sweep empty clock now
    · exact tidy.cutOff cut

theorem runAll (tidy : Tidy first s) (empty : first.load = .ok []) (course : Course)
    {calls : List Call} (formed : ∀ call ∈ calls, call.Formed) :
    Tidy first (Call.runAll course calls s) := by
  induction calls generalizing s with
  | nil => exact tidy
  | cons call calls ih =>
    obtain ⟨head, rest⟩ := List.forall_mem_cons.mp formed
    exact ih (tidy.run empty course head) rest

end Tidy

/-- However a run goes on from an empty file, whichever calls fail, the file is left as it was or was
written with documents of which no two have one platform and one identity, and so is whatever loads
from it. -/
theorem unique_keys_after_calls (course : Course) (calls : List Call) (s : Storage δ)
    (start : s.Holds []) (fresh : Fresh s.ids) (formed : ∀ call ∈ calls, call.Formed) :
    ((Call.runAll course calls s).file = s.file ∨
      ∃ docs, (Call.runAll course calls s).file = s.file.store docs ∧ UniqueKeys docs) ∧
    ∀ docs, (Call.runAll course calls s).file.load = .ok docs → UniqueKeys docs := by
  have tidy : Tidy s.file (Call.runAll course calls s) :=
    Tidy.runAll ⟨start.active, fresh, .inl rfl⟩ start.loaded course formed
  constructor
  · exact tidy.content.imp_right fun ⟨docs, held, orderly⟩ => ⟨docs, held, orderly.unique⟩
  · exact fun docs loaded => (tidy.loaded start.loaded loaded).unique

/-- A listing of a platform under a title. -/
def fairRecord (title : String) : Value :=
  .object [("source", .object [("platform", .text "fairs"), ("source_id", .text "7")]),
    ("title", .text title)]

/-- One listing twice under one title and then under another, with a sweep in between. -/
def renamed : List Call :=
  [.reconcile ⟨5, 0⟩ .standard (fairRecord "Open day"),
    .reconcile ⟨5, 0⟩ .standard (fairRecord "Open day"), .sweep ⟨6, 0⟩,
    .reconcile ⟨7, 0⟩ .standard (fairRecord "Closed day")]

/-- The first write is refused, and the sweep finds the file out of reach. -/
def stormy : Course where
  clock n := ⟨n, 0⟩
  weather
    | 2 => { Weather.calm with
        refused := fun step => if step = .rename then some (.other "busy") else none }
    | 6 => { Weather.calm with reading := some "busy" }
    | _ => .calm

theorem renamed_formed : ∀ call ∈ renamed, call.Formed := by
  have order : Text.Before "source" "title" ∧ Text.Before "platform" "source_id" := by decide
  simp [renamed, fairRecord, Call.Formed, Value.WellFormed, Value.MembersWellFormed,
    Members.Sorted, order]

/-- The first call fails, and the second creates what it would have created. -/
theorem unique_keys_after_calls_renamed :
    bareShelf.Holds [] ∧ Fresh bareShelf.ids ∧ (∀ call ∈ renamed, call.Formed) ∧
    (reconcileBy stormy.ask ⟨5, 0⟩ .standard (fairRecord "Open day") bareShelf).1 =
      .error (.storage (.io "shelf.json" (.other "busy"))) ∧
    (reconcileBy stormy.ask ⟨5, 0⟩ .standard (fairRecord "Open day")
      (Call.runAll stormy (renamed.take 1) bareShelf)).1 = .ok .created ∧
    ((Call.runAll stormy renamed bareShelf).file = bareShelf.file ∨
      ∃ docs, (Call.runAll stormy renamed bareShelf).file = bareShelf.file.store docs ∧
        UniqueKeys docs) ∧
    ∀ docs, (Call.runAll stormy renamed bareShelf).file.load = .ok docs → UniqueKeys docs := by
  have start : bareShelf.Holds [] := ⟨rfl, rfl⟩
  exact ⟨start, fresh_identity, renamed_formed, rfl, rfl,
    unique_keys_after_calls stormy renamed bareShelf start fresh_identity renamed_formed⟩

end Catalog.Sync
