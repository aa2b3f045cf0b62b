import Catalog.Proofs.Document.Reread
import Catalog.Proofs.Json.Depth
import Catalog.Proofs.Json.Literal
import Catalog.Proofs.Sync.Summary

/-!
The text of a summary. It lists the fields in the order in which a report has them and reads back as
the summary, since nothing in it is a number that reading could change.
-/
namespace Catalog

open Json

namespace Json.Value

/-- Values that hold no other values. -/
def Scalar : Value → Prop
  | .array _ | .object _ => False
  | _ => True

theorem Scalar.arranged {v : Value} (scalar : v.Scalar) : v.arranged = v := by
  cases v with
  | array | object => exact scalar.elim
  | _ => rfl

theorem Scalar.depth {v : Value} (scalar : v.Scalar) : v.depth = 0 := by
  cases v with
  | array | object => exact scalar.elim
  | _ => rfl

/-- Scalars, and objects of scalars. -/
def Shallow (v : Value) : Prop :=
  v.Scalar ∨ ∃ members, v = .object members ∧ ∀ m ∈ members, m.2.Scalar

theorem Shallow.depth {v : Value} (shallow : v.Shallow) : v.depth ≤ 1 := by
  obtain scalar | ⟨members, rfl, scalars⟩ := shallow
  · rw [scalar.depth]
    exact Nat.zero_le 1
  · rw [Value.depth]
    refine Nat.succ_le_succ (membersDepth_le.mpr fun m member => ?_)
    exact Nat.le_of_eq (scalars m member).depth

theorem arranged_of_scalars {members : List (String × Value)}
    (scalars : ∀ m ∈ members, m.2.Scalar) : (Value.object members).arranged = .record members := by
  have same : members.map (fun m => (m.1, m.2.arranged)) = members :=
    (List.map_congr_left fun m member => congrArg (m.1, ·) (scalars m member).arranged).trans
      (List.map_id members)
  rw [arranged_object, same]

theorem rereads_ofNat {n : Nat} (fits : n < 2 ^ 64) : (Value.ofNat n).Rereads (.ofNat n) := by
  have read : (Number.integer n).reread? = some (.integer n) :=
    Number.reread?_integer (by omega) (by omega)
  rw [Rereads, Value.ofNat, reread?, read]
  rfl

end Json.Value

namespace Sync

namespace SourceSummary

/-- The counts are numbers of 64 bits. -/
structure Fits (s : SourceSummary) : Prop where
  new : s.new < 2 ^ 64
  updated : s.updated < 2 ^ 64
  skipped : s.skipped < 2 ^ 64

theorem errorMember_scalar (error : Option String) : ∀ m ∈ errorMember error, m.2.Scalar := by
  cases error <;> simp [errorMember, Value.Scalar]

theorem errorMember_rereads (error : Option String) : ∀ m ∈ errorMember error, m.2.Rereads m.2 := by
  cases error <;> simp [errorMember, Value.Rereads, Value.reread?]

theorem members_scalar (s : SourceSummary) : ∀ m ∈ s.members, m.2.Scalar := by
  simpa [members, Value.ofNat, Value.Scalar, or_imp, forall_and] using errorMember_scalar s.error

theorem Fits.members_reread {s : SourceSummary} (fits : s.Fits) :
    ∀ m ∈ s.members, m.2.Rereads m.2 := by
  refine List.forall_mem_append.mpr ⟨?_, errorMember_rereads s.error⟩
  simp only [List.forall_mem_cons]
  exact ⟨Value.rereads_ofNat fits.new, Value.rereads_ofNat fits.updated,
    Value.rereads_ofNat fits.skipped, nofun⟩

end SourceSummary

namespace Report

variable {r : Report}

/-- The counts of a report are numbers of 64 bits. -/
structure Fits (r : Report) : Prop where
  platforms : ∀ p ∈ r.platforms, p.2.Fits
  deactivated : ∀ c ∈ r.cleanup, c.deactivated < 2 ^ 64
  duration : r.duration < 2 ^ 64

theorem forall_mem_fields {motive : String × Value → Prop}
    (runId : motive ("run_id", .text r.runId))
    (started : motive ("started_at", .text r.started.exactStamp))
    (backend : motive ("backend", .text r.backend.name))
    (success : motive ("success", .bool r.success))
    (platforms : ∀ p ∈ r.platforms, motive (p.1, .object p.2.members))
    (cleanup : ∀ c ∈ r.cleanup, motive ("cleanup", .object c.members))
    (error : ∀ m ∈ SourceSummary.errorMember r.error, motive m)
    (duration : motive ("duration", .ofNat r.duration)) : ∀ m ∈ r.fields, motive m := by
  unfold fields
  simp only [List.forall_mem_append, List.forall_mem_cons, List.forall_mem_map]
  refine ⟨⟨⟨⟨⟨runId, started, backend, success, nofun⟩, platforms⟩, ?_⟩, error⟩, duration, nofun⟩
  cases held : r.cleanup with
  | none => exact nofun
  | some c => exact List.forall_mem_singleton.mpr (cleanup c held)

theorem fields_shallow (r : Report) : ∀ m ∈ r.fields, m.2.Shallow := by
  refine forall_mem_fields (.inl trivial) (.inl trivial) (.inl trivial) (.inl trivial)
    (fun p _ => .inr ⟨_, rfl, p.2.members_scalar⟩) (fun c _ => .inr ⟨_, rfl, ?_⟩)
    (fun m member => .inl (SourceSummary.errorMember_scalar _ m member)) (.inl trivial)
  exact List.forall_mem_cons.mpr ⟨trivial, SourceSummary.errorMember_scalar c.error⟩

theorem Fits.fields_reread (fits : r.Fits) : ∀ m ∈ r.fields, m.2.Rereads m.2 := by
  refine forall_mem_fields rfl rfl rfl rfl
    (fun p platform => Value.rereads_object.mpr (fits.platforms p platform).members_reread)
    (fun c held => Value.rereads_object.mpr (List.forall_mem_cons.mpr ⟨?_, ?_⟩))
    (SourceSummary.errorMember_rereads r.error) (Value.rereads_ofNat fits.duration)
  · exact Value.rereads_ofNat (fits.deactivated c held)
  · exact SourceSummary.errorMember_rereads c.error

theorem arranged_fields (r : Report) : (Value.object r.fields).arranged = r.summary := by
  rw [Value.arranged_object, summary]
  refine congrArg Value.record (List.map_congr_left fun m member => ?_)
  obtain ⟨name, v⟩ := m
  obtain scalar | ⟨members, rfl, scalars⟩ := r.fields_shallow _ member
  · cases v with
    | array | object => exact scalar.elim
    | _ => rfl
  · exact congrArg (name, ·) (Value.arranged_of_scalars scalars)

/-- The text of a summary reads back as the summary. -/
theorem Fits.parse?_summaryText (fits : r.Fits) : Value.parse? r.summaryText = some r.summary := by
  have steady : (Value.object r.fields).reread? = some (.object r.fields) :=
    Value.rereads_object.mpr fits.fields_reread
  have depth : (Value.object r.fields).depth ≤ Progress.deepest := by
    have inner : Value.membersDepth r.fields ≤ 1 :=
      Value.membersDepth_le.mpr fun m member => (r.fields_shallow m member).depth
    rw [Value.depth, Progress.deepest]
    omega
  rw [summaryText, Value.parse?_indented_arranged, steady, Option.bind_some, if_pos depth,
    arranged_fields]

end Report

end Sync

end Catalog
