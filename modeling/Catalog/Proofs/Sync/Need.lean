import Catalog.Proofs.Json.Same
import Catalog.Sync.Freshness

/-!
When a listing is written again, said as a rule: nothing confirms it, its confirmation is too far
back, or one of its significant fields differs. Dates differ by more than a time, texts by more than
letter case and the blanks around them, other values by structure. Main statement: the listing is
written again just by this rule, with dates a second and a millisecond apart counting as moved; the
rule with one second asks for more exactly where a date moved by something between the two.
-/
namespace Catalog.Sync

open Json Time

variable {existing incoming old new : Value} {now : Instant} {span : Int} {apart : Nat}
  {path : String}

/-! How old a confirmation is -/

/-- The value at a path reads as a date. -/
def ReadsAt (doc : Value) (path : String) (t : Instant) : Prop :=
  ∃ value, Document.resolve doc path = some value ∧ value.instant? = some t

/-- Nothing confirms the listing, or what does is further back than the time allowed: when it was
last seen or, if that is no date, when it was last written. -/
inductive Overdue (existing : Value) (now : Instant) (span : Int) : Prop
  | unconfirmed (unseen : ∀ t, ¬ ReadsAt existing Field.lastUpdated t)
    (unwritten : ∀ t, ¬ ReadsAt existing Field.updatedAt t)
  | seen {t : Instant} (seen : ReadsAt existing Field.lastUpdated t) (old : span < now.since t)
  | written {t : Instant} (unseen : ∀ t, ¬ ReadsAt existing Field.lastUpdated t)
    (written : ReadsAt existing Field.updatedAt t) (old : span < now.since t)

theorem readsAt_iff {doc : Value} {t : Instant} :
    ReadsAt doc path t ↔ (Document.resolve doc path).bind Value.instant? = some t :=
  Option.bind_eq_some_iff.symm

theorem not_readsAt {doc : Value}
    (none : (Document.resolve doc path).bind Value.instant? = none) (t : Instant) :
    ¬ ReadsAt doc path t := by
  rw [readsAt_iff, none]
  exact nofun

theorem ReadsAt.unique {doc : Value} {t s : Instant} (first : ReadsAt doc path t)
    (second : ReadsAt doc path s) : t = s := by
  rw [readsAt_iff] at first second
  exact Option.some.inj (first.symm.trans second)

theorem isOlder_iff : isOlder existing now span = true ↔ Overdue existing now span := by
  unfold isOlder lastConfirmed?
  cases seen : (Document.resolve existing Field.lastUpdated).bind Value.instant? with
  | some t =>
    have reads : ReadsAt existing Field.lastUpdated t := readsAt_iff.mpr seen
    simp only [decide_eq_true_eq]
    constructor
    · exact .seen reads
    · rintro (⟨unseen, -⟩ | ⟨again, old⟩ | ⟨unseen, -, -⟩)
      · exact absurd reads (unseen t)
      · exact reads.unique again ▸ old
      · exact absurd reads (unseen t)
  | none =>
    have unseen := not_readsAt seen
    cases written : (Document.resolve existing Field.updatedAt).bind Value.instant? with
    | some t =>
      have reads : ReadsAt existing Field.updatedAt t := readsAt_iff.mpr written
      simp only [decide_eq_true_eq]
      constructor
      · exact .written unseen reads
      · rintro (⟨-, unwritten⟩ | ⟨again, -⟩ | ⟨-, again, old⟩)
        · exact absurd reads (unwritten t)
        · exact absurd again (unseen _)
        · exact reads.unique again ▸ old
    | none => exact iff_of_true rfl (.unconfirmed unseen (not_readsAt written))

/-! How a field differs -/

/-- Both values read as dates. -/
def BothDates (old new : Value) : Prop :=
  ∃ x y, old.instant? = some x ∧ new.instant? = some y

/-- Both values are texts. -/
def BothTexts (old new : Value) : Prop := ∃ s t, old = .text s ∧ new = .text t

/-- Two values differ, dates by more than so many nanoseconds. -/
inductive Differ (apart : Nat) : Value → Value → Prop
  | dates {old new : Value} {x y : Instant} (first : old.instant? = some x)
    (second : new.instant? = some y) (moved : apart < (x.since y).natAbs) : Differ apart old new
  | texts {s t : String} (undated : ¬ BothDates (.text s) (.text t))
    (reworded : folded s ≠ folded t) : Differ apart (.text s) (.text t)
  | values {old new : Value} (undated : ¬ BothDates old new) (mixed : ¬ BothTexts old new)
    (unequal : old.same new = false) : Differ apart old new

/-- The nanoseconds that a duration may have before it counts as longer than a second: whole
milliseconds are compared. -/
def secondInMillis : Nat := 1000999999

theorem moved_iff (nanos : Int) :
    1000 < (nanos.tdiv 1000000).natAbs ↔ secondInMillis < nanos.natAbs := by
  rw [Int.natAbs_tdiv, secondInMillis]
  change 1000 < nanos.natAbs / 1000000 ↔ _
  omega

theorem valueChanged_iff : valueChanged old new = true ↔ Differ secondInMillis old new := by
  unfold valueChanged
  split
  · rename_i x y first second
    rw [decide_eq_true_iff, moved_iff]
    constructor
    · exact .dates first second
    · rintro (⟨read, read', moved⟩ | ⟨undated, -⟩ | ⟨undated, -, -⟩)
      · cases first.symm.trans read
        cases second.symm.trans read'
        exact moved
      · exact absurd ⟨x, y, first, second⟩ undated
      · exact absurd ⟨x, y, first, second⟩ undated
  · rename_i unread
    have undated : ¬ BothDates old new := fun ⟨x, y, first, second⟩ => unread x y first second
    split
    · rename_i s t
      rw [bne_iff_ne]
      constructor
      · exact .texts undated
      · rintro (⟨first, second, -⟩ | ⟨-, reworded⟩ | ⟨-, mixed, -⟩)
        · exact absurd ⟨_, _, first, second⟩ undated
        · exact reworded
        · exact absurd ⟨s, t, rfl, rfl⟩ mixed
    · rename_i other
      have mixed : ¬ BothTexts old new := fun ⟨s, t, first, second⟩ => other s t first second
      rw [Bool.not_eq_true']
      constructor
      · exact .values undated mixed
      · rintro (⟨first, second, -⟩ | ⟨-, -⟩ | ⟨-, -, unequal⟩)
        · exact absurd ⟨_, _, first, second⟩ undated
        · exact absurd ⟨_, _, rfl, rfl⟩ mixed
        · exact unequal

/-- Two dates are more than a second apart, but not by a whole millisecond. -/
def JustMoved (old new : Value) : Prop :=
  ∃ x y, old.instant? = some x ∧ new.instant? = some y ∧
    nanosPerSecond < (x.since y).natAbs ∧ (x.since y).natAbs ≤ secondInMillis

theorem differ_second_iff :
    Differ nanosPerSecond old new ↔ Differ secondInMillis old new ∨ JustMoved old new := by
  have second : nanosPerSecond ≤ secondInMillis := by decide
  constructor
  · rintro (⟨first, read, moved⟩ | ⟨undated, reworded⟩ | ⟨undated, mixed, unequal⟩)
    · rename_i x y
      rcases Nat.lt_or_ge secondInMillis (x.since y).natAbs with far | near
      · exact .inl (.dates first read far)
      · exact .inr ⟨x, y, first, read, moved, near⟩
    · exact .inl (.texts undated reworded)
    · exact .inl (.values undated mixed unequal)
  · rintro ((⟨first, read, moved⟩ | ⟨undated, reworded⟩ | ⟨undated, mixed, unequal⟩) |
      ⟨x, y, first, read, moved, -⟩)
    · exact .dates first read (Nat.lt_of_le_of_lt second moved)
    · exact .texts undated reworded
    · exact .values undated mixed unequal
    · exact .dates first read moved

/-! The rule -/

/-- The value at a path; what is absent counts as null. -/
def fieldAt (doc : Value) (path : String) : Value := (Document.resolve doc path).getD .null

/-- A confirmation is missing or too old, or a significant field differs, a date by more than so
many nanoseconds. -/
def Outdated (apart : Nat) (existing incoming : Value) (now : Instant) (span : Int) : Prop :=
  Overdue existing now span ∨
    ∃ path ∈ significantFields, Differ apart (fieldAt existing path) (fieldAt incoming path)

/-- A listing is written again just by the rule, with dates a second and a millisecond apart
counting as moved. The rule with one second asks for more exactly where a date moved by something
between the two. -/
theorem needsUpdate_by_rule (existing incoming : Value) (now : Instant) (span : Int) :
    (needsUpdateWithin existing incoming now span = true ↔
      Outdated secondInMillis existing incoming now span) ∧
    (Outdated nanosPerSecond existing incoming now span ↔
      needsUpdateWithin existing incoming now span = true ∨
        ∃ path ∈ significantFields, JustMoved (fieldAt existing path) (fieldAt incoming path)) := by
  have rule : needsUpdateWithin existing incoming now span = true ↔
      Outdated secondInMillis existing incoming now span := by
    rw [needsUpdateWithin, Bool.or_eq_true, isOlder_iff, List.any_eq_true]
    exact or_congr_right (exists_congr fun path => and_congr_right fun _ => valueChanged_iff)
  refine ⟨rule, ?_⟩
  rw [rule, Outdated, Outdated, or_assoc]
  refine or_congr_right ?_
  simp only [differ_second_iff, and_or_left, exists_or]

/-- A listing that was just seen and begins at the given time. -/
def beginningAt (start : String) : Value :=
  .object [("dates", .object [("start_date", .text start)]),
    ("source", .object [("last_updated", .text "2026-10-18T12:00:00Z")])]

/-- Its start moves by a second and half a millisecond, and the listing is not written again. -/
theorem small_move_unnoticed :
    let stored := beginningAt "2026-11-01T09:00:00Z"
    let sent := beginningAt "2026-11-01T09:00:01.0005Z"
    Outdated nanosPerSecond stored sent ⟨1792324800, 0⟩ Window.standard.nanos ∧
      needsUpdate stored sent ⟨1792324800, 0⟩ .standard = false := by
  intro stored sent
  have current : needsUpdate stored sent ⟨1792324800, 0⟩ .standard = false := by decide +kernel
  have before : (fieldAt stored Field.startDate).instant? = some ⟨1793523600, 0⟩ := by
    decide +kernel
  have after : (fieldAt sent Field.startDate).instant? = some ⟨1793523601, 500000⟩ := by
    decide +kernel
  have significant : Field.startDate ∈ significantFields := by decide
  exact ⟨.inr ⟨_, significant, .dates before after (by decide)⟩, current⟩

end Catalog.Sync
