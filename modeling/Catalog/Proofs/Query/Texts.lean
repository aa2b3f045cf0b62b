import Catalog.Proofs.Json.RoundTrip
import Catalog.Proofs.Query.Equality
import Catalog.Proofs.Time.Reading

/-!
Queries that ask for a text. Texts that read as dates equal all texts of the same instant, other
texts only themselves; a value that is neither a text nor an array of texts never equals one.
-/
namespace Catalog.Query

open Json

/-- Texts that read as dates are known by their instants, all others by themselves. -/
theorem equal_text_iff (a b : String) :
    equal (.text a) (.text b) = true ↔
      Time.Instant.parse? a = Time.Instant.parse? b ∧ (Time.Instant.parse? a = none → a = b) := by
  rw [equal_iff]
  cases x : Time.Instant.parse? a <;> cases y : Time.Instant.parse? b <;>
    simp [essence, undated, Value.instant?, Value.unsigned, x, y]

theorem not_blank_of_parse? {s : String} {t : Time.Instant}
    (read : Time.Instant.parse? s = some t) : Text.isBlankText s = false := by
  cases blank : Text.isBlankText s with
  | false => rfl
  | true =>
    have hyphen := List.all_eq_true.mp blank '-' (Time.Instant.hyphen_of_parse? read)
    exact absurd hyphen (by decide)

theorem isBlankText_of_equal {a b : String} (same : equal (.text a) (.text b) = true) :
    Text.isBlankText a = Text.isBlankText b := by
  obtain ⟨instants, texts⟩ := (equal_text_iff a b).mp same
  cases read : Time.Instant.parse? a with
  | none => rw [texts read]
  | some t => rw [not_blank_of_parse? read, not_blank_of_parse? (instants ▸ read)]

theorem holds_text (t s : String) :
    (Condition.eq (.text s)).holds (some (.text t)) = equal (.text t) (.text s) := by
  simp [Condition.holds]

theorem holds_absent (s : String) : (Condition.eq (.text s)).holds none = false := by
  simp [Condition.holds, equal, Value.instant?, Value.same]

/-- Reading numbers anew changes no equality with a text. -/
theorem equal_reread {v w : Value} (read : v.reread? = some w) (s : String) :
    equal w (.text s) = equal v (.text s) := by
  cases v with
  | text t =>
    cases read
    rfl
  | null | bool =>
    cases read
    rfl
  | number | array | object =>
    obtain ⟨_, _, same⟩ := Option.map_eq_some_iff.mp read
    subst same
    rfl

theorem any_equal_reread {items others : List Value}
    (read : Value.rereadItems? items = some others) (s : String) :
    others.any (fun e => equal e (.text s)) = items.any fun e => equal e (.text s) := by
  induction items generalizing others with
  | nil =>
    cases read
    rfl
  | cons e items ih =>
    obtain ⟨f, first, more⟩ := Option.bind_eq_some_iff.mp read
    obtain ⟨fs, later, same⟩ := Option.map_eq_some_iff.mp more
    subst same
    rw [List.any_cons, List.any_cons, equal_reread first, ih later]

theorem holds_reread {v w : Value} (read : v.reread? = some w) (s : String) :
    (Condition.eq (.text s)).holds (some w) = (Condition.eq (.text s)).holds (some v) := by
  have whole := equal_reread read s
  cases v with
  | text | null | bool =>
    cases read
    rfl
  | number | object =>
    obtain ⟨_, _, same⟩ := Option.map_eq_some_iff.mp read
    subst same
    rfl
  | array items =>
    obtain ⟨others, rest, same⟩ := Option.map_eq_some_iff.mp read
    subst same
    simp only [Condition.holds, Option.getD_some, whole, any_equal_reread rest]

end Catalog.Query
