import Catalog.Proofs.Lists
import Catalog.Proofs.Query.Clauses

/-!
Membership in a list, item by item. Main statement: asking for one of several items is asking for
any of them by itself, for a value by equality and for a pattern by its match. Items that are
arrays or objects are left out: membership looks for them among the elements of an array, equality
at the array as a whole.
-/
namespace Catalog.Query

open Json

namespace Item

/-- A pattern, or a value that is neither an array nor an object. -/
def Simple : Item → Prop
  | .value v => Condition.isCompound v = false
  | .pattern _ => True

/-- The condition that asks for the item by itself. -/
def alone : Item → Condition
  | .value v => .eq v
  | .pattern p => .regex p

theorem admits_pattern (p : Pattern) (v : Value) : (Item.pattern p).admits v = matchesText p v := by
  cases v <;> rfl

theorem holds_alone {item : Item} (simple : item.Simple) (actual : Option Value) :
    item.alone.holds actual = (tried actual).any item.admits := by
  cases item with
  | value v => exact holds_eq simple actual
  | pattern p => rw [alone, holds_regex, funext (admits_pattern p)]

end Item

theorem holds_oneOf_alone {items : List Item} (simple : ∀ item ∈ items, item.Simple)
    (actual : Option Value) :
    (Condition.oneOf items).holds actual = items.any fun item => item.alone.holds actual := by
  rw [holds_oneOf, any_any_comm, Bool.eq_iff_iff, List.any_eq_true, List.any_eq_true]
  refine exists_congr fun item => and_congr_right fun member => ?_
  rw [Item.holds_alone (simple item member)]

/-- A document has one of some simple items at a path just if it meets one of the alternatives that
ask for each item by itself; of no items nothing has any. -/
theorem membership_is_disjunction (path : String) (doc : Value) {items : List Item}
    (simple : ∀ item ∈ items, item.Simple) :
    selects [.field path (.oneOf items)] doc =
        selects [.either (items.map fun item => [.field path item.alone])] doc ∧
      selects [.field path (.oneOf [])] doc = false := by
  constructor
  · calc selects [.field path (.oneOf items)] doc
      _ = items.any fun item => item.alone.holds (Document.resolve doc path) := by
        rw [selects_single, clauseHolds, holds_oneOf_alone simple]
      _ = items.any fun item => selects [.field path item.alone] doc := by
        simp only [selects_single, clauseHolds]
      _ = selects [.either (items.map fun item => [.field path item.alone])] doc := by
        rw [selects_single, clauseHolds, anySelects_eq, List.any_map]
        rfl
  · rw [selects_single, clauseHolds, holds_oneOf_alone (List.forall_mem_nil _), List.any_nil]

def tagged : Value := .object [("tags", .array [.text "Rust", .text "2026-01-01T01:00:00+01:00"])]

-- No machine is too large for the pattern below.
attribute [local instance] Pattern.SizeLimit.unlimited

theorem membership_is_disjunction_tagged : ∃ p, Pattern.new "^R" (some "") = .ok p ∧
    (∀ item ∈ [.pattern p, .value .null, .value (.text "2026-01-01")], Item.Simple item) ∧
    selects [.field "tags" (.oneOf [.pattern p, .value .null, .value (.text "2026-01-01")])] tagged =
      selects [.either [[.field "tags" (.regex p)], [.field "tags" (.eq .null)],
        [.field "tags" (.eq (.text "2026-01-01"))]]] tagged ∧
    selects [.field "tags" (.oneOf [])] tagged = false := by
  obtain ⟨p, made⟩ : ∃ p, Pattern.new "^R" (some "") = .ok p := exists_ok (by decide +kernel)
  have simple : ∀ item ∈ [.pattern p, .value .null, .value (.text "2026-01-01")],
      Item.Simple item := by simp [Item.Simple, Condition.isCompound]
  exact ⟨p, made, simple, membership_is_disjunction "tags" tagged simple⟩

end Catalog.Query
