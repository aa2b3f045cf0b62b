import Catalog.Proofs.Json.Rounding
import Catalog.Proofs.Query.Clauses

/-!
Integers in queries. Equality, bounds and the sort order all compare two integers by their doubles.
Main statement: this is exact just where the two are not merged, that is, unless they differ and
have one nearest double; then they count as equal. Nothing below `2 ^ 53` is merged.
-/
namespace Catalog.Query

open Json
open Json.Binary64 (Merged)

/-- The first integer, held at the path, is compared with the second one as integers are. -/
structure Exact (path : String) (doc : Value) (a b : Int) : Prop where
  eq : selects [.field path (.eq (.ofInt b))] doc = true ↔ a = b
  gte : selects [.field path (.gte (.ofInt b))] doc = true ↔ b ≤ a
  lt : selects [.field path (.lt (.ofInt b))] doc = true ↔ a < b
  sorts : compare (some (.ofInt a)) (some (.ofInt b)) = Ord.compare a b

/-- The first integer, held at the path, counts as equal to the second one. -/
structure Tied (path : String) (doc : Value) (a b : Int) : Prop where
  eq : selects [.field path (.eq (.ofInt b))] doc = true
  gte : selects [.field path (.gte (.ofInt b))] doc = true
  lt : selects [.field path (.lt (.ofInt b))] doc = false
  sorts : compare (some (.ofInt a)) (some (.ofInt b)) = .eq

variable {path : String} {doc : Value} {a b : Int} {order : Ordering}

theorem same_eq_compare (x y : Binary64) : x.same y = (x.compare y == .eq) := by
  rw [Bool.eq_iff_iff, Binary64.same, Binary64.compare, beq_iff_eq, beq_iff_eq, compare_eq_iff_eq]

section Answers

variable (held : Document.resolve doc path = some (.ofInt a))
  (ordered : (Binary64.ofInt a).compare (Binary64.ofInt b) = order)
include held ordered

theorem selects_eq_integer : selects [.field path (.eq (.ofInt b))] doc = (order == .eq) := by
  rw [selects_single, clauseHolds, held, holds_eq rfl, ← ordered, ← same_eq_compare]
  exact Bool.or_false _

theorem selects_gte_integer : selects [.field path (.gte (.ofInt b))] doc = (order != .lt) := by
  rw [selects_single, clauseHolds, held, ← ordered]
  rfl

theorem selects_lt_integer : selects [.field path (.lt (.ofInt b))] doc = (order == .lt) := by
  rw [selects_single, clauseHolds, held, ← ordered]
  rfl

end Answers

theorem compare_integers (a b : Int) : compare (some (.ofInt a)) (some (.ofInt b)) =
    (Binary64.ofInt a).compare (Binary64.ofInt b) := by
  rw [compare, Value.ofInt, Value.ofInt, compareValues]
  rfl

theorem exact_of_apart (held : Document.resolve doc path = some (.ofInt a))
    (apart : ¬ Merged a b) : Exact path doc a b := by
  have ordered := Binary64.compare_apart apart
  exact {
    eq := by rw [selects_eq_integer held ordered, beq_iff_eq, compare_eq_iff_eq]
    gte := by rw [selects_gte_integer held ordered, bne_iff_ne, ne_eq, compare_lt_iff_lt, Int.not_lt]
    lt := by rw [selects_lt_integer held ordered, beq_iff_eq, compare_lt_iff_lt]
    sorts := by rw [compare_integers, ordered] }

theorem tied_of_merged (held : Document.resolve doc path = some (.ofInt a))
    (merged : Merged a b) : Tied path doc a b := by
  have ordered := Binary64.compare_merged merged
  exact {
    eq := by rw [selects_eq_integer held ordered]; rfl
    gte := by rw [selects_gte_integer held ordered]; rfl
    lt := by rw [selects_lt_integer held ordered]; rfl
    sorts := by rw [compare_integers, ordered] }

/-- An integer that a document holds compares exactly with every integer that it is not merged with,
every one if either is below `2 ^ 53`; those it is merged with count as equal to it. -/
theorem integers_compare_exactly_iff (held : Document.resolve doc path = some (.ofInt a)) (b : Int) :
    (Exact path doc a b ↔ ¬ Merged a b) ∧ (Merged a b → Tied path doc a b) ∧
      (a.natAbs < 2 ^ 53 ∨ b.natAbs < 2 ^ 53 → Exact path doc a b) := by
  refine ⟨⟨fun exactly merged => ?_, exact_of_apart held⟩, tied_of_merged held, fun small => ?_⟩
  · exact merged.1 (exactly.eq.mp (tied_of_merged held merged).eq)
  · refine exact_of_apart held fun merged => ?_
    have first := merged.large
    have second := merged.symm.large
    omega

def numbered (i : Int) : Value := .object [("n", .ofInt i)]

/-- The least integer that is held at all is merged with its neighbour, and not with a small one. -/
theorem integers_compare_exactly_iff_least :
    Document.resolve (numbered (-9223372036854775808)) "n" =
        some (.ofInt (-9223372036854775808)) ∧
      Tied "n" (numbered (-9223372036854775808)) (-9223372036854775808) (-9223372036854775807) ∧
      Exact "n" (numbered (-9223372036854775808)) (-9223372036854775808) 7 := by
  have held : Document.resolve (numbered (-9223372036854775808)) "n" =
      some (.ofInt (-9223372036854775808)) := rfl
  have merged : Merged (-9223372036854775808) (-9223372036854775807) :=
    ⟨by decide, -9223372036854775808, ⟨by decide, by decide, by decide⟩,
      ⟨by decide, by decide, by decide⟩⟩
  exact ⟨held, (integers_compare_exactly_iff held _).2.1 merged,
    (integers_compare_exactly_iff held 7).2.2 (.inr (by decide))⟩

/-- Two integers beyond `2 ^ 53` that differ by one count as equal everywhere. -/
theorem large_integers_run_together :
    Document.resolve (numbered 9007199254740992) "n" = some (.ofInt 9007199254740992) ∧
      Tied "n" (numbered 9007199254740992) 9007199254740992 9007199254740993 ∧
      ¬ Exact "n" (numbered 9007199254740992) 9007199254740992 9007199254740993 := by
  have tied : Tied "n" (numbered 9007199254740992) 9007199254740992 9007199254740993 :=
    ⟨by decide +kernel, by decide +kernel, by decide +kernel, by decide +kernel⟩
  exact ⟨rfl, tied, fun exactly => absurd (exactly.eq.mp tied.eq) (by decide)⟩

end Catalog.Query
