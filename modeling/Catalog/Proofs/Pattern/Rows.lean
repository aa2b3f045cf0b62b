import Catalog.Pattern.Basic
import Catalog.Proofs.Pattern.Agreement
import Catalog.Proofs.Pattern.Written

/-!
Single characters in a row. Texts that each stand for one part are read, one behind the other, as
these parts in a row. Where every part is a test of one character, the row matches just where the
tests pass one after the other.
-/
namespace Catalog.Pattern

open Reader (Progress StandsFor)

variable {α : Type} {as : List α} {write : α → List Char} {part : α → Expression} {f : Flags}

/-! Reading -/

theorem Reader.StandsFor.ne_nil {text : List Char} {e : Expression} (stands : StandsFor text e) :
    text ≠ [] := by
  rintro rfl
  obtain ⟨c, rest, written, -⟩ := stands ⟨[], [], [], false, []⟩ [] rfl
  cases written

/-- Every part takes one step and at least one character. -/
theorem Reader.run?_row {parts : List Expression} {fuel : Nat}
    (each : ∀ a ∈ as, StandsFor (write a) (part a)) (enough : (as.flatMap write).length < fuel) :
    run? fuel ⟨parts, [], [], false, []⟩ (as.flatMap write) =
      some (.ofParts (parts.reverse ++ as.map part)) := by
  induction as generalizing parts fuel with
  | nil =>
    obtain ⟨fuel, rfl⟩ := Nat.exists_eq_add_of_lt enough
    simp [run?, skipSpace, Progress.body]
  | cons a as ih =>
    obtain ⟨here, others⟩ := List.forall_mem_cons.mp each
    obtain ⟨fuel, rfl⟩ := Nat.exists_eq_succ_of_ne_zero (Nat.ne_of_gt (Nat.zero_lt_of_lt enough))
    obtain ⟨c, rest, written, step⟩ := here ⟨parts, [], [], false, []⟩ (as.flatMap write) rfl
    have shorter := List.length_pos_iff.mpr here.ne_nil
    rw [List.flatMap_cons, List.length_append] at enough
    have room : (as.flatMap write).length < fuel := by omega
    have later : run? fuel ⟨part a :: parts, [], [], false, []⟩ (as.flatMap write) =
        some (.ofParts ((part a :: parts).reverse ++ as.map part)) := ih others room
    rw [List.flatMap_cons, written]
    simp only [run?, skipSpace, Bool.false_eq_true, if_false, step, Option.bind_eq_bind,
      Option.bind_some]
    simpa [Progress.add] using later

theorem Expression.listDepth_le {es : List Expression} {n : Nat} (flat : ∀ e ∈ es, e.depth ≤ n) :
    listDepth es ≤ n := by
  induction es with
  | nil => exact Nat.zero_le n
  | cons e es ih =>
    obtain ⟨here, others⟩ := List.forall_mem_cons.mp flat
    exact Nat.max_le.mpr ⟨here, ih others⟩

theorem Expression.depth_ofParts_le {es : List Expression} {n : Nat}
    (flat : ∀ e ∈ es, e.depth ≤ n) : (ofParts es).depth ≤ n + 1 := by
  match es with
  | [] => exact Nat.zero_le _
  | [e] => exact Nat.le_succ_of_le (flat e (List.mem_singleton_self e))
  | e :: d :: es => exact Nat.succ_le_succ (listDepth_le flat)

theorem read?_row (each : ∀ a ∈ as, StandsFor (write a) (part a))
    (flat : ∀ a ∈ as, (part a).depth < Expression.deepest) :
    Expression.read? false (as.flatMap write) = some (.ofParts (as.map part)) := by
  have shallow : (Expression.ofParts (as.map part)).depth ≤ Expression.deepest :=
    Expression.depth_ofParts_le (List.forall_mem_map.mpr fun a member =>
      Nat.le_of_lt_succ (flat a member))
  rw [Expression.read?, Reader.run?_row each (Nat.lt_succ_self _)]
  exact if_pos shallow

/-! Resolving -/

namespace Matcher

/-- Tests of one character after the other, and nothing behind them. -/
def chain (tests : List CharTest) : Matcher :=
  tests.foldr (fun test rest => .seq (.char test) rest) .empty

/-- A row of tests as expressions are resolved: a single one stands for itself. -/
def row : List CharTest → Matcher
  | [test] => .char test
  | tests => chain tests

end Matcher

variable {test : α → CharTest}

theorem resolveParts?_row (each : ∀ a ∈ as, (part a).resolve? f = some (.char (test a), f)) :
    Expression.resolveParts? f (as.map part) = some (.chain (as.map test), f) := by
  induction as with
  | nil => rfl
  | cons a as ih =>
    obtain ⟨here, others⟩ := List.forall_mem_cons.mp each
    exact resolveParts?_cons here (ih others)

theorem resolve?_row (each : ∀ a ∈ as, (part a).resolve? f = some (.char (test a), f)) :
    (Expression.ofParts (as.map part)).resolve? f = some (.row (as.map test), f) := by
  match as with
  | [] => rfl
  | [a] => exact each a (List.mem_singleton_self a)
  | a :: b :: as => exact resolveParts?_row each

theorem compile_row [SizeLimit] (each : ∀ a ∈ as, StandsFor (write a) (part a))
    (flat : ∀ a ∈ as, (part a).depth < Expression.deepest)
    (tests : ∀ a ∈ as, (part a).resolve? f = some (.char (test a), f)) :
    compile false f (as.flatMap write) =
      if SizeLimit.admits false f (as.flatMap write) then .ok (.row (as.map test))
      else .error .tooLarge := by
  have meaning : meaning? false f (as.flatMap write) = some (.row (as.map test)) := by
    rw [meaning?, read?_row each flat]
    change ((Expression.ofParts (as.map part)).resolve? f).bind _ = _
    rw [resolve?_row tests]
    rfl
  rw [compile, meaning]

/-! Matching -/

/-- From the position on, every item meets the character in its place. -/
def MetFrom (meets : α → Char → Prop) (as : List α) (text : List Char) (p : Nat) : Prop :=
  ∀ i a, as[i]? = some a → ∃ c, text[p + i]? = some c ∧ meets a c

variable {meets : α → Char → Prop} {text : List Char} {p q : Nat} {ps : List Nat}
  {properties : Property → Char → Bool}

theorem metFrom_nil : MetFrom meets [] text p := fun i a none => by simp at none

theorem metFrom_cons {a : α} : MetFrom meets (a :: as) text p ↔
    (∃ c, text[p]? = some c ∧ meets a c) ∧ MetFrom meets as text (p + 1) := by
  constructor
  · refine fun met => ⟨met 0 a rfl, fun i b held => ?_⟩
    rw [Nat.add_assoc, Nat.add_comm 1 i]
    exact met (i + 1) b held
  · rintro ⟨here, later⟩ (_ | i) b held
    · cases held
      exact here
    · rw [← Nat.add_assoc, Nat.add_right_comm]
      exact later i b held

theorem mem_ends_char {t : CharTest} :
    q ∈ (Matcher.char t).ends properties text.toArray ps ↔
      ∃ p ∈ ps, q = p + 1 ∧ ∃ c, text[p]? = some c ∧ t.passes properties c = true := by
  simp only [Matcher.ends, List.mem_filterMap, List.getElem?_toArray]
  refine exists_congr fun p => and_congr_right fun _ => ?_
  cases text[p]? with
  | none => simp
  | some c =>
    simp only [Option.some.injEq, exists_eq_left', Option.ite_none_right_eq_some]
    exact and_comm.trans (and_congr_left' eq_comm)

/-- Each test moves on by one character, so the row ends as many characters on as it has tests. -/
theorem mem_ends_chain
    (tests : ∀ a ∈ as, ∀ c, (test a).passes properties c = true ↔ meets a c) :
    q ∈ (Matcher.chain (as.map test)).ends properties text.toArray ps ↔
      ∃ p ∈ ps, q = p + as.length ∧ MetFrom meets as text p := by
  induction as generalizing ps with
  | nil => simp [Matcher.chain, Matcher.ends, metFrom_nil]
  | cons a as ih =>
    obtain ⟨here, others⟩ := List.forall_mem_cons.mp tests
    change q ∈ (Matcher.chain (as.map test)).ends properties text.toArray
      ((Matcher.char (test a)).ends properties text.toArray ps) ↔ _
    rw [ih others]
    simp only [mem_ends_char, here, metFrom_cons, List.length_cons]
    constructor
    · rintro ⟨_, ⟨p, member, rfl, met⟩, rfl, later⟩
      exact ⟨p, member, by omega, met, later⟩
    · rintro ⟨p, member, rfl, met, later⟩
      exact ⟨p + 1, ⟨p, member, rfl, met⟩, by omega, later⟩

theorem ends_row (tests : List CharTest) (text : Array Char) (ps : List Nat) :
    (Matcher.row tests).ends properties text ps =
      (Matcher.chain tests).ends properties text ps := by
  match tests with
  | [] => rfl
  | [_] => rfl
  | _ :: _ :: _ => rfl

theorem matchesIn_row
    (tests : ∀ a ∈ as, ∀ c, (test a).passes properties c = true ↔ meets a c) :
    (Matcher.row (as.map test)).matchesIn properties text = true ↔
      ∃ p ≤ text.length, MetFrom meets as text p := by
  have some_end : (Matcher.row (as.map test)).matchesIn properties text = true ↔
      ∃ q, q ∈ (Matcher.chain (as.map test)).ends properties text.toArray
        (List.range (text.length + 1)) := by
    rw [Matcher.matchesIn, ends_row, Bool.not_eq_true', List.isEmpty_eq_false_iff_exists_mem]
  rw [some_end]
  simp only [mem_ends_chain tests, List.mem_range, Nat.lt_succ_iff]
  constructor
  · rintro ⟨_, p, within, -, met⟩
    exact ⟨p, within, met⟩
  · rintro ⟨p, within, met⟩
    exact ⟨_, p, within, rfl, met⟩

end Catalog.Pattern
