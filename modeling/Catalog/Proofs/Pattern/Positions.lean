import Mathlib.Data.List.Sort
import Catalog.Pattern.Meaning

/-!
Positions in ascending order. Whatever a matcher does to an ascending list of positions gives an
ascending list again, so such lists are determined by their members. Two matchers are alike if no
ASCII text tells them apart.
-/
namespace Catalog.Pattern

/-- Every position once, the earlier ones first. -/
def Ascending (ps : List Nat) : Prop := ps.Pairwise (· < ·)

theorem Ascending.eq_of_mem_iff {ps qs : List Nat} (first : Ascending ps) (second : Ascending qs)
    (same : ∀ p, p ∈ ps ↔ p ∈ qs) : ps = qs :=
  List.Pairwise.eq_of_mem_iff first second same

namespace Positions

variable {step other : List Nat → List Nat} {xs ys ps reached frontier : List Nat}

theorem mem_mergeFrom {fuel : Nat} (enough : xs.length + ys.length < fuel) (p : Nat) :
    p ∈ mergeFrom fuel xs ys ↔ p ∈ xs ∨ p ∈ ys := by
  induction fuel generalizing xs ys with
  | zero => exact absurd enough (Nat.not_lt_zero _)
  | succ fuel ih =>
    cases xs with
    | nil => simp [mergeFrom]
    | cons x xs =>
      cases ys with
      | nil => simp [mergeFrom]
      | cons y ys =>
        simp only [List.length_cons] at enough
        simp only [mergeFrom]
        split
        · rw [List.mem_cons, ih (by simp only [List.length_cons]; omega), List.mem_cons (l := xs)]
          tauto
        · split
          · rw [List.mem_cons, ih (by simp only [List.length_cons]; omega), List.mem_cons (l := ys)]
            tauto
          · have same : x = y := by omega
            rw [List.mem_cons, ih (by omega), List.mem_cons (l := xs), List.mem_cons (l := ys),
              same]
            tauto

theorem ascending_mergeFrom {fuel : Nat} (enough : xs.length + ys.length < fuel)
    (first : Ascending xs) (second : Ascending ys) : Ascending (mergeFrom fuel xs ys) := by
  induction fuel generalizing xs ys with
  | zero => exact absurd enough (Nat.not_lt_zero _)
  | succ fuel ih =>
    cases xs with
    | nil => exact second
    | cons x xs =>
      cases ys with
      | nil => exact first
      | cons y ys =>
        simp only [List.length_cons] at enough
        obtain ⟨aboveX, first'⟩ := List.pairwise_cons.mp first
        obtain ⟨aboveY, second'⟩ := List.pairwise_cons.mp second
        simp only [mergeFrom]
        split
        · rename_i below
          have room : xs.length + (y :: ys).length < fuel := by simp only [List.length_cons]; omega
          refine List.pairwise_cons.mpr ⟨fun p member => ?_, ih room first' second⟩
          rcases (mem_mergeFrom room p).mp member with left | right
          · exact aboveX p left
          · rcases List.mem_cons.mp right with rfl | later
            · exact below
            · exact Nat.lt_trans below (aboveY p later)
        · split
          · rename_i below
            have room : (x :: xs).length + ys.length < fuel := by
              simp only [List.length_cons]
              omega
            refine List.pairwise_cons.mpr ⟨fun p member => ?_, ih room first second'⟩
            rcases (mem_mergeFrom room p).mp member with left | right
            · rcases List.mem_cons.mp left with rfl | later
              · exact below
              · exact Nat.lt_trans below (aboveX p later)
            · exact aboveY p right
          · have same : x = y := by omega
            have room : xs.length + ys.length < fuel := by omega
            refine List.pairwise_cons.mpr ⟨fun p member => ?_, ih room first' second'⟩
            rcases (mem_mergeFrom room p).mp member with left | right
            · exact aboveX p left
            · exact same ▸ aboveY p right

theorem mem_merge (p : Nat) : p ∈ merge xs ys ↔ p ∈ xs ∨ p ∈ ys :=
  mem_mergeFrom (Nat.lt_succ_self _) p

theorem ascending_merge (first : Ascending xs) (second : Ascending ys) :
    Ascending (merge xs ys) := ascending_mergeFrom (Nat.lt_succ_self _) first second

section Steps

variable (keeps : ∀ ps, Ascending ps → Ascending (step ps))

include keeps

theorem ascending_times (n : Nat) (ascending : Ascending ps) : Ascending (times step n ps) := by
  induction n generalizing ps with
  | zero => exact ascending
  | succ n ih =>
    simp only [times]
    split
    · exact ascending
    · exact ih (keeps ps ascending)

theorem ascending_within (n : Nat) (ascending : Ascending reached) (new : Ascending frontier) :
    Ascending (within step n reached frontier) := by
  induction n generalizing reached frontier with
  | zero => exact ascending
  | succ n ih =>
    have next : Ascending ((step frontier).filter fun p => !reached.contains p) :=
      (keeps frontier new).filter _
    simp only [within]
    split
    · exact ascending
    · exact ih (ascending_merge ascending next) next

theorem times_congr (same : ∀ ps, Ascending ps → step ps = other ps) (n : Nat)
    (ascending : Ascending ps) : times step n ps = times other n ps := by
  induction n generalizing ps with
  | zero => rfl
  | succ n ih =>
    simp only [times]
    rw [← same ps ascending]
    split
    · rfl
    · exact ih (keeps ps ascending)

theorem within_congr (same : ∀ ps, Ascending ps → step ps = other ps) (n : Nat)
    (ascending : Ascending reached) (new : Ascending frontier) :
    within step n reached frontier = within other n reached frontier := by
  induction n generalizing reached frontier with
  | zero => rfl
  | succ n ih =>
    have next : Ascending ((step frontier).filter fun p => !reached.contains p) :=
      (keeps frontier new).filter _
    simp only [within]
    rw [← same frontier new]
    split
    · rfl
    · exact ih (ascending_merge ascending next) next

end Steps

theorem subset_within (n : Nat) : reached ⊆ within step n reached frontier := by
  induction n generalizing reached frontier with
  | zero => exact fun _ held => held
  | succ n ih =>
    simp only [within]
    split
    · exact fun _ held => held
    · exact fun p held => ih ((mem_merge p).mpr (.inl held))

/-- One round that loses nothing reaches what the step reaches. -/
theorem within_one (ascending : Ascending ps) (keeps : Ascending (step ps))
    (grows : ps ⊆ step ps) : within step 1 ps ps = step ps := by
  have members : ∀ p, p ∈ step ps ↔ p ∈ ps ∨ p ∈ (step ps).filter fun p => !ps.contains p := by
    intro p
    rw [List.mem_filter, Bool.not_eq_true', ← Bool.not_eq_true, List.contains_iff_mem]
    constructor
    · intro reached
      exact (Classical.em (p ∈ ps)).imp_right fun fresh => ⟨reached, fresh⟩
    · exact fun either => either.elim (fun held => grows held) And.left
  simp only [within]
  split
  · rename_i none_new
    refine ascending.eq_of_mem_iff keeps fun p => ?_
    rw [members, List.isEmpty_iff.mp none_new]
    simp
  · refine (ascending_merge ascending (keeps.filter _)).eq_of_mem_iff keeps fun p => ?_
    rw [members, mem_merge]

end Positions

namespace Matcher

variable {properties : Property → Char → Bool} {text : Array Char} {ps : List Nat}

theorem of_passed {p r : Nat} {test : CharTest} (passed : (match text[p]? with
    | some c => if test.passes properties c then some (p + 1) else none
    | none => none) = some r) : r = p + 1 := by
  split at passed
  · split at passed
    · exact (Option.some.inj passed).symm
    · cases passed
  · cases passed

theorem ends_ascending (m : Matcher) (ascending : Ascending ps) :
    Ascending (m.ends properties text ps) := by
  induction m generalizing ps with
  | empty => exact ascending
  | char test =>
    refine ascending.filterMap _ fun p q below r leads r' leads' => ?_
    rw [of_passed leads, of_passed leads']
    omega
  | look l => exact ascending.filter _
  | seq first second ihFirst ihSecond => exact ihSecond (ihFirst ascending)
  | either first second ihFirst ihSecond =>
    exact Positions.ascending_merge (ihFirst ascending) (ihSecond ascending)
  | loop least most body ih =>
    have start := Positions.ascending_times (fun _ => ih) least ascending
    exact Positions.ascending_within (fun _ => ih) _ start start

/-- No ASCII text tells the matchers apart, wherever the match may begin and whatever characters
are held to have a property. -/
def Alike (m m' : Matcher) : Prop :=
  ∀ properties others (text : Array Char), (∀ c ∈ text, Text.isAscii c = true) →
    ∀ ps, Ascending ps → m.ends properties text ps = m'.ends others text ps

variable {m m' n n' : Matcher}

theorem alike_empty : Alike .empty .empty := fun _ _ _ _ _ _ => rfl

theorem Alike.symm (alike : Alike m m') : Alike m' m :=
  fun properties others text ascii ps ascending =>
    (alike others properties text ascii ps ascending).symm

theorem Alike.trans (first : Alike m m') (second : Alike m' n) : Alike m n :=
  fun properties others text ascii ps ascending =>
    (first properties others text ascii ps ascending).trans
      (second others others text ascii ps ascending)

theorem Alike.seq (first : Alike m m') (second : Alike n n') :
    Alike (.seq m n) (.seq m' n') := by
  intro properties others text ascii ps ascending
  have middle : Ascending (m.ends properties text ps) := ends_ascending m ascending
  rw [ends, ends, second properties others text ascii _ middle,
    first properties others text ascii ps ascending]

theorem Alike.either (first : Alike m m') (second : Alike n n') :
    Alike (.either m n) (.either m' n') := by
  intro properties others text ascii ps ascending
  rw [ends, ends, first properties others text ascii ps ascending,
    second properties others text ascii ps ascending]

theorem Alike.loop (least : Nat) (most : Option Nat) (body : Alike m m') :
    Alike (.loop least most m) (.loop least most m') := by
  intro properties others text ascii ps ascending
  have keeps : ∀ ps, Ascending ps → Ascending (m.ends properties text ps) :=
    fun _ => ends_ascending m
  have same := body properties others text ascii
  have start := Positions.ascending_times keeps least ascending
  simp only [ends]
  rw [← Positions.times_congr keeps same least ascending,
    Positions.within_congr keeps same _ start start]

/-- It can match the empty text wherever it begins. -/
def Nullable (m : Matcher) : Prop :=
  ∀ properties (text : Array Char) ps, ps ⊆ m.ends properties text ps

theorem nullable_loop (most : Option Nat) (body : Matcher) : Nullable (.loop 0 most body) :=
  fun _ _ _ => Positions.subset_within _

theorem Alike.optional (alike : Alike m n) (nullable : Nullable m) :
    Alike (.loop 0 (some 1) m) n := by
  intro properties others text ascii ps ascending
  rw [← alike properties others text ascii ps ascending]
  exact Positions.within_one ascending (ends_ascending m ascending) (nullable properties text ps)

theorem Alike.matchesIn (alike : Alike m m') {text : List Char}
    (ascii : ∀ c ∈ text, Text.isAscii c = true) (properties others : Property → Char → Bool) :
    m.matchesIn properties text = m'.matchesIn others text := by
  have everywhere : Ascending (List.range (text.length + 1)) := List.pairwise_lt_range
  have ascii : ∀ c ∈ text.toArray, Text.isAscii c = true :=
    fun c member => ascii c (List.mem_toArray.mp member)
  rw [Matcher.matchesIn, Matcher.matchesIn,
    alike properties others text.toArray ascii _ everywhere]

end Matcher

end Catalog.Pattern
