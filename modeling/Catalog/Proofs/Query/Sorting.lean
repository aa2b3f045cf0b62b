import Mathlib.Data.List.Sort
import Catalog.Query.Ranking

/-!
Sorting puts documents into the one order that there is for them. Values compare by kind first and
then within their kind, which makes every ranking a total preorder; documents that a ranking does
not tell apart stay in the order in which they came.
-/
namespace Catalog.Query

open Json Std

/-! Comparisons one after the other -/

/-- What the comparisons of neighbours say of the first and the last of three. -/
def Chained (first second whole : Ordering) : Prop :=
  (first = .eq → whole = second) ∧ (second = .eq → whole = first) ∧
    (first = second → whole = first)

instance (first second whole : Ordering) : Decidable (Chained first second whole) :=
  inferInstanceAs (Decidable (_ ∧ _ ∧ _))

/-- Further keys matter only where the earlier ones tie. -/
theorem Chained.then {first second whole first' second' whole' : Ordering}
    (chained : Chained first second whole)
    (further : first = .eq → second = .eq → Chained first' second' whole') :
    Chained (first.then first') (second.then second') (whole.then whole') := by
  revert first second whole first' second' whole'
  decide

theorem Chained.isLE_trans {first second whole : Ordering} (chained : Chained first second whole) :
    first.isLE → second.isLE → whole.isLE := by
  revert first second whole
  decide

theorem chained {α : Type} (cmp : α → α → Ordering) [TransCmp cmp] (a b c : α) :
    Chained (cmp a b) (cmp b c) (cmp a c) := by
  refine ⟨TransCmp.congr_left, fun tie => (TransCmp.congr_right tie).symm, fun same => ?_⟩
  cases first : cmp a b with
  | lt => exact TransCmp.lt_trans first (same ▸ first)
  | eq => exact TransCmp.eq_trans first (same ▸ first)
  | gt => exact TransCmp.gt_trans first (same ▸ first)

/-! Single values -/

instance : TransCmp Time.Instant.compare :=
  inferInstanceAs (TransCmp
    (compareLex (compareOn Time.Instant.seconds) (compareOn Time.Instant.nanos)))

instance : TransCmp Binary64.compare := inferInstanceAs (TransCmp (compareOn Binary64.steps))

instance : TransCmp compareBool := inferInstanceAs (TransCmp (compareOn Bool.toNat))

theorem compareText_eq (a b : String) : compareText a b = Ord.compare a b := by
  simp only [compareText, beq_iff_eq]
  rfl

instance : TransCmp compareText where
  eq_swap {a b} := by
    rw [compareText_eq, compareText_eq]
    exact OrientedOrd.eq_swap
  isLE_trans {a b c} first second := by
    rw [compareText_eq] at first second ⊢
    exact TransOrd.isLE_trans first second

theorem compareSorted_swap (a b : String) : compareSorted a b = (compareSorted b a).swap := by
  cases first : Time.Instant.parse? a <;> cases second : Time.Instant.parse? b <;>
    simp only [compareSorted, first, second]
  · exact OrientedCmp.eq_swap
  · rfl
  · rfl
  · exact OrientedCmp.eq_swap

instance : TransCmp compareSorted where
  eq_swap := compareSorted_swap _ _
  isLE_trans {a b c} lower upper := by
    cases first : Time.Instant.parse? a <;> cases second : Time.Instant.parse? b <;>
      cases third : Time.Instant.parse? c <;>
      simp only [compareSorted, first, second, third] at lower upper ⊢
    case none.none.none => exact TransCmp.isLE_trans lower upper
    case some.some.some => exact TransCmp.isLE_trans lower upper
    all_goals first | rfl | contradiction

/-- The order of two values of one kind. -/
def compareAlike : Value → Value → Ordering
  | .text x, .text y => compareSorted x y
  | .number x, .number y => x.toBinary64.compare y.toBinary64
  | .bool x, .bool y => compareBool x y
  | .array xs, .array ys => (Ord.compare xs.length ys.length).then (compareItems xs ys)
  | .object xs, .object ys => compareText (Value.object xs).compact (Value.object ys).compact
  | _, _ => .eq

theorem compareValues_eq (a b : Value) :
    compareValues a b =
      (Ord.compare (rank (some a)) (rank (some b))).then (compareAlike a b) := by
  cases a <;> cases b
  case array.array xs ys =>
    rw [compareValues, compareAlike]
    split
    · rename_i same
      simp [rank, same]
    · rename_i differ
      have decided : Ord.compare xs.length ys.length ≠ .eq :=
        fun tie => differ (Nat.compare_eq_eq.mp tie)
      cases order : Ord.compare xs.length ys.length with
      | lt | gt => rfl
      | eq => exact absurd order decided
  all_goals simp [compareValues, compareAlike, rank]

mutual

theorem compareValues_swap (a b : Value) : compareValues a b = (compareValues b a).swap := by
  have kinds : Ord.compare (rank (some a)) (rank (some b)) =
      (Ord.compare (rank (some b)) (rank (some a))).swap := OrientedOrd.eq_swap
  have alike : compareAlike a b = (compareAlike b a).swap := by
    cases a <;> cases b
    case text.text x y => exact compareSorted_swap x y
    case number.number x y => exact @OrientedCmp.eq_swap _ Binary64.compare _ _ _
    case bool.bool x y => exact @OrientedCmp.eq_swap _ compareBool _ _ _
    case array.array xs ys =>
      rw [compareAlike, compareAlike, Ordering.swap_then, ← compareItems_swap xs ys]
      exact congrArg (Ordering.then · _) OrientedOrd.eq_swap
    case object.object xs ys => exact @OrientedCmp.eq_swap _ compareText _ _ _
    all_goals rfl
  rw [compareValues_eq, compareValues_eq, Ordering.swap_then, kinds, alike]

theorem compareItems_swap (as bs : List Value) :
    compareItems as bs = (compareItems bs as).swap := by
  match as, bs with
  | a :: as, b :: bs =>
    rw [compareItems, compareItems, Ordering.swap_then, ← compareValues_swap a b,
      ← compareItems_swap as bs]
  | [], [] | [], _ :: _ | _ :: _, [] => rfl

end

mutual

theorem compareValues_chained (a b c : Value) :
    Chained (compareValues a b) (compareValues b c) (compareValues a c) := by
  rw [compareValues_eq a b, compareValues_eq b c, compareValues_eq a c]
  refine (chained Ord.compare _ _ _).then fun first second => ?_
  rw [Nat.compare_eq_eq] at first second
  cases a <;> cases b <;> simp [rank] at first
  all_goals cases c <;> simp [rank] at second
  case null.null.null => decide
  case text.text.text x y z => exact chained compareSorted x y z
  case number.number.number x y z => exact chained Binary64.compare _ _ _
  case bool.bool.bool x y z => exact chained compareBool x y z
  case array.array.array xs ys zs =>
    refine (chained Ord.compare _ _ _).then fun first second => ?_
    exact compareItems_chained xs ys zs (Nat.compare_eq_eq.mp first) (Nat.compare_eq_eq.mp second)
  case object.object.object xs ys zs => exact chained compareText _ _ _

theorem compareItems_chained (as bs cs : List Value) (first : as.length = bs.length)
    (second : bs.length = cs.length) :
    Chained (compareItems as bs) (compareItems bs cs) (compareItems as cs) := by
  match as, bs, cs with
  | [], [], [] => decide
  | a :: as, b :: bs, c :: cs =>
    exact (compareValues_chained a b c).then fun _ _ =>
      compareItems_chained as bs cs (Nat.succ.inj first) (Nat.succ.inj second)

end

instance : TransCmp compareValues where
  eq_swap := compareValues_swap _ _
  isLE_trans := (compareValues_chained _ _ _).isLE_trans

theorem compare_eq (a b : Option Value) :
    compare a b = compareValues (a.getD .null) (b.getD .null) := by
  cases a with
  | none =>
    cases b with
    | none => rfl
    | some b => cases b <;> rfl
  | some a =>
    cases b with
    | none => cases a <;> rfl
    | some b => rfl

instance : TransCmp compare where
  eq_swap {a b} := by
    rw [compare_eq, compare_eq]
    exact OrientedCmp.eq_swap
  isLE_trans {a b c} lower upper := by
    rw [compare_eq] at lower upper ⊢
    exact TransCmp.isLE_trans lower upper

/-! Rankings -/

namespace Ranking

/-- The order of two documents by one key. -/
def compareBy (key : SortKey) (a b : Value) : Ordering :=
  directed key.direction (compare (Document.resolve a key.path) (Document.resolve b key.path))

instance (key : SortKey) : TransCmp (compareBy key) where
  eq_swap {a b} := by
    have swapped : compare (Document.resolve a key.path) (Document.resolve b key.path) =
        (compare (Document.resolve b key.path) (Document.resolve a key.path)).swap :=
      OrientedCmp.eq_swap
    unfold compareBy
    rw [swapped]
    cases key.direction <;> rfl
  isLE_trans {a b c} lower upper := by
    unfold compareBy at lower upper ⊢
    cases direction : key.direction with
    | ascending =>
      rw [direction] at lower upper
      exact @TransCmp.isLE_trans _ compare _ _ _ _ lower upper
    | descending =>
      rw [direction] at lower upper
      simp only [directed, Ordering.isLE_swap] at lower upper ⊢
      exact @TransCmp.isGE_trans _ compare _ _ _ _ lower upper

theorem transCmp_compareDocuments (r : Ranking) : TransCmp r.compareDocuments := by
  induction r with
  | nil => exact { eq_swap := rfl, isLE_trans := fun _ _ => rfl }
  | cons key rest ih =>
    exact inferInstanceAs (TransCmp (compareLex (compareBy key) (compareDocuments rest)))

instance (r : Ranking) : TransCmp r.compareDocuments := r.transCmp_compareDocuments

end Ranking

/-! Sorting -/

section Insertion

variable {α : Type} {cmp : α → α → Ordering} {earlier : α → α → Prop} {a : α} {as : List α}

/-- One may stand before the other, and does so if they tie. -/
def Follows (cmp : α → α → Ordering) (earlier : α → α → Prop) (a b : α) : Prop :=
  (cmp a b).isLE ∧ (cmp a b = .eq → earlier a b)

abbrev MayPrecede (cmp : α → α → Ordering) (a b : α) : Prop := cmp a b ≠ .gt

theorem mayPrecede_iff {b : α} : MayPrecede cmp a b ↔ (cmp a b).isLE := by
  cases order : cmp a b <;> simp [MayPrecede, order]

/-- What comes before all others is put in front of those it ties with. -/
theorem pairwise_orderedInsert [TransCmp cmp] (first : ∀ b ∈ as, earlier a b)
    (sorted : as.Pairwise (Follows cmp earlier)) :
    (as.orderedInsert (MayPrecede cmp) a).Pairwise (Follows cmp earlier) := by
  induction as with
  | nil => exact List.pairwise_singleton _ _
  | cons b rest ih =>
    obtain ⟨above, sortedRest⟩ := List.pairwise_cons.mp sorted
    obtain ⟨beforeHead, beforeRest⟩ := List.forall_mem_cons.mp first
    rw [List.orderedInsert_cons]
    split
    · rename_i precedes
      have lower := mayPrecede_iff.mp precedes
      refine List.pairwise_cons.mpr ⟨List.forall_mem_cons.mpr ⟨?_, ?_⟩, sorted⟩
      · exact ⟨lower, fun _ => beforeHead⟩
      · intro c member
        exact ⟨TransCmp.isLE_trans lower (above c member).1, fun _ => beforeRest c member⟩
    · rename_i follows
      have after : cmp a b = .gt := Decidable.not_not.mp follows
      have lower : cmp b a = .lt := OrientedCmp.lt_of_gt after
      refine List.pairwise_cons.mpr ⟨fun c member => ?_, ih beforeRest sortedRest⟩
      rcases (List.mem_orderedInsert _).mp member with rfl | held
      · exact ⟨by simp [lower], fun tie => by simp [lower] at tie⟩
      · exact above c held

theorem pairwise_insertionSort [TransCmp cmp] (ascending : as.Pairwise earlier) :
    (as.insertionSort (MayPrecede cmp)).Pairwise (Follows cmp earlier) := by
  induction as with
  | nil => exact .nil
  | cons a as ih =>
    obtain ⟨first, rest⟩ := List.pairwise_cons.mp ascending
    rw [List.insertionSort_cons]
    refine pairwise_orderedInsert (fun b member => first b ?_) (ih rest)
    exact (List.mem_insertionSort _).mp member

end Insertion

namespace Ranking

/-- An order of the places of documents that puts the documents in order and leaves those that tie
in the order of their places. -/
structure Arranged (order : Value → Value → Ordering) (docs : List Value)
    (places : List (Fin docs.length)) : Prop where
  all : places.Perm (List.finRange docs.length)
  ordered : places.Pairwise fun i j => (order (docs.get i) (docs.get j)).isLE
  stable : places.Pairwise fun i j => order (docs.get i) (docs.get j) = .eq → i < j

variable {order : Value → Value → Ordering} {docs : List Value}

/-- The order of the documents at two places. -/
def compareAt (order : Value → Value → Ordering) (docs : List Value) (i j : Fin docs.length) :
    Ordering := order (docs.get i) (docs.get j)

instance [TransCmp order] : TransCmp (compareAt order docs) where
  eq_swap {_ _} := @OrientedCmp.eq_swap _ order _ _ _
  isLE_trans {_ _ _} := @TransCmp.isLE_trans _ order _ _ _ _

theorem place_eq (doc : Value) (docs : List Value) :
    place order doc docs = docs.orderedInsert (MayPrecede order) doc := by
  induction docs with
  | nil => rfl
  | cons d rest ih =>
    rw [place, List.orderedInsert_cons, ih]
    by_cases after : order doc d = .gt <;> simp [after]

theorem sortWith_eq (docs : List Value) :
    sortWith order docs = docs.insertionSort (MayPrecede order) := by
  induction docs with
  | nil => rfl
  | cons doc docs ih =>
    rw [List.insertionSort_cons, ← ih, ← place_eq]
    rfl

theorem apply_perm (r : Ranking) (docs : List Value) : (r.apply docs).Perm docs := by
  rw [apply, sortWith_eq]
  exact List.perm_insertionSort _ _

/-- The places of documents, sorted as the documents are. -/
def sortedPlaces (order : Value → Value → Ordering) (docs : List Value) : List (Fin docs.length) :=
  (List.finRange docs.length).insertionSort (MayPrecede (compareAt order docs))

theorem sortWith_eq_map (order : Value → Value → Ordering) (docs : List Value) :
    sortWith order docs = (sortedPlaces order docs).map docs.get := by
  have mapped := List.map_insertionSort (MayPrecede (compareAt order docs)) (MayPrecede order)
    docs.get (List.finRange docs.length) fun _ _ _ _ => Iff.rfl
  rw [sortWith_eq, sortedPlaces, mapped, List.map_get_finRange]

theorem arranged_sortedPlaces [TransCmp order] (docs : List Value) :
    Arranged order docs (sortedPlaces order docs) := by
  have sorted : (sortedPlaces order docs).Pairwise (Follows (compareAt order docs) (· < ·)) :=
    pairwise_insertionSort (List.pairwise_lt_finRange _)
  exact ⟨List.perm_insertionSort _ _, sorted.imp And.left, sorted.imp And.right⟩

theorem Arranged.unique [TransCmp order] {places others : List (Fin docs.length)}
    (arranged : Arranged order docs places) (again : Arranged order docs others) :
    others = places := by
  have follows : ∀ {places : List (Fin docs.length)}, Arranged order docs places →
      places.Pairwise (Follows (compareAt order docs) (· < ·)) :=
    fun arranged => arranged.ordered.and arranged.stable
  refine (again.all.trans arranged.all.symm).eq_of_pairwise ?_ (follows again) (follows arranged)
  intro i j _ _ up down
  have tie : compareAt order docs i j = .eq := OrientedCmp.isLE_antisymm up.1 down.1
  have back : compareAt order docs j i = .eq := OrientedCmp.eq_symm tie
  exact absurd (up.2 tie) (down.2 back).asymm

/-- A ranking is a total preorder of documents, and sorting by it gives the only permutation that is
in order and keeps documents that tie in the order in which they came. -/
theorem sorts_stably (r : Ranking) (docs : List Value) :
    (∀ a, r.compareDocuments a a = .eq) ∧
      (∀ a b, r.compareDocuments b a = (r.compareDocuments a b).swap) ∧
      (∀ a b c, (r.compareDocuments a b).isLE → (r.compareDocuments b c).isLE →
        (r.compareDocuments a c).isLE) ∧
      ∃ places, Arranged r.compareDocuments docs places ∧
        (∀ others, Arranged r.compareDocuments docs others → others = places) ∧
        r.apply docs = places.map docs.get := by
  have arranged : Arranged r.compareDocuments docs _ := arranged_sortedPlaces docs
  refine ⟨fun _ => ReflCmp.compare_self, fun _ _ => OrientedCmp.eq_swap,
    fun _ _ _ => TransCmp.isLE_trans, sortedPlaces r.compareDocuments docs, arranged, ?_, ?_⟩
  · exact fun _ again => arranged.unique again
  · exact sortWith_eq_map r.compareDocuments docs

end Ranking

end Catalog.Query
