import Mathlib.Data.List.Forall2

/-!
Lists of which one item was replaced, lists whose items are related one by one, and what is known
of a computation that did not fail.
-/
namespace Catalog

variable {α β : Type}

theorem forall_mem_replaced {P : α → Prop} {earlier later : List α} {old new : α}
    (all : ∀ a ∈ earlier ++ old :: later, P a) (replaced : P new) :
    ∀ a ∈ earlier ++ new :: later, P a := by
  obtain ⟨front, back⟩ := List.forall_mem_append.mp all
  exact List.forall_mem_append.mpr
    ⟨front, List.forall_mem_cons.mpr ⟨replaced, (List.forall_mem_cons.mp back).2⟩⟩

theorem pairwise_replaced {R : α → α → Prop} {earlier later : List α} {old new : α}
    (pairs : (earlier ++ old :: later).Pairwise R) (before : ∀ a ∈ earlier, R a new)
    (after : ∀ a ∈ later, R new a) : (earlier ++ new :: later).Pairwise R := by
  obtain ⟨front, back, across⟩ := List.pairwise_append.mp pairs
  refine List.pairwise_append.mpr
    ⟨front, List.pairwise_cons.mpr ⟨after, (List.pairwise_cons.mp back).2⟩, fun a first b second => ?_⟩
  rcases List.mem_cons.mp second with here | there
  · exact here ▸ before a first
  · exact across a first b (List.mem_cons_of_mem _ there)

theorem exists_of_mem_forall₂ {R : α → β → Prop} {as : List α} {bs : List β} {b : β}
    (related : List.Forall₂ R as bs) (member : b ∈ bs) : ∃ a ∈ as, R a b := by
  induction related with
  | nil => cases member
  | cons head _ ih =>
    rcases List.mem_cons.mp member with here | there
    · exact ⟨_, List.mem_cons_self, here ▸ head⟩
    · obtain ⟨a, before, held⟩ := ih there
      exact ⟨a, List.mem_cons_of_mem _ before, held⟩

theorem forall₂_compose {γ : Type} {R : α → β → Prop} {S : β → γ → Prop} {T : α → γ → Prop}
    {as : List α} {bs : List β} {cs : List γ} (first : List.Forall₂ R as bs)
    (second : List.Forall₂ S bs cs) (compose : ∀ a b c, R a b → S b c → T a c) :
    List.Forall₂ T as cs := by
  induction first generalizing cs with
  | nil =>
    cases second
    exact .nil
  | cons head _ ih =>
    cases second with
    | cons next rest => exact .cons (compose _ _ _ head next) (ih rest)

theorem map_eq_of_forall₂ {γ : Type} {R : α → α → Prop} {f : α → γ} {as bs : List α}
    (related : List.Forall₂ R as bs) (same : ∀ a ∈ as, ∀ b, R a b → f b = f a) :
    bs.map f = as.map f := by
  induction related with
  | nil => rfl
  | @cons a b as bs head _ ih =>
    obtain ⟨first, rest⟩ := List.forall_mem_cons.mp same
    rw [List.map_cons, List.map_cons, first b head, ih rest]

theorem find?_of_forall₂ {R : α → α → Prop} {test : α → Bool} {as bs : List α} {a : α}
    (related : List.Forall₂ R as bs) (same : ∀ a b, R a b → test b = test a)
    (found : as.find? test = some a) : ∃ b, bs.find? test = some b ∧ R a b := by
  induction related with
  | nil => cases found
  | @cons x y xs ys head _ ih =>
    rw [List.find?_cons] at found ⊢
    rw [same x y head]
    cases passes : test x with
    | true =>
      rw [passes] at found
      cases found
      exact ⟨y, rfl, head⟩
    | false =>
      rw [passes] at found
      exact ih found

/-- Two tests, one of which implies the other, find the same item just if nothing before the first
item that passes the one passes the other. -/
theorem find?_eq_find?_iff {test loose : α → Bool} (implies : ∀ a, test a = true → loose a = true)
    (as : List α) : as.find? loose = as.find? test ↔
      ∀ a ∈ as.takeWhile (fun a => !test a), loose a = false := by
  induction as with
  | nil => simp
  | cons a as ih =>
    cases passes : test a with
    | true => simp [passes, implies a passes]
    | false =>
      rw [List.takeWhile_cons_of_pos (by simp [passes]), List.forall_mem_cons,
        List.find?_cons_of_neg (p := test) (by simp [passes])]
      cases loosely : loose a with
      | true =>
        rw [List.find?_cons_of_pos loosely]
        refine iff_of_false (fun found => ?_) (fun none => Bool.noConfusion none.1)
        rw [List.find?_some found.symm] at passes
        cases passes
      | false =>
        rw [List.find?_cons_of_neg (by simp [loosely]), ih]
        simp

/-! The places of the items that pass a test -/

theorem filter_eq_filterMap_findIdxs (test : α → Bool) (as : List α) :
    as.filter test = (as.findIdxs test).filterMap (as[·]?) := by
  induction as with
  | nil => rfl
  | cons a as ih =>
    have later : ((as.findIdxs test 1).filterMap ((a :: as)[·]?)) = as.filter test := by
      rw [List.findIdxs_start, List.filterMap_map, ih]
      rfl
    by_cases passes : test a = true
    · simp [passes, later]
    · simp [passes, later]

/-- What stands at the first of the places, and that nothing before it passes. -/
theorem exists_append_of_findIdxs {test : α → Bool} {as : List α} {i : Nat} {rest : List Nat}
    (places : as.findIdxs test = i :: rest) :
    ∃ earlier a later, as = earlier ++ a :: later ∧ earlier.length = i ∧ test a = true ∧
      ∀ b ∈ earlier, test b = false := by
  induction as generalizing i rest with
  | nil => cases places
  | cons a as ih =>
    by_cases passes : test a = true
    · rw [List.findIdxs_cons, if_pos passes] at places
      cases places
      exact ⟨[], a, as, rfl, rfl, passes, fun _ none => nomatch none⟩
    · rw [List.findIdxs_cons, if_neg passes, List.findIdxs_start] at places
      obtain ⟨j, later, found, rfl, -⟩ := List.map_eq_cons_iff.mp places
      obtain ⟨earlier, b, behind, rfl, rfl, selected, passed⟩ := ih found
      exact ⟨a :: earlier, b, behind, rfl, rfl, selected,
        List.forall_mem_cons.mpr ⟨Bool.eq_false_iff.mpr passes, passed⟩⟩

theorem map_ite_eq_mapIdx (test : α → Bool) (f : α → α) (as : List α) :
    (as.map fun a => if test a then f a else a) =
      as.mapIdx fun i a => if i ∈ as.findIdxs test then f a else a := by
  apply List.ext_getElem
  · simp
  · intro i inside _
    have bound : i < as.length := by simpa using inside
    simp only [List.getElem_map, List.getElem_mapIdx, List.mem_findIdxs_iff_pos_getElem bound]

theorem eraseDups_nodup [BEq α] [LawfulBEq α] (as : List α) : as.eraseDups.Nodup := by
  match as with
  | [] => exact List.nodup_nil
  | a :: as =>
    rw [List.eraseDups_cons, List.nodup_cons]
    refine ⟨fun again => ?_, eraseDups_nodup _⟩
    simpa using List.mem_eraseDups.mp again
termination_by as.length
decreasing_by exact Nat.lt_succ_of_le (List.length_filter_le _ as)

theorem any_any_comm (as : List α) (bs : List β) (test : α → β → Bool) :
    (as.any fun a => bs.any (test a)) = bs.any fun b => as.any fun a => test a b := by
  rw [Bool.eq_iff_iff]
  simp only [List.any_eq_true]
  constructor
  · rintro ⟨a, memberA, b, memberB, held⟩
    exact ⟨b, memberB, a, memberA, held⟩
  · rintro ⟨b, memberB, a, memberA, held⟩
    exact ⟨a, memberA, b, memberB, held⟩

theorem bind_eq_ok {ε : Type} {x : Except ε α} {f : α → Except ε β} {b : β} :
    (x >>= f) = .ok b ↔ ∃ a, x = .ok a ∧ f a = .ok b := by
  constructor
  · intro done
    cases x with
    | error => cases done
    | ok a => exact ⟨a, rfl, done⟩
  · rintro ⟨a, rfl, done⟩
    exact done

theorem exists_ok {ε : Type} {x : Except ε α} (succeeds : x.toOption.isSome = true) :
    ∃ a, x = .ok a := by
  cases x with
  | error => cases succeeds
  | ok a => exact ⟨a, rfl⟩

theorem mapM_eq_ok {ε : Type} {f : α → Except ε β} {as : List α} {bs : List β} :
    as.mapM f = .ok bs ↔ List.Forall₂ (fun a b => f a = .ok b) as bs := by
  induction as generalizing bs with
  | nil =>
    rw [List.mapM_nil, List.forall₂_nil_left_iff]
    constructor
    · rintro ⟨⟩
      rfl
    · rintro rfl
      rfl
  | cons a as ih =>
    rw [List.mapM_cons, bind_eq_ok, List.forall₂_cons_left_iff]
    constructor
    · rintro ⟨b, first, more⟩
      obtain ⟨rest, later, ⟨⟩⟩ := bind_eq_ok.mp more
      exact ⟨b, rest, first, ih.mp later, rfl⟩
    · rintro ⟨b, rest, first, later, rfl⟩
      exact ⟨b, first, bind_eq_ok.mpr ⟨rest, ih.mpr later, rfl⟩⟩

end Catalog
