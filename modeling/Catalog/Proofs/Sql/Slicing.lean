import Catalog.Proofs.Sql.ReadBack
import Catalog.Proofs.Store.Paging

/-!
Pages cut by the database. The clause behind a sort order names the parameters of a limit and an
offset, and the rows that it leaves are the page that is cut in memory. Counts are held to the
bounds of two widths on the way, which both lie past the end of any result.
-/
namespace Catalog.Sql

open Json

/-- A limit and an offset, by their placeholders. -/
structure Slice where
  limit : Placeholder
  offset : Placeholder

/-- The slice that a text asks for, if it asks for one and nothing else. -/
def slice? (text : String) : Option Slice := do
  let cs ← text.toList.dropPrefix? " LIMIT ".toList
  let (limit, cs) ← placeholder? "" cs
  let cs ← cs.dropPrefix? " OFFSET ".toList
  let (offset, cs) ← placeholder? "" cs
  if cs.isEmpty then some ⟨limit, offset⟩ else none

/-- The count bound to a placeholder. A statement with a negative one fails. -/
def count? (bound : List Param) : Placeholder → Option Nat
  | 0 => none
  | k + 1 =>
    match bound[k]? with
    | some (.int i) => if 0 ≤ i then some i.toNat else none
    | _ => none

/-- What a clause leaves of the rows: from the offset on, as many as the limit. -/
def sliced? (bound : List Param) (clause : String) (rows : List Value) : Option (List Value) :=
  if clause = "" then some rows
  else do
    let slice ← slice? clause
    let limit ← count? bound slice.limit
    let offset ← count? bound slice.offset
    some ((rows.drop offset).take limit)

theorem slice?_renderWindow (limit offset : Placeholder) :
    slice? (renderWindow limit offset) = some ⟨limit, offset⟩ := by
  have first := placeholder?_own limit "" (" OFFSET ".toList ++ (placeholder offset).toList)
    (Text.startsOutside_cons.mpr (by decide))
  have second := placeholder?_own offset "" [] (Text.startsOutside_nil _)
  have bare : "".toList = [] := rfl
  rw [bare, List.nil_append] at first second
  rw [List.append_nil] at second
  simp only [slice?, renderWindow, String.toList_append, List.append_assoc, dropPrefix?_own, first,
    second, Option.bind_eq_bind, Option.bind_some, List.isEmpty_nil, if_true]

theorem sliced?_renderWindow {bound : List Param} {limit offset : Placeholder} {most first : Nat}
    (counted : count? bound limit = some most) (skipped : count? bound offset = some first)
    (rows : List Value) :
    sliced? bound (renderWindow limit offset) rows = some ((rows.drop first).take most) := by
  have written := slice?_renderWindow limit offset
  have present : renderWindow limit offset ≠ "" := by
    intro empty
    rw [empty] at written
    cases written
  simp [sliced?, if_neg present, written, counted, skipped]

theorem clamped_bounds (n : Nat) : ∃ i : Int, clamped n = .int i ∧ 0 ≤ i ∧ i ≤ largestInt :=
  ⟨_, rfl, Int.natCast_nonneg _, Int.ofNat_le.mpr (Nat.min_le_right n largestInt)⟩

theorem count?_clamped {bound : List Param} {k n : Nat} (held : bound[k]? = some (clamped n)) :
    count? bound (k + 1) = some (min n largestInt) := by
  simp only [count?, held, clamped, if_pos (Int.natCast_nonneg _), Int.toNat_natCast]

/-- Counts that are held to a bound no shorter than a list take the same part of it. -/
theorem slice_clamped {rows : List Value} {bound : Nat} (few : rows.length ≤ bound)
    (limit offset : Nat) :
    (rows.drop (min offset bound)).take (min limit bound) = (rows.drop offset).take limit := by
  have start : rows.drop (min offset bound) = rows.drop offset := by
    rcases Nat.le_total offset bound with within | past
    · rw [Nat.min_eq_left within]
    · rw [Nat.min_eq_right past, List.drop_eq_nil_of_le few,
        List.drop_eq_nil_of_le (few.trans past)]
  have left : (rows.drop offset).length ≤ bound :=
    (List.length_drop ▸ Nat.sub_le _ _ : (rows.drop offset).length ≤ rows.length).trans few
  rw [start]
  rcases Nat.le_total limit bound with within | past
  · rw [Nat.min_eq_left within]
  · rw [Nat.min_eq_right past, List.take_of_length_le left,
      List.take_of_length_le (left.trans past)]

/-- Under the clause for a page, wherever its parameters stand among those that are bound, the
database leaves of a countable result what is cut from it in memory, and neither of the bounds on
counts moves the page. Without a limit there is no clause. The parameters are counts that fit. -/
theorem pages_cut_alike (bound sent : List Param) (s : Query.Selection) (rows : List Value)
    (few : rows.length ≤ largestInt)
    (complete : bound ++ (ofSelection bound.length s).2 <+: sent) :
    sliced? sent (ofSelection bound.length s).1 rows = some (s.window rows) ∧
      (∀ limit, s.limit = some limit →
        s.window rows = (rows.drop ((max s.page 1 - 1) * limit)).take limit) ∧
      (s.limit = none → (ofSelection bound.length s).1 = "" ∧ s.window rows = rows) ∧
      ∀ p ∈ (ofSelection bound.length s).2, ∃ i : Int, p = .int i ∧ 0 ≤ i ∧ i ≤ largestInt := by
  obtain ⟨page, limit, ranking⟩ := s
  cases limit with
  | none =>
    refine ⟨if_pos rfl, ?_, fun _ => ⟨rfl, rfl⟩, ?_⟩
    · rintro _ ⟨⟩
    · rintro _ ⟨⟩
  | some limit =>
    obtain ⟨later, rfl⟩ := complete
    have fits : largestInt ≤ Query.Selection.largest := by decide
    set s : Query.Selection := ⟨page, some limit, ranking⟩
    have most : count? (bound ++ (ofSelection bound.length s).2 ++ later) (bound.length + 1) =
        some (min limit largestInt) := count?_clamped (by simp [s, ofSelection])
    have first : count? (bound ++ (ofSelection bound.length s).2 ++ later) (bound.length + 2) =
        some (min s.offset largestInt) := count?_clamped (by simp [s, ofSelection])
    refine ⟨?_, ?_, ?_, ?_⟩
    · exact (sliced?_renderWindow most first rows).trans
        (congrArg some (slice_clamped few limit s.offset))
    · rintro _ ⟨rfl⟩
      exact Query.Selection.window_page page ranking (few.trans fits)
    · rintro ⟨⟩
    · exact List.forall_mem_cons.mpr ⟨clamped_bounds limit,
        List.forall_mem_singleton.mpr (clamped_bounds _)⟩

def lettered (names : List String) : List Value := names.map .text

/-- No page is so long or so far off that its counts do not fit. -/
theorem pages_cut_alike_endless :
    (lettered ["a", "b", "c"]).length ≤ largestInt ∧
      sliced? [.text "listings", .int largestInt, .int 0] " LIMIT $2 OFFSET $3"
        (lettered ["a", "b", "c"]) = some (lettered ["a", "b", "c"]) ∧
      sliced? [.text "listings", .int largestInt, .int largestInt] " LIMIT $2 OFFSET $3"
        (lettered ["a", "b", "c"]) = some [] := by
  have few : (lettered ["a", "b", "c"]).length ≤ largestInt := by decide
  have whole := (pages_cut_alike [.text "listings"] _ ⟨1, some Query.Selection.largest, []⟩ _ few
    (List.prefix_refl _)).1
  have beyond := (pages_cut_alike [.text "listings"] _
    ⟨Query.Selection.largest, some Query.Selection.largest, []⟩ _ few (List.prefix_refl _)).1
  exact ⟨few, whole, beyond⟩

end Catalog.Sql
