import Catalog.Proofs.Document.Fields
import Catalog.Proofs.Json.Depth

/-!
How deep documents nest after a change. A path of many names needs as many objects around the value
at its end, whatever was there before, and no more.
-/
namespace Catalog.Document

open Json Value

variable {doc value : Value} {patch : Members} {limit : Nat}

theorem membersDepth_membersOf (doc : Value) : membersDepth (membersOf doc) ≤ doc.depth - 1 := by
  cases doc with
  | object members => exact Nat.le_refl _
  | null | bool | number | text | array => exact Nat.zero_le _

theorem depth_put_le (value doc : Value) (names : List String) :
    (put value doc names).depth ≤ max doc.depth (names.length + value.depth) := by
  induction names generalizing doc with
  | nil =>
    simp only [put, List.length_nil]
    omega
  | cons first rest ih =>
    have inner : (put value ((Members.get? first (membersOf doc)).getD (.object [])) rest).depth ≤
        max (doc.depth - 1) (rest.length + value.depth) := by
      cases found : Members.get? first (membersOf doc) with
      | none =>
        -- The path goes on into a new object, so what was there before does not count.
        cases rest with
        | nil =>
          simp only [put, List.length_nil]
          omega
        | cons second rest =>
          have built := ih (.object [])
          simp only [Value.depth, membersDepth, List.length_cons] at built
          simp only [Option.getD_none, List.length_cons]
          omega
      | some child =>
        have built := ih child
        have held : child.depth ≤ doc.depth - 1 :=
          membersDepth_le.mp (membersDepth_membersOf doc) _ (Members.mem_of_get? found)
        simp only [Option.getD_some]
        omega
    have inserted := membersDepth_insert_le first
      (put value ((Members.get? first (membersOf doc)).getD (.object [])) rest) (membersOf doc)
    have around := membersDepth_membersOf doc
    simp only [put, Value.depth, List.length_cons]
    omega

theorem depth_set_lt {path : String} (shallow : doc.depth < limit)
    (fits : (segments path).length + value.depth < limit) : (set doc path value).depth < limit :=
  (depth_put_le value doc _).trans_lt (Nat.max_lt.mpr ⟨shallow, fits⟩)

theorem depth_merge_lt (shallow : doc.depth < limit) (fits : ∀ m ∈ patch,
    Field.fixed m.1 = true ∨ (segments m.1).length + m.2.depth < limit) :
    (merge doc patch).depth < limit := by
  apply merge_induction (motive := fun merged => merged.depth < limit) shallow
  intro merged m member free held
  exact depth_set_lt held ((fits m member).resolve_left (Bool.eq_false_iff.mp free))

theorem depth_of_member {name : String} {child : Value} (held : doc.member? name = some child) :
    child.depth < doc.depth := by
  cases doc with
  | object members =>
    have inside := membersDepth_le.mp (Nat.le_refl _) _ (Members.mem_of_get? held)
    exact Nat.lt_succ_of_le inside
  | null | bool | number | text | array => cases held

theorem depth_of_select {names : List String} (found : select doc names = some value) :
    names.length + value.depth ≤ doc.depth := by
  induction names generalizing doc with
  | nil =>
    cases found
    simp
  | cons name rest ih =>
    cases held : doc.member? name with
    | none => simp [select, held] at found
    | some child =>
      simp only [select, held] at found
      have inner := ih found
      have outer := depth_of_member held
      simp only [List.length_cons]
      omega

end Catalog.Document
