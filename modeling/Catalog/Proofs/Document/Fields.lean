import Catalog.Document.Basic
import Catalog.Proofs.Json.Parsed
import Catalog.Proofs.Text.Splitting

/-!
What setting one path leaves alone. Paths that part somewhere lead to different places whatever
stands in the document, so a change at the end of one never shows at the end of the other.
-/
namespace Catalog

open Json

theorem segments_ne_nil (path : String) : segments path ≠ [] := by
  simpa [segments, Text.splitText] using Text.splitAt_ne_nil '.' path.toList

namespace Document

/-- Neither of the paths leads through the end of the other. -/
def Diverge : List String → List String → Prop
  | first :: rest, other :: others => first ≠ other ∨ Diverge rest others
  | _, _ => False

instance Diverge.decidable : (names others : List String) → Decidable (Diverge names others)
  | first :: rest, other :: others =>
    have := Diverge.decidable rest others
    inferInstanceAs (Decidable (first ≠ other ∨ Diverge rest others))
  | [], _ => isFalse id
  | _ :: _, [] => isFalse id

variable {doc value : Value} {name path : String} {names others : List String} {patch : Members}

theorem select_one (v : Value) (name : String) : select v [name] = v.member? name := by
  cases found : v.member? name <;> simp [select, found]

theorem select_empty (parting : Diverge names others) :
    select (.object []) others = none := by
  cases others with
  | nil => cases names <;> exact parting.elim
  | cons => rfl

theorem member?_put_of_ne {first : String} (different : name ≠ first) (rest : List String) :
    (put value doc (first :: rest)).member? name = doc.member? name := by
  have others : Members.get? name (membersOf doc) = doc.member? name := by
    cases doc <;> rfl
  simp only [put, Value.member?]
  rw [Members.get?_insert_of_ne different, others]
  rfl

theorem member?_put_self (first : String) (rest : List String) :
    (put value doc (first :: rest)).member? first =
      some (put value ((doc.member? first).getD (.object [])) rest) := by
  have held : Members.get? first (membersOf doc) = doc.member? first := by
    cases doc <;> rfl
  simp only [put, Value.member?, Members.get?_insert_self, held]

theorem select_put_of_diverge (parting : Diverge names others) :
    select (put value doc names) others = select doc others := by
  induction names generalizing doc others with
  | nil => exact parting.elim
  | cons first rest ih =>
    cases others with
    | nil => exact parting.elim
    | cons other others =>
      by_cases same : other = first
      · subst same
        have later : Diverge rest others := parting.resolve_left fun ne => ne rfl
        simp only [select, member?_put_self, ih later]
        cases doc.member? other with
        | some child => rfl
        | none => exact select_empty later
      · simp only [select, member?_put_of_ne same]

theorem select_put_append (names rest : List String) :
    select (put value doc names) (names ++ rest) = select value rest := by
  induction names generalizing doc with
  | nil => rfl
  | cons first names ih => simp only [List.cons_append, select, member?_put_self, ih]

theorem select_set_of_diverge (parting : Diverge (segments path) names) :
    select (set doc path value) names = select doc names := select_put_of_diverge parting

theorem resolve_set_of_diverge {other : String}
    (parting : Diverge (segments path) (segments other)) :
    resolve (set doc path value) other = resolve doc other := select_put_of_diverge parting

theorem resolve_set_self : resolve (set doc path value) path = some value := by
  rw [resolve, set, select_put]

theorem diverge_of_head (different : (segments path).head? ≠ some name) (rest : List String) :
    Diverge (segments path) (name :: rest) := by
  cases parts : segments path with
  | nil => exact absurd parts (segments_ne_nil path)
  | cons first more =>
    rw [parts] at different
    exact .inl fun same => different (congrArg some same)

theorem member?_set_of_ne (different : (segments path).head? ≠ some name) :
    (set doc path value).member? name = doc.member? name := by
  rw [← select_one, ← select_one]
  exact select_set_of_diverge (diverge_of_head different [])

/-! Patches -/

theorem merge_cons (doc : Value) (m : String × Value) (patch : Members) :
    merge doc (m :: patch) =
      merge (if Field.fixed m.1 then doc else set doc m.1 m.2) patch := rfl

/-- What every single change of a patch keeps, the patch keeps. -/
theorem merge_induction {motive : Value → Prop} (base : motive doc)
    (step : ∀ doc, ∀ m ∈ patch, Field.fixed m.1 = false → motive doc → motive (set doc m.1 m.2)) :
    motive (merge doc patch) := by
  induction patch generalizing doc with
  | nil => exact base
  | cons m patch ih =>
    rw [merge_cons]
    refine ih ?_ fun doc m' member => step doc m' (List.mem_cons_of_mem _ member)
    split
    · exact base
    · rename_i free
      exact step doc m List.mem_cons_self (Bool.eq_false_iff.mpr free) base

/-- What no path of a patch leads to or through is kept, and so is what is fixed. -/
theorem select_merge_of_diverge (kept : ∀ m ∈ patch, Field.fixed m.1 = true ∨
    Diverge (segments m.1) names) : select (merge doc patch) names = select doc names := by
  apply merge_induction (motive := fun merged => select merged names = select doc names) rfl
  intro merged m member free same
  have parting := (kept m member).resolve_left (Bool.eq_false_iff.mp free)
  rw [select_set_of_diverge parting, same]

theorem member?_merge (kept : ∀ m ∈ patch, Field.fixed m.1 = true ∨
    (segments m.1).head? ≠ some name) : (merge doc patch).member? name = doc.member? name := by
  rw [← select_one, ← select_one]
  exact select_merge_of_diverge fun m member =>
    (kept m member).imp_right fun different => diverge_of_head different []

/-- Below a member that a patch of plain names has, the merged document is the patch. -/
theorem select_merge_member (sorted : patch.Sorted) (plain : ∀ m ∈ patch, segments m.1 = [m.1])
    (free : Field.fixed name = false) (member : Members.get? name patch = some value)
    (rest : List String) : select (merge doc patch) (name :: rest) = select value rest := by
  induction patch generalizing doc with
  | nil => cases member
  | cons m patch ih =>
    obtain ⟨n, v⟩ := m
    obtain ⟨above, sortedRest⟩ := List.pairwise_cons.mp sorted
    have plainRest := fun m member => plain m (List.mem_cons_of_mem _ member)
    rw [merge_cons]
    by_cases same : n = name
    · subst same
      have found : v = value := by simpa [Members.get?] using member
      subst found
      have parts : segments n = [n] := plain _ List.mem_cons_self
      have later : ∀ m ∈ patch, Field.fixed m.1 = true ∨ Diverge (segments m.1) (n :: rest) := by
        intro m member
        refine .inr ?_
        rw [plainRest m member]
        exact .inl fun same => Text.not_before_self n (same ▸ above m member)
      rw [select_merge_of_diverge later]
      simp only [free, Bool.false_eq_true, if_false, set, parts]
      exact select_put_append [n] rest
    · have found : Members.get? name patch = some value := by
        simpa [Members.get?, same] using member
      exact ih sortedRest plainRest found

/-! Identity -/

theorem id?_eq {a b : Value} (same : a.member? Field.id = b.member? Field.id) :
    id? a = id? b := by
  rw [id?, id?, same]

/-! Well-formed documents -/

theorem formed_membersOf (formed : doc.WellFormed) : (membersOf doc).Formed := by
  cases doc with
  | object members => exact formed.members
  | null | bool | number | text | array => exact Members.formed_nil

theorem wellFormed_put (formed : doc.WellFormed) (valueFormed : value.WellFormed) :
    (put value doc names).WellFormed := by
  induction names generalizing doc with
  | nil => exact valueFormed
  | cons first rest ih =>
    refine ((formed_membersOf formed).insert first (ih ?_)).object
    cases found : Members.get? first (membersOf doc) with
    | none => exact Members.formed_nil.object
    | some child => exact (formed_membersOf formed).2 _ (Members.mem_of_get? found)

theorem wellFormed_set (formed : doc.WellFormed) (valueFormed : value.WellFormed) :
    (set doc path value).WellFormed := wellFormed_put formed valueFormed

theorem wellFormed_merge (formed : doc.WellFormed) (patchFormed : patch.Formed) :
    (merge doc patch).WellFormed := by
  apply merge_induction formed
  intro merged m member _ held
  exact wellFormed_set held (patchFormed.2 m member)

theorem wellFormed_touch (formed : doc.WellFormed) (now : Time.Instant) :
    (touch doc now).WellFormed := wellFormed_set formed trivial

end Document

end Catalog
