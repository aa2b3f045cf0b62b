import Catalog.Proofs.Sql.Translation
import Catalog.Text.Digits

/-!
Paths as the database follows them. A name selects a member of an object, as it does in memory, but
in an array a name that reads as an integer selects an element, where in memory a path ends. The two
agree exactly as long as no such name is met.
-/
namespace Catalog.Sql

open Json

/-- The element at a position; negative positions count from the end. -/
def elementAt? (items : List Value) : Int → Option Value
  | .ofNat i => items[i]?
  | .negSucc i => items.reverse[i]?

/-- The value below another one along some names, as `#>` finds it. How names read as integers is
left to the database. -/
def extract (integer? : String → Option Int) : Value → List String → Option Value
  | v, [] => some v
  | .object members, name :: rest =>
    (Members.get? name members).bind fun v => extract integer? v rest
  | .array items, name :: rest =>
    ((integer? name).bind (elementAt? items)).bind fun v => extract integer? v rest
  | _, _ :: _ => none

/-- The names lead through objects to an array, and on to something inside one of its elements. -/
def EntersArray (integer? : String → Option Int) (doc : Value) (names : List String) : Prop :=
  ∃ front name rest items v, names = front ++ name :: rest ∧
    Document.select doc front = some (.array items) ∧
    (integer? name).bind (elementAt? items) = some v ∧ (extract integer? v rest).isSome

variable {integer? : String → Option Int} {doc child : Value} {name : String}
  {names rest : List String}

theorem not_entersArray_nil : ¬ EntersArray integer? doc [] := by
  rintro ⟨front, name, rest, _, _, split, _⟩
  cases front <;> cases split

theorem entersArray_member (member : doc.member? name = some child) :
    EntersArray integer? doc (name :: rest) ↔ EntersArray integer? child rest := by
  constructor
  · rintro ⟨front, inner, after, items, v, split, array, element, inside⟩
    cases front with
    | nil =>
      -- a value with members is no array
      cases array
      cases member
    | cons first front =>
      obtain ⟨same, split⟩ := List.cons.inj split
      rw [← same, Document.select, member] at array
      exact ⟨front, inner, after, items, v, split, array, element, inside⟩
  · rintro ⟨front, inner, after, items, v, split, array, element, inside⟩
    refine ⟨name :: front, inner, after, items, v, congrArg (name :: ·) split, ?_, element, inside⟩
    rw [Document.select, member]
    exact array

theorem entersArray_no_member (none_there : doc.member? name = none) :
    EntersArray integer? doc (name :: rest) ↔ ∃ items, doc = .array items ∧
      ∃ v, (integer? name).bind (elementAt? items) = some v ∧ (extract integer? v rest).isSome := by
  constructor
  · rintro ⟨front, inner, after, items, v, split, array, element, inside⟩
    cases front with
    | nil =>
      obtain ⟨rfl, rfl⟩ := List.cons.inj split
      cases array
      exact ⟨items, rfl, v, element, inside⟩
    | cons first front =>
      obtain ⟨same, -⟩ := List.cons.inj split
      rw [← same, Document.select, none_there] at array
      cases array
  · rintro ⟨items, same, v, element, inside⟩
    exact ⟨[], name, rest, items, v, rfl, congrArg some same, element, inside⟩

/-- Following names in the database and in memory differ exactly where an array is entered. -/
theorem extract_eq_select_iff (integer? : String → Option Int) (doc : Value) (names : List String) :
    extract integer? doc names = Document.select doc names ↔ ¬ EntersArray integer? doc names := by
  induction names generalizing doc with
  | nil => exact iff_of_true rfl not_entersArray_nil
  | cons name rest ih =>
    cases held : doc.member? name with
    | some child =>
      cases doc with
      | object members =>
        have found : Members.get? name members = some child := held
        rw [entersArray_member held, ← ih child, extract, Document.select, held, found,
          Option.bind_some]
      | null | bool | number | text | array => cases held
    | none =>
      rw [entersArray_no_member held, Document.select, held]
      cases doc with
      | object members =>
        have missing : Members.get? name members = none := held
        simp [extract, missing]
      | array items =>
        cases element : (integer? name).bind (elementAt? items) with
        | none => simp [extract, element]
        | some v => cases inside : extract integer? v rest <;> simp [extract, element, inside]
      | null | bool | number | text => simp [extract]

namespace Row

variable {r : Row} {n : Nat} {path : String}

theorem operand_bound {params : List Param}
    (bound : r.Binds n (.textArray (segments path) :: params)) :
    r.operand none (.path (n + 1)) = some (r.engine.extract r.doc (segments path)) := by
  rw [operand, bound.head]

end Row

/-- Whatever a filter or a sort order binds for a path, the database selects by it what it finds
along the names of the path. That is what the path leads to in memory, the SQL null standing for
nothing, unless the path enters an array. -/
theorem paths_resolve_alike_iff (integer? : String → Option Int) (e : Engine)
    (native : e.extract = extract integer?) (path : String) (bound : List Param) (doc : Value)
    (n : Nat) :
    let row : Row := ⟨e, bound, doc⟩
    let selected := row.operand none (.path (n + 1))
    (∀ c, neverHolds c = false → row.Binds n (clauseCondition n (.field path c)).2 →
      (selected = some (Document.resolve doc path) ↔
        ¬ EntersArray integer? doc (segments path))) ∧
    ∀ direction others, row.Binds n (ofRanking n (⟨path, direction⟩ :: others)).2 →
      (selected = some (Document.resolve doc path) ↔
        ¬ EntersArray integer? doc (segments path)) := by
  intro row selected
  have alike : ∀ params, row.Binds n (.textArray (segments path) :: params) →
      (selected = some (Document.resolve doc path) ↔
        ¬ EntersArray integer? doc (segments path)) := by
    intro params binds
    have found : selected = some (e.extract doc (segments path)) := Row.operand_bound binds
    rw [found, native, Option.some_inj, Document.resolve]
    exact extract_eq_select_iff integer? doc (segments path)
  constructor
  · intro c live binds
    simp only [clauseCondition, live, Bool.false_eq_true, if_false] at binds
    exact alike _ binds
  · intro direction others binds
    exact alike _ binds

/-- Integers with a sign perhaps, and blanks before it. -/
def wordInteger? (name : String) : Option Int :=
  Text.signed? (name.toList.dropWhile fun c => c == ' ' || '\t' ≤ c && c ≤ '\r')

def indexing : Engine := { inMemory startingWithA with extract := extract wordInteger? }

def tagged : Value := .object [("tags", .array [.text "a"])]

theorem paths_resolve_alike_iff_tagged :
    let row : Row := ⟨indexing, [.textArray ["tags"], .json .null], tagged⟩
    let selected := row.operand none (.path 1)
    (∀ c, neverHolds c = false → row.Binds 0 (clauseCondition 0 (.field "tags" c)).2 →
      (selected = some (Document.resolve tagged "tags") ↔
        ¬ EntersArray wordInteger? tagged (segments "tags"))) ∧
    (∀ direction others, row.Binds 0 (ofRanking 0 (⟨"tags", direction⟩ :: others)).2 →
      (selected = some (Document.resolve tagged "tags") ↔
        ¬ EntersArray wordInteger? tagged (segments "tags"))) ∧
    row.Binds 0 (clauseCondition 0 (Query.Filter.eq "tags" .null)).2 ∧
    selected = some (Document.resolve tagged "tags") := by
  obtain ⟨filters, rankings⟩ := paths_resolve_alike_iff wordInteger? indexing rfl "tags"
    [.textArray ["tags"], .json .null] tagged 0
  refine ⟨filters, rankings, ?_, rfl⟩
  intro i p found
  rwa [Nat.zero_add]

/-- By the path `tags.0` the database selects an element, where there is nothing in memory, so it
takes a document for an answer that the filter does not select. -/
theorem index_selects_element :
    let row : Row := ⟨indexing, (ofFilter 0 [Query.Filter.eq "tags.0" (.text "a")]).2, tagged⟩
    row.operand none (.path 1) = some (some (.text "a")) ∧
      Document.resolve tagged "tags.0" = none ∧
      row.truth none (ofFilter 0 [Query.Filter.eq "tags.0" (.text "a")]).1 = .yes ∧
      Query.selects [Query.Filter.eq "tags.0" (.text "a")] tagged = false := by
  have names : segments "tags.0" = ["tags", "0"] := by decide
  have position : wordInteger? "0" = some 0 := by decide +kernel
  intro row
  have bound : row.operand none (.path 1) =
      some (extract wordInteger? tagged (segments "tags.0")) := rfl
  refine ⟨?_, ?_, ?_, ?_⟩
  · rw [bound, names]
    simp [extract, tagged, Members.get?, position, elementAt?]
  · rw [Document.resolve, names]
    rfl
  · decide +kernel
  · decide +kernel

end Catalog.Sql
