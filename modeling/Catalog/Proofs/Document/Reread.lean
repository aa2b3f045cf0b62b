import Mathlib.Data.List.Forall2
import Catalog.Proofs.Document.Fields

/-!
Documents whose numbers were read anew. The same paths lead somewhere, to the same values read
anew, so texts and identities are what they were.
-/
namespace Catalog

open Json

namespace Json

/-- The second value is the first one with its numbers read anew. -/
def Value.Rereads (v w : Value) : Prop := v.reread? = some w

namespace Value

mutual

/-- There is no number in the value. -/
def numberless : Value → Bool
  | .null | .bool _ | .text _ => true
  | .number _ => false
  | .array items => numberlessItems items
  | .object members => numberlessMembers members

def numberlessItems : List Value → Bool
  | [] => true
  | v :: rest => v.numberless && numberlessItems rest

def numberlessMembers : List (String × Value) → Bool
  | [] => true
  | (_, v) :: rest => v.numberless && numberlessMembers rest

end

mutual

/-- Only numbers may read back as others. -/
theorem reread?_of_numberless (v : Value) (without : v.numberless = true) : v.reread? = some v := by
  match v with
  | .null | .bool _ | .text _ => rfl
  | .array items => simp only [reread?, rereadItems?_of_numberless items without, Option.map_some]
  | .object members =>
    simp only [reread?, rereadMembers?_of_numberless members without, Option.map_some]

theorem rereadItems?_of_numberless (items : List Value) (without : numberlessItems items = true) :
    rereadItems? items = some items := by
  match items with
  | [] => rfl
  | v :: rest =>
    obtain ⟨first, later⟩ := Bool.and_eq_true_iff.mp without
    simp only [rereadItems?, reread?_of_numberless v first, rereadItems?_of_numberless rest later,
      Option.bind_some, Option.map_some]

theorem rereadMembers?_of_numberless (members : List (String × Value))
    (without : numberlessMembers members = true) : rereadMembers? members = some members := by
  match members with
  | [] => rfl
  | (name, v) :: rest =>
    obtain ⟨first, later⟩ := Bool.and_eq_true_iff.mp without
    simp only [rereadMembers?, reread?_of_numberless v first,
      rereadMembers?_of_numberless rest later, Option.bind_some, Option.map_some]

end

end Value

theorem Members.get?_reread {members others : Members}
    (read : Value.rereadMembers? members = some others) (name : String) :
    Option.Rel Value.Rereads (Members.get? name members) (Members.get? name others) := by
  induction members generalizing others with
  | nil =>
    cases read
    exact .none
  | cons m members ih =>
    obtain ⟨n, v⟩ := m
    obtain ⟨w, first, more⟩ := Option.bind_eq_some_iff.mp read
    obtain ⟨ws, later, same⟩ := Option.map_eq_some_iff.mp more
    subst same
    simp only [Members.get?]
    split
    · exact .some first
    · exact ih later

theorem Value.Rereads.member? {v w : Value} (read : v.Rereads w) (name : String) :
    Option.Rel Rereads (v.member? name) (w.member? name) := by
  cases v with
  | text | null | bool =>
    cases read
    exact .none
  | number | array =>
    obtain ⟨_, _, same⟩ := Option.map_eq_some_iff.mp read
    subst same
    exact .none
  | object members =>
    obtain ⟨others, rest, same⟩ := Option.map_eq_some_iff.mp read
    subst same
    exact Members.get?_reread rest name

theorem Value.rereadItems?_eq_some {items others : List Value} :
    rereadItems? items = some others ↔ List.Forall₂ Rereads items others := by
  induction items generalizing others with
  | nil => cases others <;> simp [rereadItems?]
  | cons v items ih =>
    simp only [rereadItems?, Option.bind_eq_some_iff, Option.map_eq_some_iff,
      List.forall₂_cons_left_iff]
    constructor
    · rintro ⟨w, first, ws, later, same⟩
      exact ⟨w, ws, first, ih.mp later, same.symm⟩
    · rintro ⟨w, ws, first, later, same⟩
      exact ⟨w, first, ws, ih.mpr later, same.symm⟩

theorem Members.rereads_insert {members others : Members} {v w : Value}
    (read : Value.rereadMembers? members = some others) (valueRead : v.Rereads w) (name : String) :
    Value.rereadMembers? (insert name v members) = some (insert name w others) := by
  have valueRead : v.reread? = some w := valueRead
  induction members generalizing others with
  | nil =>
    cases read
    simp [insert, Value.rereadMembers?, valueRead]
  | cons m members ih =>
    obtain ⟨n, u⟩ := m
    obtain ⟨anew, first, more⟩ := Option.bind_eq_some_iff.mp read
    obtain ⟨ws, later, same⟩ := Option.map_eq_some_iff.mp more
    subst same
    simp only [insert]
    split
    · simp [Value.rereadMembers?, valueRead, later]
    · split
      · simp [Value.rereadMembers?, valueRead, first, later]
      · simp [Value.rereadMembers?, first, ih later]

namespace Value

mutual

theorem depth_reread (v w : Value) (read : v.reread? = some w) : w.depth = v.depth := by
  match v with
  | .null | .bool _ | .text _ =>
    cases read
    rfl
  | .number n =>
    obtain ⟨m, -, same⟩ := Option.map_eq_some_iff.mp read
    subst same
    rfl
  | .array items =>
    obtain ⟨ws, inner, same⟩ := Option.map_eq_some_iff.mp read
    subst same
    exact congrArg (· + 1) (itemsDepth_reread items ws inner)
  | .object members =>
    obtain ⟨ws, inner, same⟩ := Option.map_eq_some_iff.mp read
    subst same
    exact congrArg (· + 1) (membersDepth_reread members ws inner)

theorem itemsDepth_reread (items ws : List Value) (read : rereadItems? items = some ws) :
    itemsDepth ws = itemsDepth items := by
  match items with
  | [] =>
    cases read
    rfl
  | v :: rest =>
    obtain ⟨w, first, more⟩ := Option.bind_eq_some_iff.mp read
    obtain ⟨others, later, same⟩ := Option.map_eq_some_iff.mp more
    subst same
    rw [itemsDepth, itemsDepth, depth_reread v w first, itemsDepth_reread rest others later]

theorem membersDepth_reread (members ws : List (String × Value))
    (read : rereadMembers? members = some ws) : membersDepth ws = membersDepth members := by
  match members with
  | [] =>
    cases read
    rfl
  | (name, v) :: rest =>
    obtain ⟨w, first, more⟩ := Option.bind_eq_some_iff.mp read
    obtain ⟨others, later, same⟩ := Option.map_eq_some_iff.mp more
    subst same
    rw [membersDepth, membersDepth, depth_reread v w first, membersDepth_reread rest others later]

end

/-- The value after reading back a number of times. -/
def readBack? : Nat → Value → Option Value
  | 0, v => some v
  | n + 1, v => v.reread?.bind (readBack? n)

/-- However often the value is read back, something comes of it. -/
def Endures (v : Value) : Prop := ∀ n, (readBack? n v).isSome

theorem Endures.next {v : Value} (endures : v.Endures) : ∃ w, v.Rereads w ∧ w.Endures := by
  obtain ⟨w, read⟩ : ∃ w, v.reread? = some w := by
    have once := endures 1
    cases read : v.reread? with
    | none => simp [readBack?, read] at once
    | some w => exact ⟨w, rfl⟩
  refine ⟨w, read, fun n => ?_⟩
  have later := endures (n + 1)
  rwa [readBack?, read, Option.bind_some] at later

theorem Endures.of_steady {v : Value} (steady : v.Rereads v) : v.Endures := by
  have steady : v.reread? = some v := steady
  intro n
  induction n with
  | zero => rfl
  | succ n ih => rwa [readBack?, steady, Option.bind_some]

end Value

theorem Value.rereadMembers?_steady {members : Members} :
    rereadMembers? members = some members ↔ ∀ m ∈ members, m.2.Rereads m.2 := by
  induction members with
  | nil => simp [rereadMembers?]
  | cons m members ih =>
    obtain ⟨name, v⟩ := m
    simp [rereadMembers?, Option.bind_eq_some_iff, Rereads, ih]

theorem Value.rereads_object {members : Members} :
    (Value.object members).Rereads (.object members) ↔ ∀ m ∈ members, m.2.Rereads m.2 := by
  rw [← rereadMembers?_steady]
  simp [Rereads, reread?]

/-- A number in an object moves, and the text before it stays. -/
theorem Value.rereads_beside_text {name field id : String} {n m : Number}
    (moves : n.reread? = some m) :
    (Value.object [(name, .text id), (field, .number n)]).Rereads
      (.object [(name, .text id), (field, .number m)]) := by
  simp only [Rereads, reread?, rereadMembers?, moves, Option.map_some, Option.bind_some]

/-! A number that moves with every writing -/

namespace Number

def faintUnit : Nat := Nat.pow 2 997

/-- A small double. -/
def faint (significand : Nat) : Number := .double ⟨false, significand * faintUnit⟩

theorem faint_injective : Function.Injective faint := by
  intro significand other same
  simp only [faint, Number.double.injEq, Binary64.mk.injEq, true_and] at same
  exact Nat.eq_of_mul_eq_mul_right (by decide +kernel) same

theorem faint_up : (faint 8567991254637793).reread? = some (faint 8567991254637794) := by
  decide +kernel

theorem faint_down : (faint 8567991254637794).reread? = some (faint 8567991254637793) := by
  decide +kernel

end Number

end Json

namespace Document

variable {doc other value anew : Value} {patch : Members}

theorem select_reread (read : doc.Rereads other) (names : List String) :
    Option.Rel Value.Rereads (select doc names) (select other names) := by
  induction names generalizing doc other with
  | nil => exact .some read
  | cons name rest ih =>
    have child := read.member? name
    simp only [select]
    cases held : doc.member? name <;> cases anew : other.member? name <;>
      rw [held, anew] at child <;> cases child
    case none.none => exact .none
    case some.some related => exact ih related

theorem resolve_reread_of_steady (read : doc.Rereads other) {path : String}
    (steady : ∀ v, resolve doc path = some v → v.Rereads v) :
    resolve other path = resolve doc path := by
  have related := select_reread read (segments path)
  unfold resolve at steady ⊢
  cases held : select doc (segments path) <;> cases anew : select other (segments path) <;>
    rw [held, anew] at related <;> cases related
  case some.some.some v w anew' =>
    have same : v.reread? = some v := steady v held
    rw [Value.Rereads, same] at anew'
    exact anew'.symm

theorem id?_reread (read : doc.Rereads other) : id? other = id? doc := by
  have related := read.member? Field.id
  unfold id?
  cases held : doc.member? Field.id <;> cases anew : other.member? Field.id <;>
    rw [held, anew] at related <;> cases related
  case some.some.some v w anew' =>
    cases v with
    | text | null | bool =>
      cases anew'
      rfl
    | number | array | object =>
      obtain ⟨_, _, same⟩ := Option.map_eq_some_iff.mp anew'
      subst same
      rfl

/-! Documents that read back as they are -/

theorem rereads_membersOf (steady : doc.Rereads doc) : ∀ m ∈ membersOf doc, m.2.Rereads m.2 := by
  cases doc with
  | object members => exact Value.rereads_object.mp steady
  | null | bool | number | text | array => exact fun _ member => nomatch member

theorem rereadMembers?_membersOf (read : doc.Rereads other) :
    Value.rereadMembers? (membersOf doc) = some (membersOf other) := by
  cases doc with
  | null | bool | text =>
    cases read
    rfl
  | number | array =>
    obtain ⟨_, _, same⟩ := Option.map_eq_some_iff.mp read
    subst same
    rfl
  | object members =>
    obtain ⟨others, inner, same⟩ := Option.map_eq_some_iff.mp read
    subst same
    exact inner

theorem rereads_put (read : doc.Rereads other) (valueRead : value.Rereads anew)
    (names : List String) : (put value doc names).Rereads (put anew other names) := by
  induction names generalizing doc other with
  | nil => exact valueRead
  | cons first rest ih =>
    have members := rereadMembers?_membersOf read
    have child : ((Members.get? first (membersOf doc)).getD (.object [])).Rereads
        ((Members.get? first (membersOf other)).getD (.object [])) := by
      have related := Members.get?_reread members first
      cases held : Members.get? first (membersOf doc) <;>
        cases found : Members.get? first (membersOf other) <;>
        rw [held, found] at related <;> cases related
      case none.none => rfl
      case some.some inner => exact inner
    exact congrArg (Option.map Value.object) (Members.rereads_insert members (ih child) first)

theorem rereads_set (read : doc.Rereads other) (valueRead : value.Rereads anew)
    (path : String) : (set doc path value).Rereads (set other path anew) :=
  rereads_put read valueRead (segments path)

theorem endures_set (endures : doc.Endures) (steady : value.Rereads value) (path : String) :
    (set doc path value).Endures := by
  intro n
  induction n generalizing doc with
  | zero => rfl
  | succ n ih =>
    obtain ⟨other, read, enduresOther⟩ := endures.next
    have again : (set doc path value).reread? = some (set other path value) :=
      rereads_set read steady path
    rw [Value.readBack?, again, Option.bind_some]
    exact ih enduresOther

theorem rereads_merge (steady : doc.Rereads doc) (values : ∀ m ∈ patch, m.2.Rereads m.2) :
    (merge doc patch).Rereads (merge doc patch) := by
  apply merge_induction (motive := fun merged => merged.Rereads merged) steady
  intro merged m member _ held
  exact rereads_set held (values m member) m.1

end Document

end Catalog
