import Catalog.Proofs.Json.Depth

/-!
Equality of documents. Two values are equal just if they are one value once zeros have no signs, so
every value equals itself. Values that are equal nest equally deep, and no value equals one of its
own parts.
-/
namespace Catalog.Json

/-- The number with no sign on a zero. -/
def Binary64.unsigned (x : Binary64) : Binary64 := ⟨x.negative && x.units != 0, x.units⟩

theorem Binary64.same_iff (x y : Binary64) : x.same y = true ↔ x.unsigned = y.unsigned := by
  obtain ⟨below, m⟩ := x
  obtain ⟨under, n⟩ := y
  rw [same, beq_iff_eq]
  cases below <;> cases under <;> simp [steps, unsigned]
  case false.true | true.false => omega
  case true.true =>
    rintro rfl
    rfl

def Number.unsigned : Number → Number
  | .integer i => .integer i
  | .double x => .double x.unsigned

theorem Number.same_iff (m n : Number) : m.same n = true ↔ m.unsigned = n.unsigned := by
  cases m <;> cases n <;> simp [same, unsigned, Binary64.same_iff]

namespace Value

mutual

/-- The value with no signs on the zeros in it. -/
def unsigned : Value → Value
  | .null => .null
  | .bool b => .bool b
  | .number n => .number n.unsigned
  | .text s => .text s
  | .array items => .array (unsignedItems items)
  | .object members => .object (unsignedMembers members)

def unsignedItems : List Value → List Value
  | [] => []
  | v :: rest => v.unsigned :: unsignedItems rest

def unsignedMembers : List (String × Value) → List (String × Value)
  | [] => []
  | (name, v) :: rest => (name, v.unsigned) :: unsignedMembers rest

end

mutual

theorem same_iff (v w : Value) : v.same w = true ↔ v.unsigned = w.unsigned := by
  match v with
  | .null | .bool _ | .text _ => cases w <;> simp [same, unsigned]
  | .number n => cases w <;> simp [same, unsigned, Number.same_iff]
  | .array items => cases w <;> simp [same, unsigned, sameItems_iff items]
  | .object members => cases w <;> simp [same, unsigned, sameMembers_iff members]

theorem sameItems_iff (items others : List Value) :
    sameItems items others = true ↔ unsignedItems items = unsignedItems others := by
  match items with
  | [] => cases others <;> simp [sameItems, unsignedItems]
  | v :: rest =>
    cases others <;> simp [sameItems, unsignedItems, same_iff v, sameItems_iff rest]

theorem sameMembers_iff (members others : List (String × Value)) :
    sameMembers members others = true ↔ unsignedMembers members = unsignedMembers others := by
  match members with
  | [] => cases others <;> simp [sameMembers, unsignedMembers]
  | (name, v) :: rest =>
    cases others <;>
      simp [sameMembers, unsignedMembers, same_iff v, sameMembers_iff rest, and_assoc]

end

theorem same_refl (v : Value) : v.same v = true := (same_iff v v).mpr rfl

mutual

theorem depth_unsigned (v : Value) : v.unsigned.depth = v.depth := by
  match v with
  | .null | .bool _ | .number _ | .text _ => rfl
  | .array items => rw [unsigned, depth, depth, itemsDepth_unsigned items]
  | .object members => rw [unsigned, depth, depth, membersDepth_unsigned members]

theorem itemsDepth_unsigned (items : List Value) :
    itemsDepth (unsignedItems items) = itemsDepth items := by
  match items with
  | [] => rfl
  | v :: rest =>
    rw [unsignedItems, itemsDepth, itemsDepth, depth_unsigned v, itemsDepth_unsigned rest]

theorem membersDepth_unsigned (members : List (String × Value)) :
    membersDepth (unsignedMembers members) = membersDepth members := by
  match members with
  | [] => rfl
  | (_, v) :: rest =>
    rw [unsignedMembers, membersDepth, membersDepth, depth_unsigned v, membersDepth_unsigned rest]

end

theorem depth_of_same {v w : Value} (equal : v.same w = true) : v.depth = w.depth := by
  rw [← depth_unsigned v, (same_iff v w).mp equal, depth_unsigned]

theorem not_same_of_depth_lt {v w : Value} (shallower : v.depth < w.depth) : v.same w = false := by
  apply Bool.eq_false_iff.mpr
  intro equal
  have level := depth_of_same equal
  omega

end Value

end Catalog.Json
