import Catalog.Pattern.Folding
import Catalog.Proofs.Lists
import Catalog.Proofs.Text.Letters

/-!
Ranges of ASCII characters and what case folding adds to them: the folded ranges cover a character
just if the ranges themselves cover one of its forms.
-/
namespace Catalog.Pattern

open Text (isAscii otherCase)

/-- Is the character in one of the ranges? -/
def covered (ranges : List Range) (c : Char) : Bool := ranges.any fun r => r.1 ≤ c && c ≤ r.2

/-- Is one of its forms, where letter case does not count? -/
def reached (folding : Bool) (ranges : List Range) (c : Char) : Bool :=
  covered ranges c || folding && covered ranges (otherCase c)

/-- A range of ASCII characters, the smaller end first. -/
structure Proper (r : Range) : Prop where
  ordered : r.1 ≤ r.2
  ascii : isAscii r.2 = true

variable {r : Range} {ranges more parts : List Range} {c d : Char}

theorem covered_nil (c : Char) : covered [] c = false := rfl

theorem covered_append : covered (ranges ++ more) c = (covered ranges c || covered more c) :=
  List.any_append

theorem covered_cons : covered (r :: ranges) c = (covered [r] c || covered ranges c) := by
  change covered ([r] ++ ranges) c = _
  exact covered_append

theorem covered_one : covered [r] c = true ↔ r.1.toNat ≤ c.toNat ∧ c.toNat ≤ r.2.toNat := by
  simp only [covered, List.any_cons, List.any_nil, Bool.or_false, Bool.and_eq_true,
    decide_eq_true_eq]
  exact Iff.rfl

theorem covered_self : covered [(d, d)] c = true ↔ c = d := by
  rw [covered_one, ← Char.toNat_inj]
  dsimp only
  omega

theorem covered_outside (proper : ∀ r ∈ ranges, Proper r) (outside : isAscii c = false) :
    covered ranges c = false := by
  rw [covered, List.any_eq_false]
  intro r member
  have low : r.2.toNat < 128 := (Text.isAscii_iff _).mp (proper r member).ascii
  have high : ¬ c.toNat < 128 := fun ascii => by simp [(Text.isAscii_iff c).mpr ascii] at outside
  have apart : ¬ c ≤ r.2 := fun le => high (Nat.lt_of_le_of_lt le low)
  simp [apart]

theorem reached_append (folding : Bool) : reached folding (ranges ++ more) c =
    (reached folding ranges c || reached folding more c) := by
  simp only [reached, covered_append]
  cases folding <;> cases covered ranges c <;> cases covered more c <;> simp

theorem reached_cons (folding : Bool) : reached folding (r :: ranges) c =
    (reached folding [r] c || reached folding ranges c) := by
  change reached folding ([r] ++ ranges) c = _
  exact reached_append folding

theorem reached_plain : reached false ranges c = covered ranges c := Bool.or_false _

theorem Proper.of_single (ascii : isAscii c = true) : Proper (c, c) := ⟨Nat.le_refl _, ascii⟩

theorem Proper.first_ascii (proper : Proper r) : isAscii r.1 = true := by
  have low := (Text.isAscii_iff _).mp proper.ascii
  exact (Text.isAscii_iff _).mpr (Nat.lt_of_le_of_lt proper.ordered low)

/-! Forms of letters as numbers -/

theorem toNat_otherCase (ascii : isAscii c = true) : (otherCase c).toNat =
    if 97 ≤ c.toNat ∧ c.toNat ≤ 122 then c.toNat - 32
    else if 65 ≤ c.toNat ∧ c.toNat ≤ 90 then c.toNat + 32 else c.toNat :=
  Text.forall_ascii (P := fun c => (otherCase c).toNat =
    if 97 ≤ c.toNat ∧ c.toNat ≤ 122 then c.toNat - 32
    else if 65 ≤ c.toNat ∧ c.toNat ≤ 90 then c.toNat + 32 else c.toNat) (by decide) ascii

theorem toNat_asciiUpper (ascii : isAscii c = true) : (Text.asciiUpper c).toNat =
    if 97 ≤ c.toNat ∧ c.toNat ≤ 122 then c.toNat - 32 else c.toNat :=
  Text.forall_ascii (P := fun c => (Text.asciiUpper c).toNat =
    if 97 ≤ c.toNat ∧ c.toNat ≤ 122 then c.toNat - 32 else c.toNat) (by decide) ascii

theorem toNat_asciiLower (ascii : isAscii c = true) : (Text.asciiLower c).toNat =
    if 65 ≤ c.toNat ∧ c.toNat ≤ 90 then c.toNat + 32 else c.toNat :=
  Text.forall_ascii (P := fun c => (Text.asciiLower c).toNat =
    if 65 ≤ c.toNat ∧ c.toNat ≤ 90 then c.toNat + 32 else c.toNat) (by decide) ascii

theorem caseVariants_ascii (ascii : isAscii c = true) :
    caseVariants c = if otherCase c = c then [c] else [c, otherCase c] :=
  Text.forall_ascii (P := fun c => caseVariants c =
    if otherCase c = c then [c] else [c, otherCase c]) (by decide) ascii

theorem reached_self (ascii : isAscii c = true) (asciiD : isAscii d = true) :
    reached true [(c, c)] d = true ↔ d = c ∨ d = otherCase c := by
  rw [reached, Bool.true_and, Bool.or_eq_true, covered_self, covered_self]
  refine or_congr_right ⟨fun same => ?_, fun same => ?_⟩
  · rw [← same, Text.otherCase_otherCase asciiD]
  · rw [same, Text.otherCase_otherCase ascii]

/-! What folding adds -/

theorem overlap?_eq (r : Range) (first last : Char) : ∃ lo hi : Char,
    lo.toNat = max r.1.toNat first.toNat ∧ hi.toNat = min r.2.toNat last.toNat ∧
      overlap? r first last = if lo ≤ hi then some (lo, hi) else none := by
  refine ⟨if first < r.1 then r.1 else first, if r.2 < last then r.2 else last, ?_, ?_, rfl⟩
  · split
    · rename_i below
      exact (Nat.max_eq_left (Nat.le_of_lt below)).symm
    · rename_i above
      exact (Nat.max_eq_right (Nat.not_lt.mp above)).symm
  · split
    · rename_i below
      exact (Nat.min_eq_left (Nat.le_of_lt below)).symm
    · rename_i above
      exact (Nat.min_eq_right (Nat.not_lt.mp above)).symm

/-- The part of a range between two characters, with both ends in another form. -/
def moved (form : Char → Char) (first last : Char) (r : Range) : List Range :=
  ((overlap? r first last).map fun (lo, hi) => (form lo, form hi)).toList

/-- A form that lies at one distance from all characters between the two moves what the range has of
them by that distance. -/
theorem moved_spec {form : Char → Char} {first last : Char} {up down : Nat}
    (distance : ∀ c : Char, first.toNat ≤ c.toNat → c.toNat ≤ last.toNat →
      (form c).toNat + down = c.toNat + up)
    (low : last.toNat + up < 128 + down) (r : Range) :
    (∀ part ∈ moved form first last r, Proper part) ∧
      ∀ c, covered (moved form first last r) c = true ↔
        (first.toNat + up ≤ c.toNat + down ∧ c.toNat + down ≤ last.toNat + up) ∧
          r.1.toNat + up ≤ c.toNat + down ∧ c.toNat + down ≤ r.2.toNat + up := by
  obtain ⟨lo, hi, least, most, overlap⟩ := overlap?_eq r first last
  unfold moved
  rw [overlap]
  split
  · rename_i ordered
    have ordered : lo.toNat ≤ hi.toNat := ordered
    have bottom := distance lo (by omega) (by omega)
    have top := distance hi (by omega) (by omega)
    simp only [Option.map_some, Option.toList_some, List.forall_mem_singleton, covered_one]
    refine ⟨⟨show (form lo).toNat ≤ (form hi).toNat by omega,
      (Text.isAscii_iff _).mpr (show (form hi).toNat < 128 by omega)⟩, fun c => ?_⟩
    omega
  · rename_i apart
    have apart : ¬ lo.toNat ≤ hi.toNat := apart
    simp only [Option.map_none, Option.toList_none, covered_nil, Bool.false_eq_true, false_iff]
    exact ⟨fun _ none => (nomatch none), fun c => by omega⟩

theorem asciiUpper_distance (c : Char) (above : 'a'.toNat ≤ c.toNat) (below : c.toNat ≤ 'z'.toNat) :
    (Text.asciiUpper c).toNat + 32 = c.toNat + 0 := by
  have above : 97 ≤ c.toNat := above
  have below : c.toNat ≤ 122 := below
  rw [toNat_asciiUpper ((Text.isAscii_iff c).mpr (by omega)), if_pos ⟨above, below⟩]
  omega

theorem asciiLower_distance (c : Char) (above : 'A'.toNat ≤ c.toNat) (below : c.toNat ≤ 'Z'.toNat) :
    (Text.asciiLower c).toNat + 0 = c.toNat + 32 := by
  have above : 65 ≤ c.toNat := above
  have below : c.toNat ≤ 90 := below
  rw [toNat_asciiLower ((Text.isAscii_iff c).mpr (by omega)), if_pos ⟨above, below⟩]

/-- What folding adds to a range covers the other forms of its characters. -/
theorem foldedParts_spec (proper : Proper r) (folded : foldedParts r = .ok parts) :
    (∀ part ∈ parts, Proper part) ∧ ∀ c, isAscii c = true →
      (covered [r] c || covered parts c) = reached true [r] c := by
  unfold foldedParts at folded
  split at folded
  · rename_i single
    have same : r = (r.1, r.1) := Prod.ext rfl (eq_of_beq single).symm
    generalize r.1 = only at same folded
    subst same
    have ascii := proper.ascii
    cases folded
    rw [caseVariants_ascii ascii]
    split
    · rename_i fixed
      refine ⟨fun _ none => (nomatch none), fun c asciiC => ?_⟩
      rw [List.tail_cons, List.map_nil, covered_nil, Bool.or_false, Bool.eq_iff_iff, covered_self,
        reached_self ascii asciiC, fixed, or_self]
    · refine ⟨List.forall_mem_singleton.mpr (.of_single (Text.isAscii_otherCase ascii)),
        fun c asciiC => ?_⟩
      rw [List.tail_cons, List.map_singleton, Bool.eq_iff_iff, Bool.or_eq_true, covered_self,
        covered_self, reached_self ascii asciiC]
  · rw [if_neg (by rw [proper.ascii]; decide)] at folded
    have same : parts = moved Text.asciiUpper 'a' 'z' r ++ moved Text.asciiLower 'A' 'Z' r :=
      (Except.ok.inj folded).symm
    rw [same]
    obtain ⟨properCapital, coversCapital⟩ := moved_spec asciiUpper_distance (by decide) r
    obtain ⟨properSmall, coversSmall⟩ := moved_spec asciiLower_distance (by decide) r
    refine ⟨List.forall_mem_append.mpr ⟨properCapital, properSmall⟩, fun c ascii => ?_⟩
    have other := toNat_otherCase ascii
    have a : 'a'.toNat = 97 := rfl
    have z : 'z'.toNat = 122 := rfl
    have capitalA : 'A'.toNat = 65 := rfl
    have capitalZ : 'Z'.toNat = 90 := rfl
    rw [reached, Bool.true_and, covered_append, Bool.eq_iff_iff]
    simp only [Bool.or_eq_true, coversCapital, coversSmall, covered_one, other]
    split
    · omega
    · split <;> omega

theorem foldRanges_spec (proper : ∀ r ∈ ranges, Proper r) (folded : foldRanges ranges = .ok more) :
    (∀ r ∈ more, Proper r) ∧ ∀ c, isAscii c = true → covered more c = reached true ranges c := by
  obtain ⟨added, each, same⟩ := bind_eq_ok.mp folded
  cases same
  rw [mapM_eq_ok] at each
  clear folded
  induction each with
  | nil => exact ⟨fun _ none => (nomatch none), fun _ _ => rfl⟩
  | @cons r parts ranges added head _ ih =>
    obtain ⟨here, rest⟩ := List.forall_mem_cons.mp proper
    obtain ⟨properParts, coversHere⟩ := foldedParts_spec here head
    obtain ⟨properRest, coversRest⟩ := ih rest
    obtain ⟨properRanges, properAdded⟩ := List.forall_mem_append.mp properRest
    rw [List.flatten_cons]
    refine ⟨List.forall_mem_append.mpr ⟨proper, List.forall_mem_append.mpr
      ⟨properParts, properAdded⟩⟩, fun c ascii => ?_⟩
    have first := coversHere c ascii
    have later := coversRest c ascii
    rw [covered_append] at later
    rw [covered_append, covered_append, covered_cons, reached_cons, ← first, ← later]
    cases covered [r] c <;> cases covered ranges c <;> cases covered parts c <;>
      cases covered added.flatten c <;> rfl

end Catalog.Pattern
