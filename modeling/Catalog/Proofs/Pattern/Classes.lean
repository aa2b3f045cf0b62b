import Catalog.Pattern.Reader
import Catalog.Pattern.Resolution
import Catalog.Proofs.Lists
import Catalog.Proofs.Pattern.Ranges

/-!
Sets of characters against ranges of ASCII. A set spells ranges if the two agree on every ASCII
character, letter case counting or not. The classes with a name are Unicode classes to the reader
of sets; within ASCII they are the ranges of the same name.
-/
namespace Catalog.Pattern

open Text (isAscii otherCase sameLetters)

/-- Does a set that is no operation and holds no property hold the character? -/
def CharSet.holds (set : CharSet) (properties : Property → Char → Bool) (folding : Bool)
    (c : Char) : Bool :=
  ((Alphabet.mk true folding).variants c).any (set.contains properties ⟨true, folding⟩)

/-- The set and the ranges agree within ASCII. -/
structure Spells (folding : Bool) (set : CharSet) (ranges : List Range) : Prop where
  covers : ∀ properties c, isAscii c = true →
    set.holds properties folding c = reached folding ranges c
  usable : ∀ f : Flags, f.unicode = true → set.usable f = true

/-- The items together and the ranges agree within ASCII. -/
structure SpellsAll (folding : Bool) (items : List CharSet) (ranges : List Range) : Prop where
  covers : ∀ properties c, isAscii c = true →
    items.any (fun item => item.holds properties folding c) = reached folding ranges c
  usable : ∀ f : Flags, f.unicode = true → ∀ item ∈ items, item.usable f = true

variable {folding : Bool} {set item : CharSet} {items : List CharSet} {ranges more : List Range}
  {c : Char}

/-! One item -/

/-- A set that holds the characters of the ranges and, besides, at most what counts as one. -/
theorem Spells.of_contains (usable : ∀ f : Flags, f.unicode = true → set.usable f = true)
    (inside : ∀ properties c, isAscii c = true →
      set.contains properties ⟨true, folding⟩ c = covered ranges c)
    (outside : ∀ properties c v, isAscii c = true → v ∈ sameLetters c → isAscii v = false →
      set.contains properties ⟨true, folding⟩ v = true → covered ranges c = true) :
    Spells folding set ranges where
  usable := usable
  covers properties c ascii := by
    cases folding with
    | false => simp [CharSet.holds, Alphabet.variants, reached, inside properties c ascii]
    | true =>
      have other := inside properties _ (Text.isAscii_otherCase ascii)
      rw [Bool.eq_iff_iff]
      simp only [CharSet.holds, Alphabet.variants, Bool.not_true, Bool.false_eq_true, if_false,
        if_true, List.any_cons, Bool.or_eq_true, List.any_eq_true, inside properties c ascii,
        reached, Bool.true_and]
      constructor
      · rintro (here | ⟨v, same, held⟩)
        · exact .inl here
        · by_cases asciiV : isAscii v = true
          · rcases Text.sameLetters_cases ascii same with rfl | rfl | ⟨-, rfl | rfl⟩
            · exact .inl ((inside properties _ ascii).symm.trans held)
            · exact .inr (other.symm.trans held)
            · exact absurd asciiV (by decide)
            · exact absurd asciiV (by decide)
          · exact .inl (outside properties c v ascii same (Bool.eq_false_iff.mpr asciiV) held)
      · rintro (here | there)
        · exact .inl here
        · exact .inr ⟨otherCase c, Text.otherCase_mem ascii, other.trans there⟩

theorem spells_literal {l : Literal} (ascii : isAscii l.char = true) :
    Spells folding (.literal l) [(l.char, l.char)] := by
  refine .of_contains (fun f unicode => by simp [CharSet.usable, unicode]) ?_ ?_
  · intro properties c _
    rw [Bool.eq_iff_iff, covered_self, CharSet.contains, beq_iff_eq]
    exact eq_comm
  · intro properties c v _ _ outside held
    rw [CharSet.contains, beq_iff_eq] at held
    rw [← held, ascii] at outside
    cases outside

theorem spells_range {first last : Literal} (proper : Proper (first.char, last.char)) :
    Spells folding (.range first last) [(first.char, last.char)] := by
  refine .of_contains (fun f unicode => by simp [CharSet.usable, unicode]) ?_ ?_
  · intro properties c _
    simp [CharSet.contains, covered]
  · intro properties c v _ _ outside held
    have none : covered [(first.char, last.char)] v = false :=
      covered_outside (List.forall_mem_singleton.mpr proper) outside
    simp only [CharSet.contains] at held
    simp only [covered, List.any_cons, List.any_nil, Bool.or_false] at none
    rw [held] at none
    cases none

def ShortClass.asciiRanges : ShortClass → List Range
  | .digit => Dialect.digits
  | .space => Dialect.spaces
  | .word => Dialect.wordChars

theorem ShortClass.mem_all (name : ShortClass) : name ∈ [digit, space, word] := by
  cases name <;> decide

theorem contains_short (name : ShortClass) (ascii : isAscii c = true) :
    name.contains true c = covered name.asciiRanges c :=
  Text.forall_ascii (P := fun c => ∀ name ∈ [ShortClass.digit, .space, .word],
    name.contains true c = covered name.asciiRanges c) (by decide) ascii name name.mem_all

theorem covered_word (letter : Text.isAsciiLetter c = true) (ascii : isAscii c = true) :
    covered Dialect.wordChars c = true :=
  Text.forall_ascii (P := fun c => Text.isAsciiLetter c = true → covered Dialect.wordChars c = true)
    (by decide) ascii letter

theorem spells_short (name : ShortClass) : Spells folding (.short name false) name.asciiRanges := by
  refine .of_contains (fun f unicode => by simp [CharSet.usable, unicode]) ?_ ?_
  · intro properties c ascii
    simp only [CharSet.contains, Bool.bne_false]
    exact contains_short name ascii
  · intro properties c v ascii same outside held
    simp only [CharSet.contains, Bool.bne_false] at held
    have letter : Text.isAsciiLetter c = true ∧ (v = Char.ofNat 383 ∨ v = Char.ofNat 8490) := by
      rcases Text.sameLetters_cases ascii same with rfl | rfl | third
      · exact absurd ascii (by simp [outside])
      · exact absurd (Text.isAscii_otherCase ascii) (by simp [outside])
      · exact third
    cases name with
    | digit =>
      obtain ⟨-, rfl | rfl⟩ := letter
      · exact absurd held (by simp [ShortClass.contains, Text.not_digit_outside.1])
      · exact absurd held (by simp [ShortClass.contains, Text.not_digit_outside.2])
    | space =>
      obtain ⟨-, rfl | rfl⟩ := letter
      · exact absurd held (by decide)
      · exact absurd held (by decide)
    | word => exact covered_word letter.1 ascii

theorem reached_short (folding : Bool) (name : ShortClass) (ascii : isAscii c = true) :
    reached folding name.asciiRanges c = covered name.asciiRanges c := by
  have closed : (covered name.asciiRanges c || covered name.asciiRanges (otherCase c)) =
      covered name.asciiRanges c :=
    Text.forall_ascii (P := fun c => ∀ name ∈ [ShortClass.digit, .space, .word],
      (covered name.asciiRanges c || covered name.asciiRanges (otherCase c)) =
        covered name.asciiRanges c) (by decide) ascii name name.mem_all
  cases folding with
  | false => simp [reached]
  | true => rw [reached, Bool.true_and, closed]

/-! Classes in brackets -/

theorem contains_outside (name : AsciiClass) (outside : isAscii c = false) :
    name.contains c = false := by
  have high : ¬ c.toNat < 128 := fun ascii => by simp [(Text.isAscii_iff c).mpr ascii] at outside
  have beyond : ∀ d : Char, d.toNat < 128 → ¬ c ≤ d :=
    fun d low le => high (Nat.lt_of_le_of_lt le low)
  have apart : ∀ d : Char, d.toNat < 128 → c ≠ d := fun d low same => high (same ▸ low)
  have z := beyond 'z' (by decide)
  have upperZ := beyond 'Z' (by decide)
  have nine := beyond '9' (by decide)
  have f := beyond 'f' (by decide)
  have upperF := beyond 'F' (by decide)
  have space := apart ' ' (by decide)
  have tab := apart '\t' (by decide)
  have line := apart '_' (by decide)
  cases name <;>
    simp [AsciiClass.contains, Text.isAsciiAlphanumeric, Text.isAsciiLetter, Text.isAscii,
      Text.isGraphic, Text.isAsciiWord, Text.isDigit, Text.hexValue?, z, upperZ, nine, f, upperF,
      space, tab, line] <;> omega

/-- The classes that the dialect knows by name, and their ranges. -/
def namedClasses : List (AsciiClass × List Range) :=
  [(.alpha, Dialect.letters), (.alnum, Dialect.alphanumerics), (.digit, Dialect.digits),
    (.upper, [('A', 'Z')]), (.lower, [('a', 'z')]), (.space, Dialect.spaces),
    (.word, Dialect.wordChars), (.xdigit, Dialect.hexDigits), (.blank, Dialect.blanks)]

theorem contains_named (ascii : isAscii c = true) :
    ∀ known ∈ namedClasses, known.1.contains c = covered known.2 c :=
  Text.forall_ascii (P := fun c => ∀ known ∈ namedClasses, known.1.contains c = covered known.2 c)
    (by decide) ascii

theorem mem_namedClasses {name : List Char} {known : AsciiClass}
    (read : Reader.asciiClass? name = some known)
    (spelled : Dialect.namedRanges? (String.ofList name) = some ranges) :
    (known, ranges) ∈ namedClasses := by
  unfold Dialect.namedRanges? at spelled
  unfold Reader.asciiClass? at read
  split at spelled
  case h_10 => cases spelled
  all_goals
    rename_i same
    rw [same] at read
    cases spelled
    cases read
    simp [namedClasses]

theorem spells_ascii {name : List Char} {known : AsciiClass}
    (read : Reader.asciiClass? name = some known)
    (spelled : Dialect.namedRanges? (String.ofList name) = some ranges) :
    Spells folding (.ascii known false) ranges := by
  refine .of_contains (fun f _ => rfl) ?_ ?_
  · intro properties c ascii
    simp only [CharSet.contains, Bool.bne_false]
    exact contains_named ascii _ (mem_namedClasses read spelled)
  · intro properties c v _ _ outside held
    simp only [CharSet.contains, Bool.bne_false, contains_outside known outside] at held
    cases held

/-! Many items -/

theorem SpellsAll.nil : SpellsAll folding [] [] where
  covers _ _ _ := by cases folding <;> rfl
  usable _ _ _ none := nomatch none

theorem SpellsAll.add (all : SpellsAll folding items ranges) (one : Spells folding item more) :
    SpellsAll folding (item :: items) (ranges ++ more) where
  covers properties c ascii := by
    rw [List.any_cons, one.covers properties c ascii, all.covers properties c ascii,
      reached_append, Bool.or_comm]
  usable f unicode := List.forall_mem_cons.mpr ⟨one.usable f unicode, all.usable f unicode⟩

theorem itemsContain_eq (properties : Property → Char → Bool) (a : Alphabet)
    (items : List CharSet) (c : Char) : CharSet.itemsContain properties a items c =
      items.any fun item => item.contains properties a c := by
  induction items with
  | nil => rfl
  | cons item items ih => rw [CharSet.itemsContain, List.any_cons, ih]

theorem itemsUsable_eq (f : Flags) (items : List CharSet) :
    CharSet.itemsUsable f items = items.all fun item => item.usable f := by
  induction items with
  | nil => rfl
  | cons item items ih => rw [CharSet.itemsUsable, List.all_cons, ih]

theorem contains_ofItems (properties : Property → Char → Bool) (a : Alphabet)
    (items : List CharSet) (c : Char) : (CharSet.ofItems items).contains properties a c =
      items.any fun item => item.contains properties a c := by
  match items with
  | [] => rfl
  | [item] => simp [CharSet.ofItems]
  | first :: second :: rest => exact itemsContain_eq properties a _ c

theorem usable_ofItems {f : Flags} {items : List CharSet}
    (each : ∀ item ∈ items, item.usable f = true) : (CharSet.ofItems items).usable f = true := by
  match items with
  | [] => rfl
  | [item] => exact each item (List.mem_singleton_self _)
  | first :: second :: rest =>
    change CharSet.itemsUsable f (first :: second :: rest) = true
    rw [itemsUsable_eq, List.all_eq_true]
    exact each

theorem SpellsAll.ofItems (all : SpellsAll folding items ranges) :
    Spells folding (CharSet.ofItems items.reverse) ranges where
  covers properties c ascii := by
    have swapped := any_any_comm ((Alphabet.mk true folding).variants c) items.reverse
      fun v item => item.contains properties ⟨true, folding⟩ v
    have each : (CharSet.ofItems items.reverse).contains properties ⟨true, folding⟩ =
        fun v => items.reverse.any fun item => item.contains properties ⟨true, folding⟩ v :=
      funext fun v => contains_ofItems properties _ _ v
    rw [CharSet.holds, each, swapped, List.any_reverse]
    exact all.covers properties c ascii
  usable f unicode :=
    usable_ofItems fun item member => all.usable f unicode item (List.mem_reverse.mp member)

end Catalog.Pattern
