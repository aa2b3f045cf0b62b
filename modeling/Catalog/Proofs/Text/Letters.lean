import Mathlib.Data.List.Basic
import Catalog.Text.Blank
import Catalog.Text.Case

/-!
ASCII characters among all the others. A letter of ASCII has one other form in ASCII, and two
letters have one more form each outside of it: the long s and the sign for kelvin.
-/
namespace Catalog.Text

theorem isAscii_iff (c : Char) : isAscii c = true ↔ c.toNat < 128 := by
  simp [isAscii]

/-- What holds of eight rows of sixteen characters holds of every ASCII character. -/
theorem forall_ascii {P : Char → Prop}
    (each : ∀ row < 8, ∀ column < 16, P (Char.ofNat (16 * row + column))) {c : Char}
    (ascii : isAscii c = true) : P c := by
  have low := (isAscii_iff c).mp ascii
  have here := each (c.toNat / 16) (by omega) (c.toNat % 16) (by omega)
  rwa [Nat.div_add_mod, Char.ofNat_toNat] at here

/-- The other form of an ASCII letter; any other character is its own. -/
def otherCase (c : Char) : Char := if 'a' ≤ c && c ≤ 'z' then asciiUpper c else asciiLower c

theorem isAscii_otherCase {c : Char} (ascii : isAscii c = true) : isAscii (otherCase c) = true :=
  forall_ascii (P := fun c => isAscii (otherCase c) = true) (by decide) ascii

theorem otherCase_otherCase {c : Char} (ascii : isAscii c = true) : otherCase (otherCase c) = c :=
  forall_ascii (P := fun c => otherCase (otherCase c) = c) (by decide) ascii

theorem asciiLower_eq_toLower (c : Char) : asciiLower c = c.toLower := by
  by_cases capital : 'A' ≤ c ∧ c ≤ 'Z'
  · have low : c.toNat < 128 := Nat.lt_of_le_of_lt (show c.toNat ≤ 90 from capital.2) (by decide)
    exact forall_ascii (P := fun c => asciiLower c = c.toLower) (by decide) ((isAscii_iff c).mpr low)
  · have kept : c.toLower = c := dif_neg capital
    rw [asciiLower, if_neg (by simpa using capital), kept]

theorem toLower_of_blank {c : Char} (blank : isBlank c = true) : c.toLower = c := by
  have outside : ¬ (65 ≤ c.toNat ∧ c.toNat ≤ 90) := by
    simp [isBlank] at blank
    omega
  exact dif_neg outside

/-! Tables line by line -/

theorem hexNumbers_cons (cs : List Char) (lines : List String) :
    hexNumbers (String.ofList cs :: lines) = hexNumbersFrom 0 cs ++ hexNumbers lines := by
  simp [hexNumbers, String.toList_ofList]

theorem caseRowsOf_append {numbers more : List Nat} (whole : 4 ∣ numbers.length) :
    caseRowsOf (numbers ++ more) = caseRowsOf numbers ++ caseRowsOf more := by
  match numbers with
  | [] => rfl
  | [_] | [_, _] | [_, _, _] => simp only [List.length_cons, List.length_nil] at whole; omega
  | first :: last :: step :: image :: rest =>
    have shorter : 4 ∣ rest.length := by
      simp only [List.length_cons] at whole
      omega
    simp only [List.cons_append, caseRowsOf, caseRowsOf_append shorter]

theorem boundsOf_append {numbers more : List Nat} (whole : 2 ∣ numbers.length) :
    boundsOf (numbers ++ more) = boundsOf numbers ++ boundsOf more := by
  match numbers with
  | [] => rfl
  | [_] => simp only [List.length_cons, List.length_nil] at whole; omega
  | lo :: hi :: rest =>
    have shorter : 2 ∣ rest.length := by
      simp only [List.length_cons] at whole
      omega
    simp only [List.cons_append, boundsOf, boundsOf_append shorter]

/-- A table spelled out: its characters evaluate, which texts are slow to do. -/
theorem spelled_cons {cs : List Char} {lines : List String} {spelled : List (List Char)}
    (same : lines = spelled.map String.ofList) :
    String.ofList cs :: lines = (cs :: spelled).map String.ofList := by
  rw [List.map_cons, same]

theorem forall_caseRows {P : CaseRow → Prop} {lines : List String} {spelled : List (List Char)}
    (same : lines = spelled.map String.ofList)
    (each : ∀ cs ∈ spelled, 4 ∣ (hexNumbersFrom 0 cs).length ∧
      ∀ row ∈ caseRowsOf (hexNumbersFrom 0 cs), P row) :
    ∀ row ∈ caseRowsOf (hexNumbers lines), P row := by
  subst same
  induction spelled with
  | nil => exact fun _ none => nomatch none
  | cons cs spelled ih =>
    obtain ⟨⟨whole, here⟩, later⟩ := List.forall_mem_cons.mp each
    rw [List.map_cons, hexNumbers_cons, caseRowsOf_append whole]
    exact List.forall_mem_append.mpr ⟨here, ih later⟩

theorem forall_bounds {P : Nat × Nat → Prop} {lines : List String} {spelled : List (List Char)}
    (same : lines = spelled.map String.ofList)
    (each : ∀ cs ∈ spelled, 2 ∣ (hexNumbersFrom 0 cs).length ∧
      ∀ b ∈ boundsOf (hexNumbersFrom 0 cs), P b) :
    ∀ b ∈ boundsOf (hexNumbers lines), P b := by
  subst same
  induction spelled with
  | nil => exact fun _ none => nomatch none
  | cons cs spelled ih =>
    obtain ⟨⟨whole, here⟩, later⟩ := List.forall_mem_cons.mp each
    rw [List.map_cons, hexNumbers_cons, boundsOf_append whole]
    exact List.forall_mem_append.mpr ⟨here, ih later⟩

/-! Letters that count as one -/

/-- Capital letters, the long s and the sign for kelvin. -/
def asciiRows : List CaseRow := [⟨65, 90, 1, 97⟩, ⟨383, 383, 1, 115⟩, ⟨8490, 8490, 1, 107⟩]

deriving instance DecidableEq for CaseRow

/-- The only rows that lead into ASCII. -/
theorem asciiRows_of_image {row : CaseRow} (member : row ∈ foldRows) (ascii : row.image < 128) :
    row ∈ asciiRows := by
  have each : ∀ row ∈ foldRows, row.image < 128 → row ∈ asciiRows := by
    unfold foldRows Table.foldRows
    apply forall_caseRows
    · repeat apply spelled_cons
      exact List.map_nil.symm
    · decide +kernel
  exact each row member ascii

theorem capitals_mem : ⟨65, 90, 1, 97⟩ ∈ foldRows := by
  unfold foldRows Table.foldRows
  rw [hexNumbers_cons, caseRowsOf_append (by decide)]
  exact List.mem_append_left _ (by decide +kernel)

theorem foldChar_ascii {c : Char} (ascii : isAscii c = true) : foldChar c = asciiLower c := by
  rw [foldChar, if_pos ascii]

theorem image_le_of_source? {row : CaseRow} {image n : Nat} (moved : row.source? image = some n) :
    row.image ≤ image := by
  unfold CaseRow.source? at moved
  split at moved
  · rename_i fits
    simp only [Bool.and_eq_true, decide_eq_true_eq] at fits
    exact fits.1.1
  · cases moved

/-- The letters that count as an ASCII character, by the rows that lead into ASCII. -/
def formsOf (c : Char) : List Char :=
  asciiLower c :: asciiRows.filterMap fun row =>
    (row.source? (asciiLower c).toNat).map Char.ofNat

theorem mem_sameLetters {c v : Char} (ascii : isAscii c = true) (same : v ∈ sameLetters c) :
    v ∈ formsOf c := by
  rw [sameLetters, foldChar_ascii ascii] at same
  rcases List.mem_cons.mp same with rfl | moved
  · exact List.mem_cons_self
  · obtain ⟨row, member, held⟩ := List.mem_filterMap.mp moved
    obtain ⟨n, source, -⟩ := Option.map_eq_some_iff.mp held
    have low : (asciiLower c).toNat < 128 :=
      forall_ascii (P := fun c => (asciiLower c).toNat < 128) (by decide) ascii
    have known := asciiRows_of_image member (Nat.lt_of_le_of_lt (image_le_of_source? source) low)
    exact List.mem_cons_of_mem _ (List.mem_filterMap.mpr ⟨row, known, held⟩)

/-- A letter that counts as an ASCII character is one of its two forms, or the one letter has a
third form outside. -/
theorem sameLetters_cases {c v : Char} (ascii : isAscii c = true) (same : v ∈ sameLetters c) :
    v = c ∨ v = otherCase c ∨
      isAsciiLetter c = true ∧ (v = Char.ofNat 383 ∨ v = Char.ofNat 8490) := by
  have each : ((formsOf c).all fun v => v = c ∨ v = otherCase c ∨
      isAsciiLetter c = true ∧ (v = Char.ofNat 383 ∨ v = Char.ofNat 8490)) = true :=
    forall_ascii (P := fun c => ((formsOf c).all fun v => v = c ∨ v = otherCase c ∨
      isAsciiLetter c = true ∧ (v = Char.ofNat 383 ∨ v = Char.ofNat 8490)) = true)
      (by decide) ascii
  exact of_decide_eq_true (List.all_eq_true.mp each v (mem_sameLetters ascii same))

theorem otherCase_mem {c : Char} (ascii : isAscii c = true) : otherCase c ∈ sameLetters c := by
  have each : otherCase c ∈ asciiLower c :: [(⟨65, 90, 1, 97⟩ : CaseRow)].filterMap fun row =>
      (row.source? (asciiLower c).toNat).map Char.ofNat :=
    forall_ascii (P := fun c => otherCase c ∈ asciiLower c ::
      [(⟨65, 90, 1, 97⟩ : CaseRow)].filterMap fun row =>
        (row.source? (asciiLower c).toNat).map Char.ofNat) (by decide) ascii
  rw [sameLetters, foldChar_ascii ascii]
  rcases List.mem_cons.mp each with same | moved
  · rw [same]
    exact List.mem_cons_self
  · obtain ⟨row, member, held⟩ := List.mem_filterMap.mp moved
    rw [List.mem_singleton.mp member] at held
    exact List.mem_cons_of_mem _ (List.mem_filterMap.mpr ⟨_, capitals_mem, held⟩)

/-! The two forms outside -/

theorem not_digit_outside : isDecimalDigit (Char.ofNat 383) = false ∧
    isDecimalDigit (Char.ofNat 8490) = false := by
  have each : ∀ b ∈ decimalDigitBounds,
      ¬ (b.1 ≤ 383 ∧ 383 ≤ b.2) ∧ ¬ (b.1 ≤ 8490 ∧ 8490 ≤ b.2) := by
    unfold decimalDigitBounds Table.decimalDigit
    apply forall_bounds
    · repeat apply spelled_cons
      exact List.map_nil.symm
    · decide +kernel
  constructor
  · rw [isDecimalDigit, if_neg (by decide), inBounds, List.any_eq_false]
    intro b member
    simpa using (each b member).1
  · rw [isDecimalDigit, if_neg (by decide), inBounds, List.any_eq_false]
    intro b member
    simpa using (each b member).2

end Catalog.Text
