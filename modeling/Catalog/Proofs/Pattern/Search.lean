import Catalog.Proofs.Pattern.Rows
import Catalog.Proofs.Pattern.Ranges

/-!
The search for a text. Its characters are escaped, cut into pieces again, spelled out in every case
form and written down for the matcher; none of this changes what they are. Main statement: unless
a machine for it is too large, there is a pattern for every needle, and it matches a text just
if the characters of the needle follow one another somewhere in it, each in one of its case forms.
-/
namespace Catalog.Pattern

open Reader (StandsFor)

variable {c d : Char} {cs rest more : List Char}

/-! Case forms -/

/-- The character is a case form of the other: itself, its lower or its upper case. -/
def IsForm (c d : Char) : Prop := d = c ∨ d = Text.lowerChar c ∨ d = Text.upperChar c

theorem mem_caseVariants : d ∈ caseVariants c ↔ IsForm c d := by
  unfold caseVariants IsForm
  -- which forms the tables give plays no part, only that none is listed twice
  generalize Text.lowerChar c = lower
  generalize Text.upperChar c = upper
  have lowered : ∀ e, e ∈ (if lower == c then [c] else [c, lower]) ↔ e = c ∨ e = lower := by
    intro e
    split <;> simp_all
  dsimp only
  generalize (if lower == c then [c] else [c, lower]) = forms at lowered ⊢
  split
  · rename_i seen
    have known := (lowered upper).mp (List.contains_iff_mem.mp seen)
    rw [lowered, ← or_assoc]
    exact (or_iff_left_of_imp fun same => same ▸ known).symm
  · rw [List.mem_append, lowered, List.mem_singleton, or_assoc]

theorem caseVariants_single (single : ((caseVariants c).length == 1) = true) :
    caseVariants c = [c] := by
  obtain ⟨d, same⟩ := List.length_eq_one_iff.mp (eq_of_beq single)
  have own : c ∈ caseVariants c := mem_caseVariants.mpr (.inl rfl)
  rw [same, List.mem_singleton] at own
  rw [same, own]

/-! The needle as a source -/

theorem escapeText_eq (cs : List Char) : escapeText cs = cs.flatMap fun c => escapeText [c] := by
  simp [escapeText]

theorem standsFor_escaped (c : Char) : StandsFor (escapeText [c]) (.literal ⟨c, false⟩) := by
  cases special : Reader.isMeta c with
  | false => simpa [escapeText, special] using Reader.standsFor_ordinary special
  | true =>
    have escaped : escapeText [c] = ['\\', c] := by simp [escapeText, special]
    have named : ∀ more, Reader.escape? false ([c] ++ more) = some (.char c, more) :=
      Reader.escape?_meta false special
    rw [escaped]
    exact Reader.standsFor_escape named

theorem Dialect.escape_meta (special : Reader.isMeta c = true) :
    escape (c :: more) = .ok (.char c, more) := by
  unfold escape
  split
  case h_1 same => cases same
  case h_2 same =>
    cases same
    split
    case h_21 =>
      have plain : Text.isAsciiAlphanumeric c = false := by
        have all : "\\.+*?()|[]\x7b\x7d^$#&-~".toList.all
            (fun c => !Text.isAsciiAlphanumeric c) = true := by decide
        simpa using List.all_eq_true.mp all c (List.contains_iff_mem.mp special)
      simp [plain]
    all_goals exact absurd special (by decide)

theorem Dialect.piece_ordinary (ordinary : Reader.isMeta c = false) :
    piece false c more = .ok (.literal c, more) := by
  unfold piece mark?
  split
  case h_6 =>
    split
    · rename_i found
      split at found
      case h_8 => cases found
      all_goals exact absurd ordinary (by decide)
    · rfl
  all_goals exact absurd ordinary (by decide)

/-- What was escaped is cut into the characters that it was escaped from. -/
theorem Dialect.piecesFrom_escaped {fuel : Nat} (enough : (escapeText cs).length < fuel) :
    piecesFrom false fuel (escapeText cs) = .ok (cs.map .literal) := by
  induction cs generalizing fuel with
  | nil =>
    obtain ⟨fuel, rfl⟩ := Nat.exists_eq_add_of_lt enough
    rfl
  | cons c cs ih =>
    obtain ⟨fuel, rfl⟩ := Nat.exists_eq_succ_of_ne_zero (Nat.ne_of_gt (Nat.zero_lt_of_lt enough))
    have cut : ∃ d rest, escapeText (c :: cs) = d :: rest ∧
        piece false d rest = .ok (.literal c, escapeText cs) := by
      cases special : Reader.isMeta c with
      | false => exact ⟨c, escapeText cs, by simp [escapeText, special], piece_ordinary special⟩
      | true =>
        refine ⟨'\\', c :: escapeText cs, by simp [escapeText, special], ?_⟩
        simp [piece, escape_meta special, bind, Except.bind]
    have shorter : (escapeText cs).length < (escapeText (c :: cs)).length := by
      simp only [escapeText, List.flatMap_cons, List.length_append]
      split <;> simp
    obtain ⟨d, rest, written, here⟩ := cut
    have later := ih (show (escapeText cs).length < fuel by omega)
    rw [written, piecesFrom]
    simp [skipSpace, here, later, bind, Except.bind]

theorem pieces_escaped (cs : List Char) : pieces false (escapeText cs) = .ok (cs.map .literal) :=
  Dialect.piecesFrom_escaped (Nat.lt_succ_self _)

/-! The needle as pieces -/

/-- The set of a character's case forms. -/
def formSet (c : Char) : CharSet := Reader.rangeSet ((caseVariants c).map fun v => (v, v))

/-- A character with letter case spelled out, and what that is read as. -/
def spelledOut (c : Char) : Piece :=
  if (caseVariants c).length == 1 then .literal c
  else .set false ((caseVariants c).map fun v => (v, v))

def spelledPart (c : Char) : Expression :=
  if (caseVariants c).length == 1 then .literal ⟨c, false⟩ else .bracketed false (formSet c)

theorem foldCase_literals (cs : List Char) :
    foldCase (cs.map .literal) = .ok (cs.map spelledOut) := by
  refine mapM_eq_ok.mpr (List.forall₂_map_left_iff.mpr (List.forall₂_map_right_iff.mpr
    (List.forall₂_same.mpr fun c _ => ?_)))
  simp only [Piece.fold, spelledOut]
  split <;> rfl

theorem standsFor_spelledOut (c : Char) :
    StandsFor ((spelledOut c).engineChars false) (spelledPart c) := by
  unfold spelledOut spelledPart
  split
  · exact Reader.standsFor_literal c
  · refine Reader.standsFor_set ?_ ?_ false
    · have own : c ∈ caseVariants c := mem_caseVariants.mpr (.inl rfl)
      simpa using List.ne_nil_of_mem own
    · exact List.forall_mem_map.mpr fun v _ => Nat.le_refl _

/-! Tests -/

/-- The test for a character in any letter case, as an escaped needle is compiled. -/
def anyCase (c : Char) : CharTest := .member ⟨true, true⟩ false (.literal ⟨c, false⟩)

/-- The test for a character's case forms, as the pieces are compiled. -/
def anyForm (c : Char) : CharTest := .member ⟨true, false⟩ false (formSet c)

theorem contains_formSet (properties : Property → Char → Bool) (a : Alphabet) :
    (formSet c).contains properties a d = true ↔ IsForm c d := by
  rw [formSet, Reader.rangeSet, contains_ofItems, List.any_eq_true, ← mem_caseVariants]
  simp [Reader.rangeItem, CharSet.contains]

theorem passes_anyForm (properties : Property → Char → Bool) :
    (anyForm c).passes properties d = true ↔ IsForm c d := by
  rw [← contains_formSet properties ⟨true, false⟩]
  simp [anyForm, CharTest.passes, CharSet.contains, Alphabet.variants]

theorem resolve?_spelledPart (c : Char) :
    (spelledPart c).resolve? {} = some (.char (anyForm c), {}) := by
  unfold spelledPart anyForm
  split
  · rename_i single
    have own : formSet c = .literal ⟨c, false⟩ := by
      simp [formSet, caseVariants_single single, Reader.rangeSet, Reader.rangeItem, CharSet.ofItems]
    rw [own]
    exact resolve?_literal rfl
  · have usable : (formSet c).usable {} = true := by
      refine usable_ofItems (List.forall_mem_map.mpr (List.forall_mem_map.mpr fun v _ => ?_))
      simp [Reader.rangeItem, CharSet.usable]
    refine resolve?_bracketed (if_pos ?_)
    rw [CharSet.usable, usable]
    rfl

theorem Reader.depth_rangeSet_le (ranges : List Range) : (rangeSet ranges).depth ≤ 1 := by
  have flat : ∀ r, (rangeItem r).depth = 0 := by
    intro r
    unfold rangeItem
    split <;> rfl
  have items : ∀ ranges : List Range, CharSet.itemsDepth (ranges.map rangeItem) = 0 := by
    intro ranges
    induction ranges with
    | nil => rfl
    | cons r ranges ih => rw [List.map_cons, CharSet.itemsDepth, flat, ih, Nat.max_self]
  match ranges with
  | [] => exact Nat.zero_le 1
  | [r] => exact Nat.le_trans (Nat.le_of_eq (flat r)) (Nat.zero_le 1)
  | r :: s :: ranges => exact Nat.le_of_eq (congrArg Nat.succ (items (r :: s :: ranges)))

theorem depth_spelledPart (c : Char) : (spelledPart c).depth ≤ 2 := by
  unfold spelledPart
  split
  · exact Nat.zero_le 2
  · exact Nat.succ_le_succ (Reader.depth_rangeSet_le _)

/-! The search -/

/-- The source of the pattern for a needle. -/
def searchSource (needle : String) : String := String.ofList (escapeText needle.toList)

/-- The options of such a pattern: letter case does not count. -/
def searchOptions : Options := { caseInsensitive := true }

variable [SizeLimit]

/-- Neither machine for a needle is too large: the one for its source, where letter case does not
count, and the one for its pieces, where it is spelled out. -/
def Admitted (needle : List Char) : Prop :=
  SizeLimit.admits false searchOptions.flags (escapeText needle) = true ∧
    SizeLimit.admits false {} (engineSource false (needle.map spelledOut)) = true

instance (needle : List Char) : Decidable (Admitted needle) := inferInstanceAs (Decidable (_ ∧ _))

theorem compile_escaped (cs : List Char) :
    compile searchOptions.extended searchOptions.flags (escapeText cs) =
      if SizeLimit.admits false searchOptions.flags (escapeText cs) then
        .ok (.row (cs.map anyCase))
      else .error .tooLarge := by
  rw [escapeText_eq]
  exact compile_row (fun c _ => standsFor_escaped c) (fun _ _ => Nat.zero_lt_succ 249)
    fun _ _ => rfl

theorem compile_spelledOut (cs : List Char) :
    compile false { multiLine := searchOptions.multiLine }
        (engineSource searchOptions.dotAll (cs.map spelledOut)) =
      if SizeLimit.admits false {} (engineSource false (cs.map spelledOut)) then
        .ok (.row (cs.map anyForm))
      else .error .tooLarge := by
  rw [show searchOptions.dotAll = false from rfl, engineSource, List.flatMap_map]
  exact compile_row (fun c _ => standsFor_spelledOut c)
    (fun c _ => Nat.lt_of_le_of_lt (depth_spelledPart c) (by decide))
    fun c _ => resolve?_spelledPart c

theorem containing_eq (needle : String) : containing needle =
    if Admitted needle.toList then
      .ok ⟨searchSource needle, defaultOptions, .row (needle.toList.map anyForm),
        String.ofList (areSource false false (needle.toList.map spelledOut))⟩
    else .error (.notRegular (searchSource needle) .tooLarge) := by
  have letters : Options.read {} defaultOptions.toList = .ok searchOptions := rfl
  have source : (searchSource needle).toList = escapeText needle.toList := String.toList_ofList
  have written : portable searchOptions (escapeText needle.toList) =
      .ok (needle.toList.map spelledOut) := by
    rw [portable, show searchOptions.extended = false from rfl, pieces_escaped]
    exact foldCase_literals _
  change make (searchSource needle) defaultOptions = _
  rw [make, letters]
  simp only [bind, Except.bind, source, compile_escaped, written, compile_spelledOut, Admitted]
  by_cases own : SizeLimit.admits false searchOptions.flags (escapeText needle.toList) = true
  · by_cases rendered : SizeLimit.admits false {}
      (engineSource false (needle.toList.map spelledOut)) = true
    · simp only [own, rendered, if_true, and_self]
      rfl
    · simp [own, rendered]
  · simp [own]

/-- A needle that the limit admits has a pattern, which matches a text just if from some position on
every character of the needle is met by one of its case forms. One that it does not admit is refused
for its size. -/
theorem containing_searches (needle : String) :
    (Admitted needle.toList → ∃ p, containing needle = .ok p ∧ ∀ text, p.isMatch text = true ↔
      ∃ start ≤ text.toList.length, MetFrom IsForm needle.toList text.toList start) ∧
    (¬ Admitted needle.toList →
      containing needle = .error (.notRegular (searchSource needle) .tooLarge)) := by
  rw [containing_eq]
  refine ⟨fun admitted => ?_, fun large => if_neg large⟩
  rw [if_pos admitted]
  exact ⟨_, rfl, fun text => matchesIn_row fun c _ d => passes_anyForm _⟩

end Catalog.Pattern
