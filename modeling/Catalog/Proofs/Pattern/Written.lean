import Catalog.Pattern.Rendering
import Catalog.Proofs.Pattern.Classes
import Catalog.Proofs.Text.Blanks
import Catalog.Proofs.Text.Digits

/-!
Reading what was written down. Each piece, written for the in-process matcher, is read as the one
part that it stands for, whatever follows it. Quantifiers and groups also look at what follows.
-/
namespace Catalog.Pattern

open Text (isAscii isDigit)

namespace Reader

/-- The expression that a text completes; as many steps as needed may be taken. -/
def Reads (p : Progress) (cs : List Char) (e : Expression) : Prop := ∃ fuel, run? fuel p cs = some e

variable {p q : Progress} {c : Char} {cs more rest tail : List Char} {e : Expression}
  {r : Range} {ranges : List Range}

theorem run?_mono {fuel enough : Nat} (read : run? fuel p cs = some e) (le : fuel ≤ enough) :
    run? enough p cs = some e := by
  induction fuel generalizing p cs enough with
  | zero => cases read
  | succ fuel ih =>
    obtain ⟨more, rfl⟩ := Nat.exists_eq_add_of_le' (Nat.zero_lt_of_lt le)
    unfold run? at read ⊢
    split
    · rename_i empty
      simpa only [empty] using read
    · rename_i c rest held
      simp only [held] at read
      obtain ⟨⟨q, tail⟩, step, read⟩ := Option.bind_eq_some_iff.mp read
      exact Option.bind_eq_some_iff.mpr ⟨_, step, ih read (Nat.le_of_succ_le_succ le)⟩

theorem Reads.unique {d : Expression} (first : Reads p cs e) (second : Reads p cs d) : e = d := by
  obtain ⟨n, first⟩ := first
  obtain ⟨m, second⟩ := second
  have early := run?_mono first (Nat.le_max_left n m)
  have late := run?_mono second (Nat.le_max_right n m)
  exact Option.some.inj (early.symm.trans late)

theorem reads_nil (plain : p.extended = false) : Reads p [] e ↔ p.outer = [] ∧ e = p.body := by
  have once : ∀ fuel, run? (fuel + 1) p [] = if p.outer.isEmpty then some p.body else none :=
    fun fuel => by simp [run?, skipSpace, plain]
  constructor
  · rintro ⟨_ | fuel, read⟩
    · cases read
    · rw [once] at read
      split at read
      · rename_i closed
        cases read
        exact ⟨List.isEmpty_iff.mp closed, rfl⟩
      · cases read
  · rintro ⟨closed, rfl⟩
    exact ⟨1, (once 0).trans (if_pos (List.isEmpty_iff.mpr closed))⟩

/-- What completes the one text completes the other. -/
def Leads (p : Progress) (cs : List Char) (q : Progress) (tail : List Char) : Prop :=
  ∀ e, Reads p cs e ↔ Reads q tail e

theorem reads_cons (plain : p.extended = false) : Reads p (c :: rest) e ↔
    ∃ q tail, step? p c rest = some (q, tail) ∧ Reads q tail e := by
  constructor
  · rintro ⟨_ | fuel, read⟩
    · cases read
    · simp only [run?, skipSpace, plain, Bool.false_eq_true, if_false, Option.bind_eq_bind,
        Option.bind_eq_some_iff] at read
      obtain ⟨⟨q, tail⟩, step, read⟩ := read
      exact ⟨q, tail, step, fuel, read⟩
  · rintro ⟨q, tail, step, fuel, read⟩
    refine ⟨fuel + 1, ?_⟩
    simp [run?, skipSpace, plain, step, read]

theorem leads_step (plain : p.extended = false) (step : step? p c rest = some (q, tail)) :
    Leads p (c :: rest) q tail := by
  intro e
  rw [reads_cons plain, step]
  constructor
  · rintro ⟨_, _, same, reads⟩
    cases same
    exact reads
  · exact fun reads => ⟨q, tail, rfl, reads⟩

theorem reads_step (plain : p.extended = false) (step : step? p c rest = some (q, tail))
    (reads : Reads q tail e) : Reads p (c :: rest) e :=
  (leads_step plain step e).mpr reads

theorem step?_escape {primitive : Primitive} (plain : p.extended = false)
    (named : escape? false rest = some (primitive, more)) :
    step? p '\\' rest = some (p.add primitive.toExpression, more) := by
  change (escape? p.extended rest).bind _ = _
  rw [plain, named]
  rfl

theorem leads_escape {primitive : Primitive} (plain : p.extended = false)
    (named : escape? false rest = some (primitive, more)) :
    Leads p ('\\' :: rest) (p.add primitive.toExpression) more :=
  leads_step plain (step?_escape plain named)

/-- Whatever follows it, the text is read as the part, in one step. -/
def StandsFor (text : List Char) (part : Expression) : Prop :=
  ∀ (p : Progress) (more : List Char), p.extended = false →
    ∃ c rest, text ++ more = c :: rest ∧ step? p c rest = some (p.add part, more)

theorem StandsFor.leads {text : List Char} {part : Expression} (stands : StandsFor text part)
    (plain : p.extended = false) (more : List Char) :
    Leads p (text ++ more) (p.add part) more := by
  obtain ⟨c, rest, written, step⟩ := stands p more plain
  rw [written]
  exact leads_step plain step

theorem standsFor_escape {primitive : Primitive}
    (named : ∀ more, escape? false (cs ++ more) = some (primitive, more)) :
    StandsFor ('\\' :: cs) primitive.toExpression :=
  fun _ more plain => ⟨_, _, rfl, step?_escape plain (named more)⟩

theorem standsFor_ordinary (ordinary : isMeta c = false) : StandsFor [c] (.literal ⟨c, false⟩) := by
  intro p more _
  refine ⟨c, more, rfl, ?_⟩
  unfold step?
  split
  all_goals first
    | exact absurd ordinary (by decide)
    | rfl

/-! Characters -/

theorem escape?_meta (extended : Bool) (special : isMeta c = true) (more : List Char) :
    escape? extended (c :: more) = some (.char c, more) := by
  unfold escape?
  split
  case h_1 same => cases same
  case h_2 same =>
    cases same
    split
    all_goals first
      | exact absurd special (by decide)
      | simp only [special, Bool.true_or, if_true]

theorem hexDigits?_own {digits : List Char} (hex : ∀ d ∈ digits, isHex d = true)
    (more : List Char) : hexDigits? false digits.length (digits ++ more) = some (digits, more) := by
  induction digits with
  | nil => rfl
  | cons d digits ih =>
    obtain ⟨here, rest⟩ := List.forall_mem_cons.mp hex
    simp [hexDigits?, here, skipSpace, ih rest]

/-- The digits of a number in base sixteen, padded with zeros. -/
def codeDigits (width n : Nat) : List Char :=
  let digits := (Nat.toDigits 16 n).map Text.asciiUpper
  List.replicate (width - digits.length) '0' ++ digits

theorem codeEscape_eq (c : Char) : codeEscape c =
    if c.toNat ≤ 0xFFFF then '\\' :: 'u' :: codeDigits 4 c.toNat
    else '\\' :: 'U' :: codeDigits 8 c.toNat := rfl

theorem codeDigits_hex (width n : Nat) : ∀ d ∈ codeDigits width n, isHex d = true := by
  have table : ∀ a : Fin 16, isHex (Text.asciiUpper (Nat.digitChar a)) = true := by decide
  intro d member
  rcases List.mem_append.mp member with zero | digit
  · rw [(List.mem_replicate.mp zero).2]
    decide
  · obtain ⟨c, lower, rfl⟩ := List.mem_map.mp digit
    obtain ⟨a, rfl⟩ := Text.digitChar_of_mem_toDigits lower
    exact table a

theorem length_codeDigits {width n : Nat} (positive : 0 < width) (fits : n < 16 ^ width) :
    (codeDigits width n).length = width := by
  have short := (Nat.length_toDigits_le_iff (by decide) positive).mpr fits
  simp only [codeDigits, List.length_append, List.length_replicate, List.length_map]
  omega

theorem hexNumber_append (ds : List Char) (d : Char) :
    hexNumber (ds ++ [d]) = hexNumber ds * 16 + (Text.hexValue? d).getD 0 := by
  simp [hexNumber]

theorem hexNumber_upper (n : Nat) : hexNumber ((Nat.toDigits 16 n).map Text.asciiUpper) = n := by
  have table : ∀ a : Fin 16, (Text.hexValue? (Text.asciiUpper (Nat.digitChar a))).getD 0 = a := by
    decide +kernel
  induction n using Nat.strongRecOn with
  | ind n ih =>
    rcases Nat.lt_or_ge n 16 with small | large
    · rw [Nat.toDigits_of_lt_base small]
      exact (Nat.zero_add _).trans (table ⟨n, small⟩)
    · rw [Nat.toDigits_of_base_le (by decide) large, List.map_append, List.map_singleton,
        hexNumber_append, ih (n / 16) (by omega), table ⟨n % 16, Nat.mod_lt n (by decide)⟩]
      exact Nat.div_add_mod' n 16

theorem hexNumber_zeros (k : Nat) (ds : List Char) :
    hexNumber (List.replicate k '0' ++ ds) = hexNumber ds := by
  induction k with
  | zero => rfl
  | succ k ih =>
    have zero : 0 * 16 + (Text.hexValue? '0').getD 0 = 0 := by decide +kernel
    rw [List.replicate_succ, List.cons_append, hexNumber, List.foldl_cons, zero]
    exact ih

theorem hexNumber_codeDigits (width n : Nat) : hexNumber (codeDigits width n) = n := by
  rw [codeDigits, hexNumber_zeros, hexNumber_upper]

theorem charOf?_own (c : Char) : charOf? c.toNat = some c := by
  have valid := c.valid
  unfold charOf?
  rw [if_pos, Char.ofNat_toNat]
  simp only [Bool.or_eq_true, Bool.and_eq_true, decide_eq_true_eq]
  have : c.toNat = c.val.toNat := rfl
  rcases valid with low | high
  · exact .inl low
  · obtain ⟨above, below⟩ := high
    exact .inr ⟨by omega, below⟩

theorem charCode?_own {width : Nat} (positive : 0 < width) (fits : c.toNat < 16 ^ width)
    (more : List Char) : charCode? false width (codeDigits width c.toNat ++ more) =
      some (⟨c, width == 2⟩, more) := by
  have read := hexDigits?_own (codeDigits_hex width c.toNat) more
  rw [length_codeDigits positive fits] at read
  have code : charOf? (hexNumber (codeDigits width c.toNat)) = some c := by
    rw [hexNumber_codeDigits, charOf?_own]
  have hex := codeDigits_hex width c.toNat
  obtain ⟨d, ds, held⟩ := List.exists_cons_of_length_pos
    (Nat.lt_of_lt_of_eq positive (length_codeDigits positive fits).symm)
  rw [held] at read code hex ⊢
  have solid : d ≠ '\x7b' := by
    rintro rfl
    exact absurd (hex _ List.mem_cons_self) (by decide)
  simp only [List.cons_append] at read ⊢
  simp [charCode?, skipSpace, solid, read, code]

theorem code_lt (c : Char) : c.toNat < 16 ^ 8 := by
  rcases c.valid with low | ⟨-, high⟩
  · exact Nat.lt_trans low (by decide)
  · exact Nat.lt_trans high (by decide)

/-- What is neither a graphic character nor a blank is written by its code. -/
theorem codeEscape_read (c : Char) : ∃ cs, codeEscape c = '\\' :: cs ∧
    ∀ more, escape? false (cs ++ more) = some (.char c, more) := by
  rw [codeEscape_eq]
  split
  · rename_i small
    refine ⟨_, rfl, fun more => ?_⟩
    change (charCode? false 4 (codeDigits 4 c.toNat ++ more)).map _ = _
    rw [charCode?_own (by decide) (Nat.lt_succ_of_le small)]
    rfl
  · refine ⟨_, rfl, fun more => ?_⟩
    change (charCode? false 8 (codeDigits 8 c.toNat ++ more)).map _ = _
    rw [charCode?_own (by decide) (code_lt c)]
    rfl

theorem ascii_of_isMeta (special : isMeta c = true) : isAscii c = true := by
  have all : "\\.+*?()|[]\x7b\x7d^$#&-~".toList.all isAscii = true := by decide
  exact List.all_eq_true.mp all c (List.contains_iff_mem.mp special)

theorem engineChar_cases (c : Char) : (isMeta c = false ∧ engineChar c = [c]) ∨
    ∃ cs, engineChar c = '\\' :: cs ∧
      ∀ more, escape? false (cs ++ more) = some (.char c, more) := by
  unfold engineChar
  split
  · cases special : isMeta c with
    | false => exact .inl ⟨rfl, by simp [escapeText, special]⟩
    | true => exact .inr ⟨[c], by simp [escapeText, special], escape?_meta false special⟩
  · split
    · rename_i plain
      refine .inl ⟨Bool.eq_false_iff.mpr fun special => ?_, rfl⟩
      simp [isPlain, ascii_of_isMeta special] at plain
    · exact .inr (codeEscape_read c)

theorem standsFor_literal (c : Char) : StandsFor (engineChar c) (.literal ⟨c, false⟩) := by
  rcases engineChar_cases c with ⟨ordinary, written⟩ | ⟨cs, written, read⟩
  · rw [written]
    exact standsFor_ordinary ordinary
  · rw [written]
    exact standsFor_escape read

theorem leads_literal (plain : p.extended = false) (c : Char) (more : List Char) :
    Leads p (engineChar c ++ more) (p.add (.literal ⟨c, false⟩)) more :=
  (standsFor_literal c).leads plain more

/-! Sets -/

/-- The first character of a member that was written down. -/
def Tame (c : Char) : Prop := c = '\\' ∨ isMeta c = false

theorem engineChar_head (c : Char) : ∃ d cs, engineChar c = d :: cs ∧ Tame d := by
  rcases engineChar_cases c with ⟨ordinary, written⟩ | ⟨cs, written, -⟩
  · exact ⟨c, [], written, .inr ordinary⟩
  · exact ⟨_, cs, written, .inl rfl⟩

theorem setItem?_own (c : Char) (more : List Char) :
    setItem? false (engineChar c ++ more) = some (.char c, more) := by
  rcases engineChar_cases c with ⟨ordinary, written⟩ | ⟨cs, written, read⟩
  · rw [written]
    unfold setItem?
    split
    case h_1 same => cases same
    case h_2 same =>
      cases same
      exact absurd ordinary (by decide)
    case h_3 same =>
      cases same
      rfl
  · rw [written]
    exact read more

/-- A member of a set as it is read. -/
def rangeItem (r : Range) : CharSet :=
  if r.1 == r.2 then .literal ⟨r.1, false⟩ else .range ⟨r.1, false⟩ ⟨r.2, false⟩

/-- No hyphen comes next, but something does. -/
def NoHyphen (cs : List Char) : Prop := ∃ d rest, cs = d :: rest ∧ d ≠ '-'

theorem setRange?_own (r : Range) (follows : NoHyphen more) :
    setRange? false (rangeChars engineChar r ++ more) =
      if r.1 ≤ r.2 then some (rangeItem r, more) else none := by
  obtain ⟨d, rest, rfl, free⟩ := follows
  unfold rangeChars rangeItem
  split
  · rename_i single
    have ordered : r.1 ≤ r.2 := Nat.le_of_eq (congrArg Char.toNat (eq_of_beq single))
    rw [if_pos ordered]
    unfold setRange?
    rw [setItem?_own]
    simp only [Option.bind_eq_bind, Option.bind_some, skipSpace, Bool.false_eq_true, if_false]
    split
    case h_1 same => cases same
    case h_2 same =>
      cases same
      exact absurd rfl free
    case h_3 => rfl
  · obtain ⟨h, cs, written, kind⟩ := engineChar_head r.2
    have read := setItem?_own r.2 (d :: rest)
    have single : (some h == some ']' || some h == some '-') = false := by
      rcases kind with rfl | ordinary
      · rfl
      · have apart : h ≠ ']' ∧ h ≠ '-' := by
          constructor <;> rintro rfl <;> exact absurd ordinary (by decide)
        simp [apart]
    unfold setRange?
    rw [List.append_assoc, setItem?_own]
    rw [written, List.cons_append] at read
    simp only [List.cons_append, Option.bind_eq_bind, Option.bind_some, skipSpace, peekSpace,
      Bool.false_eq_true, if_false, written, List.head?_cons, single, read]
    simp [Primitive.char, Primitive.literal?]

theorem setFrom?_member {h : Char} (tame : Tame h) (fuel : Nat) (outer : List OpenSet)
    (s : OpenSet) (cs : List Char) : setFrom? false (fuel + 1) outer s (h :: cs) =
      (setRange? false (h :: cs)).bind fun (item, rest) =>
        setFrom? false fuel outer (s.add item) rest := by
  have apart : h ≠ '[' ∧ h ≠ ']' ∧ h ≠ '&' ∧ h ≠ '-' ∧ h ≠ '~' := by
    rcases tame with rfl | ordinary
    · decide
    · refine ⟨?_, ?_, ?_, ?_, ?_⟩ <;> rintro rfl <;> exact absurd ordinary (by decide)
  obtain ⟨opening, closing, both, minus, either⟩ := apart
  rw [setFrom?]
  simp only [skipSpace, Bool.false_eq_true, if_false]
  split
  case h_1 same => cases same
  case h_2 same => exact absurd (List.cons.inj same).1 opening
  case h_3 same => exact absurd (List.cons.inj same).1 closing
  case h_4 same => exact absurd (List.cons.inj same).1 both
  case h_5 same => exact absurd (List.cons.inj same).1 minus
  case h_6 same => exact absurd (List.cons.inj same).1 either
  case h_7 => rfl

theorem rangeChars_head (r : Range) : ∃ d cs, rangeChars engineChar r = d :: cs ∧ Tame d := by
  obtain ⟨d, cs, written, tame⟩ := engineChar_head r.1
  unfold rangeChars
  split
  · exact ⟨d, cs, written, tame⟩
  · rw [written]
    exact ⟨d, _, rfl, tame⟩

theorem noHyphen_members (ranges : List Range) (more : List Char) :
    NoHyphen (ranges.flatMap (rangeChars engineChar) ++ ']' :: more) := by
  cases ranges with
  | nil => exact ⟨']', more, rfl, by decide⟩
  | cons r ranges =>
    obtain ⟨d, cs, written, tame⟩ := rangeChars_head r
    rw [List.flatMap_cons, written]
    refine ⟨d, _, rfl, ?_⟩
    rintro rfl
    rcases tame with same | ordinary
    · cases same
    · exact absurd ordinary (by decide)

/-- The members of a set, up to the bracket that closes it. -/
theorem setFrom?_own {fuel : Nat} (s : OpenSet) (enough : ranges.length < fuel)
    (more : List Char) :
    setFrom? false fuel [] s (ranges.flatMap (rangeChars engineChar) ++ ']' :: more) =
      if ∀ r ∈ ranges, r.1 ≤ r.2 then
        some (s.negated, { s with items := (ranges.map rangeItem).reverse ++ s.items }.set, more)
      else none := by
  induction ranges generalizing fuel s with
  | nil =>
    obtain ⟨fuel, rfl⟩ := Nat.exists_eq_add_of_lt enough
    simp [setFrom?, skipSpace]
  | cons r ranges ih =>
    obtain ⟨fuel, rfl⟩ := Nat.exists_eq_succ_of_ne_zero (Nat.ne_of_gt (Nat.zero_lt_of_lt enough))
    obtain ⟨d, cs, written, tame⟩ := rangeChars_head r
    have item := setRange?_own r (noHyphen_members ranges more)
    have later := ih (s.add (rangeItem r)) (Nat.lt_of_succ_lt_succ enough)
    rw [written, List.cons_append] at item
    rw [List.flatMap_cons, List.append_assoc, written, List.cons_append, setFrom?_member tame, item]
    simp only [List.forall_mem_cons]
    by_cases ordered : r.1 ≤ r.2
    · rw [if_pos ordered]
      exact later.trans (if_congr (by simp [ordered]) (by simp [OpenSet.add]) rfl)
    · simp [ordered]

theorem openSet?_own (some_range : ranges ≠ []) (negated : Bool) (more : List Char) :
    openSet? false ((if negated then ['^'] else []) ++ ranges.flatMap (rangeChars engineChar) ++
        ']' :: more) =
      some (⟨negated, none, []⟩, ranges.flatMap (rangeChars engineChar) ++ ']' :: more) := by
  obtain ⟨r, ranges, rfl⟩ := List.exists_cons_of_ne_nil some_range
  obtain ⟨d, cs, written, tame⟩ := rangeChars_head r
  have apart : d ≠ '^' ∧ d ≠ '-' ∧ d ≠ ']' := by
    rcases tame with rfl | ordinary
    · decide
    · refine ⟨?_, ?_, ?_⟩ <;> rintro rfl <;> exact absurd ordinary (by decide)
  obtain ⟨negation, hyphen, closing⟩ := apart
  rw [List.flatMap_cons, written]
  cases negated <;>
    simp [openSet?, skipSpace, leadingHyphens, negation, hyphen, closing]

theorem length_le_flatMap (ranges : List Range) :
    ranges.length ≤ (ranges.flatMap (rangeChars engineChar)).length := by
  induction ranges with
  | nil => exact Nat.le_refl _
  | cons r ranges ih =>
    obtain ⟨d, cs, written, -⟩ := rangeChars_head r
    simp only [List.flatMap_cons, written, List.length_append, List.length_cons]
    omega

/-- The set that ranges are read as. -/
def rangeSet (ranges : List Range) : CharSet := CharSet.ofItems (ranges.map rangeItem)

theorem step?_set (plain : p.extended = false) (some_range : ranges ≠ []) (negated : Bool)
    (more : List Char) : ∃ rest, setChars engineChar negated ranges ++ more = '[' :: rest ∧
      step? p '[' rest =
        if ∀ r ∈ ranges, r.1 ≤ r.2 then some (p.add (.bracketed negated (rangeSet ranges)), more)
        else none := by
  refine ⟨(if negated then ['^'] else []) ++ ranges.flatMap (rangeChars engineChar) ++
    ']' :: more, by cases negated <;> simp [setChars], ?_⟩
  have enough : ranges.length <
      (ranges.flatMap (rangeChars engineChar) ++ ']' :: more).length + 1 := by
    have short := length_le_flatMap ranges
    simp only [List.length_append]
    omega
  change (set? p.extended _).bind _ = _
  rw [plain, set?, openSet?_own some_range negated more]
  change (setFrom? false _ [] _ _).bind _ = _
  rw [setFrom?_own ⟨negated, none, []⟩ enough more]
  split
  · simp [OpenSet.set, rangeSet]
  · rfl

theorem standsFor_set (some_range : ranges ≠ []) (ordered : ∀ r ∈ ranges, r.1 ≤ r.2)
    (negated : Bool) :
    StandsFor (setChars engineChar negated ranges) (.bracketed negated (rangeSet ranges)) := by
  intro p more plain
  obtain ⟨rest, written, step⟩ := step?_set plain some_range negated more
  exact ⟨_, rest, written, step.trans (if_pos ordered)⟩

theorem leads_set (plain : p.extended = false) (some_range : ranges ≠ [])
    (ordered : ∀ r ∈ ranges, r.1 ≤ r.2) (negated : Bool) (more : List Char) :
    Leads p (setChars engineChar negated ranges ++ more)
      (p.add (.bracketed negated (rangeSet ranges))) more :=
  (standsFor_set some_range ordered negated).leads plain more

theorem ordered_of_reads (plain : p.extended = false) (some_range : ranges ≠ []) {negated : Bool}
    (reads : Reads p (setChars engineChar negated ranges ++ more) e) :
    ∀ r ∈ ranges, r.1 ≤ r.2 := by
  obtain ⟨rest, written, step⟩ := step?_set plain some_range negated more
  rw [written, reads_cons plain, step] at reads
  obtain ⟨_, _, taken, -⟩ := reads
  by_contra disordered
  rw [if_neg disordered] at taken
  cases taken

theorem spells_rangeItem (proper : Proper r) : Spells false (rangeItem r) [r] := by
  unfold rangeItem
  split
  · rename_i single
    have same : r = (r.1, r.1) := Prod.ext rfl (eq_of_beq single).symm
    rw [same]
    exact spells_literal proper.first_ascii
  · exact spells_range proper

theorem spellsAll_rangeItems {items : List CharSet} {before : List Range}
    (proper : ∀ r ∈ ranges, Proper r) (all : SpellsAll false items before) :
    SpellsAll false ((ranges.map rangeItem).reverse ++ items) (before ++ ranges) := by
  induction ranges generalizing items before with
  | nil => simpa using all
  | cons r ranges ih =>
    obtain ⟨here, rest⟩ := List.forall_mem_cons.mp proper
    have next := ih rest (all.add (spells_rangeItem here))
    simpa using next

theorem spells_rangeSet (proper : ∀ r ∈ ranges, Proper r) :
    Spells false (rangeSet ranges) ranges := by
  simpa [rangeSet] using (spellsAll_rangeItems proper .nil).ofItems

/-! Fixed texts -/

/-- A group of one part, with flags of its own. -/
theorem leads_flagged {flags : List FlagItem} {opening inside : List Char} {inner : Expression}
    (plain : p.extended = false) (kept : flagState? .extended flags = none)
    (opened : ∀ tail, opening? false (opening ++ tail) = some (.group flags none, tail))
    (read : ∀ q tail, q.extended = false →
      Leads q (inside ++ ')' :: tail) (q.add inner) (')' :: tail)) :
    Leads p ('(' :: (opening ++ (inside ++ ')' :: more))) (p.add (.group flags inner)) more := by
  obtain ⟨parts, branches, outer, extended, names⟩ := p
  change extended = false at plain
  subst plain
  have step : step? ⟨parts, branches, outer, false, names⟩ '('
      (opening ++ (inside ++ ')' :: more)) =
        some (⟨[], [], ⟨flags, parts, branches, false⟩ :: outer, false, names⟩,
          inside ++ ')' :: more) := by
    change (opening? false (opening ++ (inside ++ ')' :: more))).bind _ = _
    rw [opened]
    simp [Progress.open?, kept]
  intro e
  rw [leads_step rfl step e, read _ _ rfl e]
  exact leads_step rfl rfl e

theorem leads_anything (plain : p.extended = false) (more : List Char) :
    Leads p ("(?s:.)".toList ++ more) (p.add (.group [.flag .dotAll] .dot)) more := by
  have written : "(?s:.)".toList ++ more = '(' :: (['?', 's', ':'] ++ (['.'] ++ ')' :: more)) := rfl
  rw [written]
  exact leads_flagged plain rfl (fun _ => rfl) fun q tail plain => leads_step plain rfl

theorem leads_boundary (plain : p.extended = false) (more : List Char) :
    Leads p ("(?-u:\\b)".toList ++ more)
      (p.add (.group [.negation, .flag .unicode] (.assertion .boundary))) more := by
  have written : "(?-u:\\b)".toList ++ more =
      '(' :: (['?', '-', 'u', ':'] ++ (['\\', 'b'] ++ ')' :: more)) := rfl
  rw [written]
  refine leads_flagged plain rfl (fun _ => rfl) fun q tail plain => ?_
  have named : escape? false ('b' :: ')' :: tail) = some (.assertion .boundary, ')' :: tail) := rfl
  exact leads_escape plain named

/-- What was written down begins with a question mark only to make something optional. -/
theorem written_start {piece : Piece} (other : piece ≠ .mark .optional) (dotAll : Bool)
    (more : List Char) : (piece.engineChars dotAll ++ more).head? ≠ some '?' := by
  cases piece with
  | mark m =>
    cases m
    case optional => exact absurd rfl other
    all_goals exact ne_of_beq_false rfl
  | literal c =>
    obtain ⟨d, ds, written, tame⟩ := engineChar_head c
    intro same
    change (engineChar c ++ more).head? = _ at same
    rw [written] at same
    cases same
    rcases tame with backslash | ordinary
    · cases backslash
    · exact absurd ordinary (by decide)
  | set negated ranges => cases negated <;> exact ne_of_beq_false rfl
  | anyChar => cases dotAll <;> exact ne_of_beq_false rfl
  | boundary | textStart | textEnd => exact ne_of_beq_false rfl

/-! Groups and counts -/

theorem opening?_group (free : more.head? ≠ some '?') :
    opening? false more = some (.group [] none, more) := by
  have never : ∀ rest, more = '?' :: rest → False := fun rest same => free (by rw [same]; rfl)
  have plain : isLookaround more = false := by
    cases more with
    | nil => rfl
    | cons c rest =>
      have other : ('?' == c) = false := beq_false_of_ne fun same => never rest (same ▸ rfl)
      simp [isLookaround, Text.dropStart?, other]
  unfold opening?
  simp only [skipSpace, Bool.false_eq_true, if_false, plain]
  split
  case h_1 => exact absurd rfl (never _)
  case h_2 => exact absurd rfl (never _)
  case h_3 => exact absurd rfl (never _)
  case h_4 => rfl

theorem digitRun_own {digits : List Char} (all : ∀ d ∈ digits, isDigit d = true)
    (outside : isDigit c = false) (more : List Char) :
    digitRun false false (digits ++ c :: more) = (digits, c :: more) := by
  induction digits with
  | nil => simp [digitRun, outside]
  | cons d digits ih =>
    obtain ⟨here, rest⟩ := List.forall_mem_cons.mp all
    simp [digitRun, here, ih rest]

theorem count?_own {n : Nat} (fits : n ≤ largestCount) (outside : isDigit c = false)
    (solid : Text.isBlank c = false) (more : List Char) :
    count? false (Nat.toDigits 10 n ++ c :: more) = some (n, c :: more) := by
  have digits : ∀ d ∈ Nat.toDigits 10 n, isDigit d = true :=
    fun _ member => Text.isDigit_of_mem_toDigits member
  have some_digit : Nat.toDigits 10 n ≠ [] := Nat.toDigits_ne_nil
  have start : Text.dropBlank (Nat.toDigits 10 n ++ c :: more) =
      Nat.toDigits 10 n ++ c :: more := by
    obtain ⟨d, ds, held⟩ := List.exists_cons_of_ne_nil some_digit
    rw [held] at digits ⊢
    simp [Text.dropBlank, Text.not_blank_of_digit (digits d List.mem_cons_self)]
  have run := digitRun_own digits outside more
  unfold count?
  rw [start, run]
  simp only [Text.decimal_toDigits]
  rw [if_neg (by simp [some_digit, Nat.not_lt.mpr fits])]
  simp [skipSpace, Text.dropBlank, solid]

theorem bounds?_exactly {n : Nat} (fits : n ≤ largestCount) (more : List Char) :
    bounds? false (Nat.toDigits 10 n ++ '\x7d' :: more) = some ((n, some n), more) := by
  have read := count?_own fits (show isDigit '\x7d' = false by decide) (by decide) more
  simp [bounds?, skipSpace, read]

theorem bounds?_atLeast {n : Nat} (fits : n ≤ largestCount) (more : List Char) :
    bounds? false (Nat.toDigits 10 n ++ ',' :: '\x7d' :: more) = some ((n, none), more) := by
  have read := count?_own fits (show isDigit ',' = false by decide) (by decide)
    ('\x7d' :: more)
  simp [bounds?, upper?, skipSpace, read]

theorem bounds?_between {n m : Nat} (fits_least : n ≤ largestCount) (fits : m ≤ largestCount)
    (more : List Char) :
    bounds? false (Nat.toDigits 10 n ++ ',' :: (Nat.toDigits 10 m ++ '\x7d' :: more)) =
      if n ≤ m then some ((n, some m), more) else none := by
  have first := count?_own fits_least (show isDigit ',' = false by decide)
    (by decide) (Nat.toDigits 10 m ++ '\x7d' :: more)
  have second := count?_own fits (show isDigit '\x7d' = false by decide) (by decide) more
  obtain ⟨d, ds, held⟩ := List.exists_cons_of_ne_nil (@Nat.toDigits_ne_nil m 10)
  have digit : isDigit d = true := by
    have member : d ∈ Nat.toDigits 10 m := held ▸ List.mem_cons_self
    exact Text.isDigit_of_mem_toDigits member
  have solid : d ≠ '\x7d' := by
    rintro rfl
    exact absurd digit (by decide)
  simp only [held, List.cons_append] at first second ⊢
  simp [bounds?, upper?, skipSpace, first, second, solid, Text.dropStart?]

end Reader

end Catalog.Pattern
