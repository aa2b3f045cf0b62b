import Catalog.Proofs.Lists
import Catalog.Proofs.Text.Blanks
import Catalog.Proofs.Text.Letters
import Catalog.Proofs.Text.Splitting
import Catalog.Query.Ranking

/-!
Sort specifications as they are spelled. A key has several spellings, by a word after a colon, by a
hyphen or by its path alone, with blanks around commas and colons, and blank parts mean nothing.
Main statement: a list of plain keys is read from just the specifications that spell it.
-/
namespace Catalog.Query

open Text (Blank Padded Trimmed isBlank trimmed)

/-- The words that name a direction. -/
def Direction.words : Direction → List String
  | .ascending => ["asc", "1"]
  | .descending => ["desc", "-1"]

/-- One of the words, in any letter case. -/
def Direction.NamedBy (direction : Direction) (word : List Char) : Prop :=
  String.ofList (word.map Char.toLower) ∈ direction.words

instance (direction : Direction) (word : List Char) : Decidable (direction.NamedBy word) :=
  inferInstanceAs (Decidable (_ ∈ _))

/-- A path that every spelling leaves whole: no commas and colons, no hyphen in front, no blanks
at the ends. -/
structure PlainPath (path : List Char) : Prop where
  present : path ≠ []
  comma : ',' ∉ path
  colon : ':' ∉ path
  hyphen : path.head? ≠ some '-'
  trimmed : Trimmed path

instance (path : List Char) : Decidable (PlainPath path) :=
  decidable_of_iff
    (path ≠ [] ∧ ',' ∉ path ∧ ':' ∉ path ∧ path.head? ≠ some '-' ∧ Trimmed path)
    ⟨fun ⟨present, comma, colon, hyphen, trimmed⟩ => ⟨present, comma, colon, hyphen, trimmed⟩,
      fun plain => ⟨plain.present, plain.comma, plain.colon, plain.hyphen, plain.trimmed⟩⟩

namespace Ranking

/-- The text spells the key. -/
inductive SpellsKey : SortKey → List Char → Prop
  | bare {path : String} {text : List Char} (padded : Padded path.toList text) :
    SpellsKey ⟨path, .ascending⟩ text
  | hyphen {path : String} {text : List Char} (padded : Padded ('-' :: path.toList) text) :
    SpellsKey ⟨path, .descending⟩ text
  | word {path : String} {direction : Direction} {front word back : List Char}
    (padded : Padded path.toList front) (named : direction.NamedBy word) (after : Padded word back) :
    SpellsKey ⟨path, direction⟩ (front ++ ':' :: back)

/-- The parts spell the keys in order, with blank parts anywhere. -/
inductive SpellsParts : Ranking → List (List Char) → Prop
  | nil : SpellsParts [] []
  | blank {keys : Ranking} {part : List Char} {parts : List (List Char)} (blank : Blank part)
    (rest : SpellsParts keys parts) : SpellsParts keys (part :: parts)
  | key {key : SortKey} {keys : Ranking} {part : List Char} {parts : List (List Char)}
    (spelled : SpellsKey key part) (rest : SpellsParts keys parts) :
    SpellsParts (key :: keys) (part :: parts)

/-- The specification spells the keys: it joins parts that spell them by commas. -/
def Spells (keys : Ranking) (spec : String) : Prop :=
  ∃ parts, SpellsParts keys parts ∧ spec.toList = [','].intercalate parts

end Ranking

/-! Words -/

variable {direction : Direction} {key : SortKey} {keys : Ranking} {path word part : List Char}
  {parts : List (List Char)}

theorem letters_of_words (direction : Direction) : ∀ name ∈ direction.words,
    (name.toList.all fun c => !isBlank c && c != ',') = true := by
  cases direction <;> decide

theorem letters_of_namedBy (named : direction.NamedBy word) :
    ∀ c ∈ word, isBlank c = false ∧ c ≠ ',' := by
  intro c member
  have letters := letters_of_words direction _ named
  rw [String.toList_ofList] at letters
  obtain ⟨solid, apart⟩ : isBlank c.toLower = false ∧ c.toLower ≠ ',' := by
    simpa using List.all_eq_true.mp letters c.toLower (List.mem_map_of_mem member)
  constructor
  · apply Bool.eq_false_iff.mpr
    intro blank
    rw [Text.toLower_of_blank blank, blank] at solid
    cases solid
  · rintro rfl
    exact apart (by decide)

theorem ne_nil_of_namedBy (named : direction.NamedBy word) : word ≠ [] := by
  rintro rfl
  cases direction <;> exact absurd named (by decide)

theorem trimmed_of_namedBy (named : direction.NamedBy word) : Trimmed word := by
  constructor
  · intro c first
    exact (letters_of_namedBy named c (List.mem_of_mem_head? first)).1
  · intro c last
    exact (letters_of_namedBy named c (List.mem_of_getLast? last)).1

theorem direction?_eq_some_iff (back : List Char) :
    Ranking.direction? back = some direction ↔ direction.NamedBy (trimmed back) := by
  have lowered : (trimmed back).map Text.asciiLower = (trimmed back).map Char.toLower :=
    List.map_congr_left fun c _ => Text.asciiLower_eq_toLower c
  rw [Ranking.direction?, lowered, Direction.NamedBy]
  generalize String.ofList ((trimmed back).map Char.toLower) = name
  split <;> cases direction <;> simp_all [Direction.words]

/-! Keys -/

namespace Ranking

/-- The key that a part names by its path; no path is named by nothing. -/
def pathKey (part path : List Char) (direction : Direction) : Except Fault SortKey :=
  if path.isEmpty then .error (.invalidSort (String.ofList part))
  else .ok ⟨String.ofList path, direction⟩

theorem pathKey_eq_ok_iff :
    pathKey part path direction = .ok key ↔
      key.path.toList ≠ [] ∧ path = key.path.toList ∧ direction = key.direction := by
  obtain ⟨name, toward⟩ := key
  cases path with
  | nil =>
    refine iff_of_false (fun done => by cases done) ?_
    rintro ⟨present, empty, -⟩
    exact present empty.symm
  | cons c cs =>
    constructor
    · rintro ⟨⟩
      simp [String.toList_ofList]
    · rintro ⟨-, rest, rfl⟩
      have path : String.ofList (c :: cs) = name := by rw [rest, String.ofList_toList]
      rw [pathKey, path]
      rfl

theorem readKey_word {front back : List Char}
    (cut : Text.splitOnce ':' part = some (front, back)) : readKey part =
      match direction? back with
      | some direction => pathKey part (trimmed front) direction
      | none => .error (.invalidSort (String.ofList part)) := by
  unfold readKey
  rw [cut]
  cases toward : direction? back with
  | none => simp only [toward]; rfl
  | some => simp only [toward]; rfl

theorem readKey_hyphen (whole : Text.splitOnce ':' ('-' :: path) = none) :
    readKey ('-' :: path) = pathKey ('-' :: path) path .descending := by
  unfold readKey
  rw [whole]
  rfl

theorem readKey_bare (whole : Text.splitOnce ':' part = none) (front : part.head? ≠ some '-') :
    readKey part = pathKey part part .ascending := by
  unfold readKey
  rw [whole]
  split
  · contradiction
  · split
    · exact absurd rfl front
    · rfl

theorem spellsKey_of_word {name : String} {front back : List Char}
    (read : trimmed front = name.toList) (toward : direction? back = some direction)
    (padded : Padded (front ++ ':' :: back) part) : SpellsKey ⟨name, direction⟩ part := by
  obtain ⟨before, after, blank_before, blank_after, rfl⟩ := padded
  have halves : before ++ (front ++ ':' :: back) ++ after =
      (before ++ front) ++ ':' :: (back ++ after) := by simp
  rw [halves]
  apply SpellsKey.word
  · rw [← read]
    exact (Text.padded_trimmed front).behind blank_before
  · exact (direction?_eq_some_iff back).mp toward
  · exact (Text.padded_trimmed back).ahead blank_after

theorem readKey_of_word {name : String} {front back : List Char} (plain : PlainPath name.toList)
    (padded : Padded name.toList front) (named : direction.NamedBy word)
    (after : Padded word back) : readKey (trimmed (front ++ ':' :: back)) = .ok ⟨name, direction⟩ := by
  obtain ⟨before, inner, blank_before, blank_inner, rfl⟩ := padded
  obtain ⟨outer, behind, blank_outer, blank_behind, rfl⟩ := after
  -- The blanks around the part go first; those around the colon go with each half of it.
  have solid := trimmed_of_namedBy named
  have left : trimmed (before ++ name.toList ++ inner ++ ':' :: (outer ++ word ++ behind)) =
      (name.toList ++ inner) ++ ':' :: (outer ++ word) := by
    have whole := Text.trimmed_of_padded ⟨before, behind, blank_before, blank_behind, rfl⟩
      (plain.trimmed.join solid plain.present (ne_nil_of_namedBy named) (inner ++ ':' :: outer))
    simpa using whole
  have cut : Text.splitOnce ':' ((name.toList ++ inner) ++ ':' :: (outer ++ word)) =
      some (name.toList ++ inner, outer ++ word) := by
    apply Text.splitOnce_append
    intro member
    rcases List.mem_append.mp member with here | there
    · exact plain.colon here
    · exact absurd (blank_inner ':' there) (by decide)
  have toward : direction? (outer ++ word) = some direction := by
    apply (direction?_eq_some_iff _).mpr
    rwa [Text.trimmed_of_padded ⟨outer, [], blank_outer, List.forall_mem_nil _, by simp⟩ solid]
  have path : trimmed (name.toList ++ inner) = name.toList :=
    Text.trimmed_of_padded ⟨[], inner, List.forall_mem_nil _, blank_inner, rfl⟩ plain.trimmed
  rw [left, readKey_word cut, toward]
  exact pathKey_eq_ok_iff.mpr ⟨plain.present, path, rfl⟩

/-- A key is read from just the parts that spell it, once the blanks around them are gone. -/
theorem readKey_trimmed_eq_ok_iff (plain : PlainPath key.path.toList) (part : List Char) :
    readKey (trimmed part) = .ok key ↔ SpellsKey key part := by
  obtain ⟨path, direction⟩ := key
  constructor
  · intro read
    have padded := Text.padded_trimmed part
    cases cut : Text.splitOnce ':' (trimmed part) with
    | some halves =>
      obtain ⟨front, back⟩ := halves
      rw [readKey_word cut] at read
      cases toward : direction? back with
      | none => rw [toward] at read; cases read
      | some =>
        rw [toward] at read
        obtain ⟨-, name, rfl⟩ := pathKey_eq_ok_iff.mp read
        exact spellsKey_of_word name toward ((Text.of_splitOnce cut).1 ▸ padded)
    | none =>
      by_cases behind : (trimmed part).head? = some '-'
      · obtain ⟨rest, whole⟩ := List.head?_eq_some_iff.mp behind
        rw [whole] at cut read padded
        rw [readKey_hyphen cut] at read
        obtain ⟨-, rfl, rfl⟩ := pathKey_eq_ok_iff.mp read
        exact .hyphen padded
      · rw [readKey_bare cut behind] at read
        obtain ⟨-, name, rfl⟩ := pathKey_eq_ok_iff.mp read
        rw [name] at padded
        exact .bare padded
  · intro spelled
    cases spelled with
    | bare padded =>
      rw [Text.trimmed_of_padded padded plain.trimmed,
        readKey_bare (Text.splitOnce_of_not_mem plain.colon) plain.hyphen]
      exact pathKey_eq_ok_iff.mpr ⟨plain.present, rfl, rfl⟩
    | hyphen padded =>
      have solid : Trimmed ('-' :: path.toList) :=
        Trimmed.join (show Trimmed ['-'] by decide) plain.trimmed (List.cons_ne_nil _ _)
          plain.present []
      have whole : ':' ∉ '-' :: path.toList :=
        List.not_mem_cons_of_ne_of_not_mem (by decide) plain.colon
      rw [Text.trimmed_of_padded padded solid, readKey_hyphen (Text.splitOnce_of_not_mem whole)]
      exact pathKey_eq_ok_iff.mpr ⟨plain.present, rfl, rfl⟩
    | word padded named after => exact readKey_of_word plain padded named after

/-! Specifications -/

theorem not_blank_of_spellsKey (plain : PlainPath key.path.toList) (spelled : SpellsKey key part) :
    ¬ Blank part := by
  intro blank
  have read := (readKey_trimmed_eq_ok_iff plain part).mpr spelled
  rw [(Text.trimmed_eq_nil_iff part).mpr blank] at read
  cases read

theorem readParts_eq_ok_iff (plain : ∀ key ∈ keys, PlainPath key.path.toList)
    (parts : List (List Char)) :
    ((parts.map trimmed).filter fun part => !part.isEmpty).mapM readKey = .ok keys ↔
      SpellsParts keys parts := by
  induction parts generalizing keys with
  | nil =>
    constructor
    · rintro ⟨⟩
      exact .nil
    · rintro ⟨⟩
      rfl
  | cons part parts ih =>
    rw [List.map_cons]
    by_cases blank : Blank part
    · rw [List.filter_cons_of_neg (by simp [(Text.trimmed_eq_nil_iff part).mpr blank]), ih plain]
      constructor
      · exact .blank blank
      · rintro (_ | ⟨-, rest⟩ | ⟨spelled, rest⟩)
        · exact rest
        · exact absurd blank (not_blank_of_spellsKey (plain _ List.mem_cons_self) spelled)
    · have solid : trimmed part ≠ [] := fun empty => blank ((Text.trimmed_eq_nil_iff part).mp empty)
      rw [List.filter_cons_of_pos (by simp [solid]), List.mapM_cons]
      simp only [bind_eq_ok]
      constructor
      · rintro ⟨key, read, rest, more, ⟨⟩⟩
        obtain ⟨first, later⟩ := List.forall_mem_cons.mp plain
        exact .key ((readKey_trimmed_eq_ok_iff first part).mp read) ((ih later).mp more)
      · rintro (_ | ⟨here, -⟩ | ⟨spelled, rest⟩)
        · exact absurd here blank
        · obtain ⟨first, later⟩ := List.forall_mem_cons.mp plain
          exact ⟨_, (readKey_trimmed_eq_ok_iff first part).mpr spelled, _, (ih later).mpr rest, rfl⟩

theorem comma_of_spellsKey (plain : PlainPath key.path.toList) (spelled : SpellsKey key part) :
    ',' ∉ part := by
  cases spelled with
  | bare padded => exact padded.not_mem (by decide) plain.comma
  | hyphen padded =>
    exact padded.not_mem (by decide) (List.not_mem_cons_of_ne_of_not_mem (by decide) plain.comma)
  | word padded named after =>
    have word : ',' ∉ _ := fun member => (letters_of_namedBy named ',' member).2 rfl
    intro member
    rcases List.mem_append.mp member with front | back
    · exact padded.not_mem (by decide) plain.comma front
    · rcases List.mem_cons.mp back with sign | back
      · exact absurd sign (by decide)
      · exact after.not_mem (by decide) word back

theorem comma_of_spellsParts (plain : ∀ key ∈ keys, PlainPath key.path.toList)
    (spelled : SpellsParts keys parts) : ∀ part ∈ parts, ',' ∉ part := by
  induction spelled with
  | nil => exact List.forall_mem_nil _
  | blank blank _ ih =>
    refine List.forall_mem_cons.mpr ⟨fun member => ?_, ih plain⟩
    exact absurd (blank ',' member) (by decide)
  | key spelled _ ih =>
    obtain ⟨first, later⟩ := List.forall_mem_cons.mp plain
    exact List.forall_mem_cons.mpr ⟨comma_of_spellsKey first spelled, ih later⟩

/-- Every specification that spells a list of plain keys is read as that list, in order, and no
other specification is. -/
theorem parse_eq_ok_iff_spells (plain : ∀ key ∈ keys, PlainPath key.path.toList) (spec : String) :
    parse spec = .ok keys ↔ Spells keys spec := by
  constructor
  · intro read
    refine ⟨Text.splitAt ',' spec.toList, (readParts_eq_ok_iff plain _).mp read, ?_⟩
    exact (Text.intercalate_splitAt ',' spec.toList).symm
  · rintro ⟨parts, spelled, joined⟩
    apply (readParts_eq_ok_iff plain (Text.splitAt ',' spec.toList)).mpr
    rw [joined]
    by_cases none : parts = []
    · -- No parts at all and a single blank part are both the empty specification.
      subst none
      exact .blank (List.forall_mem_nil _) spelled
    · rwa [Text.splitAt_intercalate none (comma_of_spellsParts plain spelled)]

/-- A path with a blank, a hyphen and a letter outside of ASCII in it, and two others. -/
def mixedKeys : Ranking :=
  [⟨"fête d-day", .descending⟩, ⟨"dates.end", .ascending⟩, ⟨"n", .descending⟩]

theorem parse_eq_ok_iff_spells_mixed :
    (∀ key ∈ mixedKeys, PlainPath key.path.toList) ∧
      Spells mixedKeys " ,fête d-day :\u2003DeSc, dates.end,\t, -n " ∧
      parse " ,fête d-day :\u2003DeSc, dates.end,\t, -n " = .ok mixedKeys := by
  have plain : ∀ key ∈ mixedKeys, PlainPath key.path.toList := by decide
  have word : SpellsKey ⟨"fête d-day", .descending⟩
      ("fête d-day ".toList ++ ':' :: "\u2003DeSc".toList) :=
    .word ⟨[], [' '], by decide, by decide, by decide⟩
      (show Direction.descending.NamedBy "DeSc".toList by decide)
      ⟨['\u2003'], [], by decide, by decide, by decide⟩
  have bare : SpellsKey ⟨"dates.end", .ascending⟩ " dates.end".toList :=
    .bare ⟨[' '], [], by decide, by decide, by decide⟩
  have hyphen : SpellsKey ⟨"n", .descending⟩ " -n ".toList :=
    .hyphen ⟨[' '], [' '], by decide, by decide, by decide⟩
  have spelled : Spells mixedKeys " ,fête d-day :\u2003DeSc, dates.end,\t, -n " :=
    ⟨[[' '], _, _, ['\t'], _],
      .blank (by decide) (.key word (.key bare (.blank (by decide) (.key hyphen .nil)))), by decide⟩
  exact ⟨plain, spelled, (parse_eq_ok_iff_spells plain _).mpr spelled⟩

/-- A hyphen stays in front of a path that a word follows. -/
example : parse "-n:asc" = .ok [⟨"-n", .ascending⟩] := by cbv

end Ranking

end Catalog.Query
