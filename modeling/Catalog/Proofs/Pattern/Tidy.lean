import Catalog.Pattern.Dialect
import Catalog.Proofs.Lists
import Catalog.Proofs.Pattern.Spacing

/-!
How a source is cut into pieces. Every piece leaves an end of the source, and the members of a
class are read one after the other. A source is tidy if none of its tokens can be taken in two
ways: a bracket or a hyphen that comes first in a class begins no range, and in extended sources
nothing is hidden behind blanks or comments where the next character decides.
-/
namespace Catalog.Pattern

open Text (isBlank of_splitOnce)

namespace Dialect

/-- The member of a class that begins with a character: what it adds and what follows it. -/
def member (extended : Bool) (c : Char) (rest : List Char) :
    Except Obstacle (List Range × List Char) :=
  if c == '[' then
    match rest with
    | ':' :: rest =>
      match className? rest with
      | none => .error .openClassName
      | some (name, rest) =>
        match namedRanges? (String.ofList name) with
        | some set => .ok (set, rest)
        | none => .error (.className (String.ofList name))
    | _ => .error .nestedClass
  else if (c == '&' || c == '-' || c == '~') && rest.head? == some c then .error .setOperation
  else if c == '\\' then do
    match ← escape rest with
    | (.char c, rest) =>
      let (r, rest) ← range extended c rest
      .ok ([r], rest)
    | (.set false set, rest) => .ok (set, rest)
    | (.set true _, _) => .error .negatedEscape
    | (.assertion _, _) => .error .assertionInClass
  else do
    let (r, rest) ← range extended c rest
    .ok ([r], rest)

variable {extended first : Bool} {c last : Char} {cs rest tail more name : List Char} {fuel : Nat}
  {r : Range} {ranges added out : List Range} {meaning : Escape} {p : Piece}

theorem bind_congr_ok {ε α β γ : Type} {x : Except ε α} {f : α → Except ε β} {g : β → Except ε γ}
    {h : α → Except ε γ} (each : ∀ a, f a >>= g = h a) : (x >>= f) >>= g = x >>= h := by
  cases x with
  | error => rfl
  | ok a => exact each a

theorem members_succ : members extended (fuel + 1) first ranges cs =
    match skipSpace extended cs with
    | [] => .error .openClass
    | c :: rest =>
      if c == ']' && !first then .ok (ranges, rest)
      else member extended c rest >>= fun (added, rest) =>
        members extended fuel false (ranges ++ added) rest := by
  rw [members]
  match skipSpace extended cs with
  | [] => rfl
  | c :: rest =>
    dsimp only
    unfold member
    split
    · rfl
    · split
      · cases rest with
        | nil => rfl
        | cons d tail =>
          by_cases colon : d = ':'
          · subst colon
            cases found : className? tail with
            | none =>
              simp only [found]
              rfl
            | some cut =>
              simp only [found]
              cases namedRanges? (String.ofList cut.1) <;> rfl
          · simp [colon]
            rfl
      · split
        · rfl
        · split
          · refine (bind_congr_ok fun taken => ?_).symm
            split
            · exact bind_congr_ok fun _ => rfl
            · rfl
            · rfl
            · rfl
          · refine (bind_congr_ok fun _ => ?_).symm
            rfl

theorem members_cases (cut : members extended (fuel + 1) first ranges cs = .ok (out, rest)) :
    (first = false ∧ skipSpace extended cs = ']' :: rest ∧ out = ranges) ∨
      ∃ c tail added more, skipSpace extended cs = c :: tail ∧ (c == ']' && !first) = false ∧
        member extended c tail = .ok (added, more) ∧
        members extended fuel false (ranges ++ added) more = .ok (out, rest) := by
  rw [members_succ] at cut
  split at cut
  · cases cut
  · rename_i c tail held
    split at cut
    · rename_i closing
      simp only [Bool.and_eq_true, beq_iff_eq, Bool.not_eq_true'] at closing
      cases cut
      exact .inl ⟨closing.2, by rw [held, closing.1], rfl⟩
    · rename_i more
      obtain ⟨⟨added, after⟩, here, later⟩ := bind_eq_ok.mp cut
      exact .inr ⟨c, tail, added, after, held, Bool.eq_false_iff.mpr more, here, later⟩

/-! Every token leaves an end of the text -/

theorem suffix_of_upTo? {stop : Char} {before after : List Char}
    (cut : upTo? stop cs = some (before, after)) : after <:+ cs := by
  obtain ⟨whole, -⟩ := of_splitOnce cut
  exact ⟨before ++ [stop], by rw [whole, List.append_assoc]; rfl⟩

theorem of_decoded {body tail : List Char} (decoded : (match charOfCode? body with
    | some c => .ok (c, tail)
    | none => .error (Obstacle.badCode (String.ofList body))) = Except.ok (c, rest)) :
    charOfCode? body = some c ∧ tail = rest := by
  split at decoded
  · rename_i found
    cases decoded
    exact ⟨found, rfl⟩
  · cases decoded

theorem code_suffix {length : Nat} (cut : code length cs = .ok (c, rest)) : rest <:+ cs := by
  unfold code at cut
  split at cut
  · rename_i held
    split at cut
    · rename_i parts found
      obtain ⟨-, rfl⟩ := of_decoded cut
      exact (suffix_of_upTo? found).trans (List.suffix_cons _ _)
    · cases cut
  · obtain ⟨-, rfl⟩ := of_decoded cut
    exact List.drop_suffix _ _

theorem of_coded {length : Nat} {tail : List Char} (coded : (do
    let (c, rest) ← code length tail
    .ok (Escape.char c, rest)) = .ok (meaning, rest)) :
    ∃ c, meaning = .char c ∧ code length tail = .ok (c, rest) := by
  obtain ⟨⟨c, after⟩, found, same⟩ := bind_eq_ok.mp coded
  cases same
  exact ⟨c, rfl, found⟩

theorem escape_suffix (cut : escape cs = .ok (meaning, rest)) : rest <:+ cs := by
  unfold escape at cut
  split at cut
  · cases cut
  · rename_i c tail
    refine List.IsSuffix.trans ?_ (List.suffix_cons c tail)
    split at cut
    case h_16 | h_17 | h_18 =>
      obtain ⟨_, -, found⟩ := of_coded cut
      exact code_suffix found
    all_goals first
      | (cases cut; exact List.suffix_refl _)
      | cases cut
      | (split at cut; cases cut; cases cut; exact List.suffix_refl _)

theorem className?_eq (cut : className? cs = some (name, rest)) :
    cs = name ++ ':' :: ']' :: rest := by
  induction cs generalizing name with
  | nil => cases cut
  | cons c cs ih =>
    unfold className? at cut
    split at cut
    case h_1 same => cases same
    case h_2 same =>
      cases cut
      exact same
    case h_3 same =>
      cases same
      obtain ⟨⟨front, back⟩, found, same⟩ := Option.map_eq_some_iff.mp cut
      cases same
      rw [ih found]
      rfl

/-- The character that ends a range. -/
def rangeEnd : List Char → Except Obstacle (Char × List Char)
  | [] => .error .openClass
  | '\\' :: rest => do
    match ← escape rest with
    | (.char last, rest) => .ok (last, rest)
    | _ => .error .rangeEnd
  | last :: rest => .ok (last, rest)

/-- A member that is a character begins a range just if a hyphen comes next that is not the last
member. -/
theorem range_cases (cut : range extended c cs = .ok (r, rest)) :
    (r = (c, c) ∧ rest = skipSpace extended cs ∧
        ∀ more, skipSpace extended cs = '-' :: more → more = [] ∨ more.head? = some ']') ∨
      ∃ more last, skipSpace extended cs = '-' :: more ∧ more.head? ≠ some ']' ∧
        rangeEnd (skipSpace extended more) = .ok (last, rest) ∧ r = (c, last) := by
  unfold range at cut
  dsimp only at cut
  split at cut
  · rename_i held
    cases cut
    refine .inl ⟨rfl, rfl, fun more same => .inl ?_⟩
    rw [held] at same
    exact (List.cons.inj same).2.symm
  · rename_i held
    cases cut
    refine .inl ⟨rfl, rfl, fun more same => .inr ?_⟩
    rw [held] at same
    rw [← (List.cons.inj same).2]
    rfl
  · cases cut
  · rename_i more _ closing _ held
    have open_range : more.head? ≠ some ']' := by
      intro closed
      obtain ⟨after, same⟩ := List.head?_eq_some_iff.mp closed
      exact closing after same
    split at cut
    · cases cut
    · rename_i after found
      obtain ⟨⟨meaning, ending⟩, read, done⟩ := bind_eq_ok.mp cut
      split at done
      · rename_i same
        cases same
        cases done
        refine .inr ⟨more, _, held, open_range, ?_, rfl⟩
        rw [found]
        exact bind_eq_ok.mpr ⟨_, read, rfl⟩
      · cases done
    · rename_i last after unescaped found
      cases cut
      refine .inr ⟨more, _, held, open_range, ?_, rfl⟩
      rw [found]
      unfold rangeEnd
      split
      · contradiction
      · rename_i same
        exact absurd (List.cons.inj same).1 unescaped
      · rename_i same
        cases same
        rfl
  · rename_i other
    cases cut
    exact .inl ⟨rfl, rfl, fun more same => absurd same (other more)⟩

theorem rangeEnd_suffix (cut : rangeEnd cs = .ok (c, rest)) : rest <:+ cs := by
  unfold rangeEnd at cut
  split at cut
  · cases cut
  · obtain ⟨⟨meaning, after⟩, read, done⟩ := bind_eq_ok.mp cut
    split at done
    · rename_i same
      cases same
      cases done
      exact (escape_suffix read).trans (List.suffix_cons _ _)
    · cases done
  · cases cut
    exact List.suffix_cons _ _

theorem range_suffix (cut : range extended c cs = .ok (r, rest)) : rest <:+ cs := by
  have skipped := skipSpace_suffix extended cs
  rcases range_cases cut with ⟨-, same, -⟩ | ⟨more, last, held, -, ended, -⟩
  · exact same ▸ skipped
  · rw [held] at skipped
    have later := (skipSpace_suffix extended more).trans ((List.suffix_cons _ _).trans skipped)
    exact (rangeEnd_suffix ended).trans later

theorem member_suffix (cut : member extended c cs = .ok (added, rest)) : rest <:+ cs := by
  unfold member at cut
  split at cut
  · split at cut
    · split at cut
      · cases cut
      · rename_i name _ found
        split at cut
        · cases cut
          rw [className?_eq found]
          exact ⟨':' :: (name ++ [':', ']']), by simp⟩
        · cases cut
    · cases cut
  · split at cut
    · cases cut
    · split at cut
      · obtain ⟨⟨meaning, after⟩, read, done⟩ := bind_eq_ok.mp cut
        have first := escape_suffix read
        split at done
        · rename_i same
          cases same
          obtain ⟨⟨r, ending⟩, ranged, same⟩ := bind_eq_ok.mp done
          cases same
          exact (range_suffix ranged).trans first
        · rename_i same
          cases same
          cases done
          exact first
        · cases done
        · cases done
      · obtain ⟨⟨r, ending⟩, ranged, same⟩ := bind_eq_ok.mp cut
        cases same
        exact range_suffix ranged

theorem members_suffix (cut : members extended fuel first ranges cs = .ok (out, rest)) :
    rest <:+ cs := by
  induction fuel generalizing first ranges cs with
  | zero => cases cut
  | succ fuel ih =>
    have skipped := skipSpace_suffix extended cs
    rcases members_cases cut with ⟨-, held, -⟩ | ⟨c, tail, added, more, held, -, here, later⟩
    · rw [held] at skipped
      exact (List.suffix_cons _ _).trans skipped
    · rw [held] at skipped
      exact (ih later).trans ((member_suffix here).trans ((List.suffix_cons _ _).trans skipped))

theorem members_extend (cut : members extended fuel first ranges cs = .ok (out, rest)) :
    ∃ added, out = ranges ++ added := by
  induction fuel generalizing first ranges cs with
  | zero => cases cut
  | succ fuel ih =>
    rcases members_cases cut with ⟨-, -, same⟩ | ⟨c, tail, added, more, -, -, -, later⟩
    · exact ⟨[], by rw [same, List.append_nil]⟩
    · obtain ⟨others, same⟩ := ih later
      exact ⟨added ++ others, by rw [same, List.append_assoc]⟩

theorem charClass_suffix (cut : charClass extended cs = .ok (p, rest)) : rest <:+ cs := by
  obtain ⟨⟨out, after⟩, read, same⟩ := bind_eq_ok.mp cut
  cases same
  have skipped := skipSpace_suffix extended cs
  have inner := members_suffix read
  split at inner
  · rename_i held
    rw [held] at skipped
    exact inner.trans ((List.suffix_cons _ _).trans skipped)
  · exact inner.trans skipped

theorem suffix_of_name {stop : Char} :
    ((upTo? stop cs).map Prod.snd).getD [] <:+ cs := by
  match found : upTo? stop cs with
  | none => exact List.nil_suffix
  | some (before, after) => exact suffix_of_upTo? found

theorem group_suffix (cut : group extended cs = .ok (p, rest)) : rest <:+ cs := by
  have skipped := skipSpace_suffix extended cs
  unfold group at cut
  dsimp only at cut
  generalize skipSpace extended cs = seen at cut skipped
  refine List.IsSuffix.trans ?_ skipped
  split at cut
  · cases cut
    exact ⟨['?', ':'], rfl⟩
  · cases cut
    exact suffix_of_name.trans ⟨['?', '<'], rfl⟩
  · cases cut
    exact suffix_of_name.trans ⟨['?', 'P', '<'], rfl⟩
  · cases cut
  · cases cut
    exact List.suffix_refl _

theorem repetition_suffix (cut : repetition cs = .ok (p, rest)) : rest <:+ cs := by
  unfold repetition at cut
  split at cut
  · cases cut
  · rename_i inner after found
    have same : after = rest := by
      dsimp only at cut
      split at cut
      · obtain ⟨n, -, done⟩ := bind_eq_ok.mp cut
        cases done
        rfl
      · obtain ⟨n, -, done⟩ := bind_eq_ok.mp cut
        cases done
        rfl
      · obtain ⟨n, -, done⟩ := bind_eq_ok.mp cut
        obtain ⟨m, -, done⟩ := bind_eq_ok.mp done
        cases done
        rfl
    exact same ▸ suffix_of_upTo? found

theorem piece_suffix (cut : piece extended c cs = .ok (p, rest)) : rest <:+ cs := by
  unfold piece at cut
  split at cut
  · obtain ⟨⟨meaning, after⟩, read, done⟩ := bind_eq_ok.mp cut
    have same : after = rest := by
      split at done
      all_goals
        rename_i same
        cases same
        cases done
        rfl
    exact same ▸ escape_suffix read
  · exact charClass_suffix cut
  · exact group_suffix cut
  · exact repetition_suffix cut
  · cases cut
    exact List.suffix_refl _
  · split at cut
    all_goals
      cases cut
      exact List.suffix_refl _

theorem piecesFrom_cons {ps : List Piece} (held : skipSpace extended cs = c :: rest)
    (cut : piecesFrom extended (fuel + 1) cs = .ok ps) : ∃ p more qs, ps = p :: qs ∧
      piece extended c rest = .ok (p, more) ∧ more.length ≤ rest.length ∧
      piecesFrom extended fuel more = .ok qs := by
  simp only [piecesFrom, held] at cut
  obtain ⟨⟨p, more⟩, here, cut⟩ := bind_eq_ok.mp cut
  obtain ⟨qs, later, same⟩ := bind_eq_ok.mp cut
  cases same
  exact ⟨p, more, qs, rfl, here, (piece_suffix here).length_le, later⟩

theorem piecesFrom_nil {ps : List Piece} (held : skipSpace extended cs = [])
    (cut : piecesFrom extended fuel cs = .ok ps) : ps = [] := by
  cases fuel with
  | zero =>
    cases cut
    rfl
  | succ fuel =>
    simp only [piecesFrom, held] at cut
    cases cut
    rfl

/-! Tidy sources -/

/-- The digits of a code stand together. -/
def tidyCode (length : Nat) (cs : List Char) : Bool :=
  cs.head? == some '{' || (cs.take length).all fun c => !isBlank c

/-- What follows a backslash. -/
def tidyEscape : List Char → Bool
  | 'x' :: rest => tidyCode 2 rest
  | 'u' :: rest => tidyCode 4 rest
  | 'U' :: rest => tidyCode 8 rest
  | _ => true

/-- What follows a member of a class: after a hyphen it is seen at once whether a range ends. -/
def tidyHyphen (extended : Bool) (cs : List Char) : Bool :=
  match skipSpace extended cs with
  | '-' :: rest =>
    rest.head? == some ']' ||
      (peekSpace extended rest != some ']' && peekSpace extended rest != some '-' &&
        match skipSpace extended rest with
        | '\\' :: rest => tidyEscape rest
        | _ => true)
  | _ => true

def tidyMember (extended : Bool) (c : Char) (rest : List Char) : Bool :=
  if c == '\\' then
    tidyEscape rest &&
      match escape rest with
      | .ok (.char _, rest) => tidyHyphen extended rest
      | _ => true
  else tidyHyphen extended rest

def tidyMembers (extended : Bool) : Nat → Bool → List Char → Bool
  | 0, _, _ => true
  | fuel + 1, first, cs =>
    match skipSpace extended cs with
    | [] => true
    | c :: rest =>
      c == ']' && !first ||
        tidyMember extended c rest &&
          match member extended c rest with
          | .ok (_, rest) => tidyMembers extended fuel false rest
          | .error _ => true

/-- A closing bracket that comes first in a class has no hyphen after it, unless that one is the
last member; a hyphen that comes first has none at all. -/
def tidyStart (extended : Bool) : List Char → Bool
  | ']' :: rest =>
    match skipSpace extended rest with
    | '-' :: rest => rest.head? == some ']'
    | _ => true
  | '-' :: rest => (skipSpace extended rest).head? != some '-'
  | _ => true

/-- The members of a class, after the sign that negates it. -/
def classStart (extended : Bool) (cs : List Char) : List Char :=
  match skipSpace extended cs with
  | '^' :: rest => rest
  | cs => cs

def tidyClass (extended : Bool) (cs : List Char) : Bool :=
  let cs := classStart extended cs
  tidyStart extended (skipSpace extended cs) && tidyMembers extended (cs.length + 1) true cs

def tidyPiece (extended : Bool) (c : Char) (rest : List Char) : Bool :=
  match c with
  | '\\' => tidyEscape rest
  | '[' => tidyClass extended rest
  | '+' => rest.head? == some '?' || (skipSpace extended rest).head? != some '?'
  | _ => true

def tidyFrom (extended : Bool) : Nat → List Char → Bool
  | 0, _ => true
  | fuel + 1, cs =>
    match skipSpace extended cs with
    | [] => true
    | c :: rest =>
      tidyPiece extended c rest &&
        match piece extended c rest with
        | .ok (_, rest) => tidyFrom extended fuel rest
        | .error _ => true

theorem tidyFrom_cons (held : skipSpace extended cs = c :: rest)
    (cut : piece extended c rest = .ok (p, more)) (tidy : tidyFrom extended (fuel + 1) cs = true) :
    tidyPiece extended c rest = true ∧ tidyFrom extended fuel more = true := by
  simpa only [tidyFrom, held, cut, Bool.and_eq_true] using tidy

theorem tidyMembers_cons (held : skipSpace extended cs = c :: rest)
    (open_class : (c == ']' && !first) = false) (cut : member extended c rest = .ok (added, more))
    (tidy : tidyMembers extended (fuel + 1) first cs = true) :
    tidyMember extended c rest = true ∧ tidyMembers extended fuel false more = true := by
  simpa only [tidyMembers, held, open_class, cut, Bool.false_or, Bool.and_eq_true] using tidy

end Dialect

/-- A source that leaves nothing to choose between its pieces and its reading as it stands. -/
def tidy (extended : Bool) (source : List Char) : Bool :=
  Dialect.tidyFrom extended (source.length + 1) source

end Catalog.Pattern
