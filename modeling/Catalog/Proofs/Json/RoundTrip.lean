import Catalog.Json.Reader
import Catalog.Proofs.Json.Lexing
import Catalog.Proofs.Json.Members

/-!
Indented text read back. A value comes back as it was, except that its numbers are read anew, that
the members of its objects are put in order, and that nesting deeper than the reader allows is
refused.
-/
namespace Catalog.Json

open Text (StartsOutside)

namespace Value

mutual

/-- The value with every number replaced by what its text reads back as. -/
def reread? : Value → Option Value
  | .number n => n.reread?.map .number
  | .array items => (rereadItems? items).map .array
  | .object members => (rereadMembers? members).map .object
  | .null => some .null
  | .bool b => some (.bool b)
  | .text s => some (.text s)

def rereadItems? : List Value → Option (List Value)
  | [] => some []
  | v :: rest => v.reread?.bind fun w => (rereadItems? rest).map fun ws => w :: ws

def rereadMembers? : List (String × Value) → Option (List (String × Value))
  | [] => some []
  | (name, v) :: rest =>
    v.reread?.bind fun w => (rereadMembers? rest).map fun ws => (name, w) :: ws

end

mutual

def tokens : Value → List Token
  | .array [] => [.openArray, .closeArray]
  | .array (v :: rest) => .openArray :: (v.tokens ++ itemTokens rest)
  | .object [] => [.openObject, .closeObject]
  | .object ((name, v) :: rest) =>
    .openObject :: .text name :: .colon :: (v.tokens ++ memberTokens rest)
  | .text s => [.text s]
  | .null => [.scalar .null]
  | .bool b => [.scalar (.bool b)]
  | .number n => [.scalar (.number n)]

/-- The tokens of the further elements of an array, up to its end. -/
def itemTokens : List Value → List Token
  | [] => [.closeArray]
  | v :: rest => .comma :: (v.tokens ++ itemTokens rest)

/-- The tokens of the further members of an object, up to its end. -/
def memberTokens : List (String × Value) → List Token
  | [] => [.closeObject]
  | (name, v) :: rest => .comma :: .text name :: .colon :: (v.tokens ++ memberTokens rest)

end

end Value

open Token Value

section Written

variable {tail : List Char}

theorem lexes_mark {c : Char} {token : Token} {cs : List Char} (solid : isSpace c = false)
    (next : ∀ fuel, next? fuel c cs = some (token, cs)) : Lexes (c :: cs) (some [token]) cs :=
  lexes_token solid (Nat.le_refl _) fun fuel _ => next fuel

theorem follows_newLine (level : Nat) (tail : List Char) :
    StartsOutside extendsNumber (newLine level tail) := by
  rw [newLine, Text.startsOutside_cons]
  decide

theorem follows_items (level : Nat) (rest : List Value) (tail : List Char) :
    StartsOutside extendsNumber (writeIndentedItems level rest tail) := by
  cases rest with
  | nil => exact follows_newLine level _
  | cons v rest =>
    rw [writeIndentedItems, Text.startsOutside_cons]
    decide

theorem follows_members (level : Nat) (rest : List (String × Value)) (tail : List Char) :
    StartsOutside extendsNumber (writeIndentedMembers level rest tail) := by
  cases rest with
  | nil => exact follows_newLine level _
  | cons m rest =>
    obtain ⟨name, v⟩ := m
    rw [writeIndentedMembers, Text.startsOutside_cons]
    decide

section Marks

variable (cs : List Char)

theorem lexes_openArray : Lexes ('[' :: cs) (some [.openArray]) cs :=
  lexes_mark (by decide) fun _ => rfl

theorem lexes_closeArray : Lexes (']' :: cs) (some [.closeArray]) cs :=
  lexes_mark (by decide) fun _ => rfl

theorem lexes_openObject : Lexes ('{' :: cs) (some [.openObject]) cs :=
  lexes_mark (by decide) fun _ => rfl

theorem lexes_closeObject : Lexes ('}' :: cs) (some [.closeObject]) cs :=
  lexes_mark (by decide) fun _ => rfl

theorem lexes_comma : Lexes (',' :: cs) (some [.comma]) cs :=
  lexes_mark (by decide) fun _ => rfl

theorem lexes_colon : Lexes (':' :: cs) (some [.colon]) cs :=
  lexes_mark (by decide) fun _ => rfl

theorem lexes_name (name : String) :
    Lexes (quotedChars name.toList (':' :: ' ' :: cs)) (some [.text name, .colon]) cs := by
  have read := lexes_quoted name.toList (':' :: ' ' :: cs)
  rw [String.ofList_toList] at read
  exact read.append ((lexes_colon (' ' :: cs)).append (lexes_blank (by decide)))

end Marks

mutual

/-- The tokens of a value's text are those of what it reads back as. -/
theorem writeIndented_lexes (level : Nat) (v : Value) (tail : List Char)
    (follows : StartsOutside extendsNumber tail) :
    Lexes (v.writeIndented level tail) (v.reread?.map tokens) tail := by
  match v with
  | .null => exact lexes_token (by decide) (by simp; omega) fun fuel _ => rfl
  | .bool true => exact lexes_token (by decide) (by simp; omega) fun fuel _ => rfl
  | .bool false => exact lexes_token (by decide) (by simp; omega) fun fuel _ => rfl
  | .text s =>
    have read := lexes_quoted s.toList tail
    rw [String.ofList_toList] at read
    exact read
  | .number n =>
    refine (lexes_number n follows).as ?_
    cases same : n.reread? <;> simp [reread?, same, tokens]
  | .array [] => exact (lexes_openArray _).append (lexes_closeArray tail)
  | .object [] => exact (lexes_openObject _).append (lexes_closeObject tail)
  | .array (v :: rest) =>
    have first := writeIndented_lexes (level + 1) v _ (follows_items level rest tail)
    have others := writeIndentedItems_lexes level rest tail
    refine ((lexes_openArray _).append ((lexes_newLine (level + 1) _).append
      (first.append others))).as ?_
    cases this : v.reread? <;> cases those : rereadItems? rest <;>
      simp [reread?, rereadItems?, this, those, tokens]
  | .object ((name, v) :: rest) =>
    have first := writeIndented_lexes (level + 1) v _ (follows_members level rest tail)
    have others := writeIndentedMembers_lexes level rest tail
    refine ((lexes_openObject _).append ((lexes_newLine (level + 1) _).append
      ((lexes_name _ name).append (first.append others)))).as ?_
    cases this : v.reread? <;> cases those : rereadMembers? rest <;>
      simp [reread?, rereadMembers?, this, those, tokens]

theorem writeIndentedItems_lexes (level : Nat) (items : List Value) (tail : List Char) :
    Lexes (writeIndentedItems level items tail) ((rereadItems? items).map itemTokens) tail := by
  match items with
  | [] => exact (lexes_newLine level _).append (lexes_closeArray tail)
  | v :: rest =>
    have first := writeIndented_lexes (level + 1) v _ (follows_items level rest tail)
    have others := writeIndentedItems_lexes level rest tail
    refine ((lexes_comma _).append ((lexes_newLine (level + 1) _).append
      (first.append others))).as ?_
    cases this : v.reread? <;> cases those : rereadItems? rest <;>
      simp [rereadItems?, this, those, itemTokens]

theorem writeIndentedMembers_lexes (level : Nat) (members : List (String × Value))
    (tail : List Char) :
    Lexes (writeIndentedMembers level members tail)
      ((rereadMembers? members).map memberTokens) tail := by
  match members with
  | [] => exact (lexes_newLine level _).append (lexes_closeObject tail)
  | (name, v) :: rest =>
    have first := writeIndented_lexes (level + 1) v _ (follows_members level rest tail)
    have others := writeIndentedMembers_lexes level rest tail
    refine ((lexes_comma _).append ((lexes_newLine (level + 1) _).append
      ((lexes_name _ name).append (first.append others)))).as ?_
    cases this : v.reread? <;> cases those : rereadMembers? rest <;>
      simp [rereadMembers?, this, those, memberTokens]

end

theorem tokens?_indented (v : Value) :
    tokens? (v.writeIndented 0 []) = v.reread?.map tokens := by
  obtain ⟨left, -, lexed⟩ := writeIndented_lexes 0 v [] (Text.startsOutside_nil _) _
    (Nat.le_refl _)
  rw [tokens?, lexed]
  cases v.reread? with
  | none => rfl
  | some w => cases left <;> simp [all?]

end Written

namespace Value

mutual

/-- Objects, at any depth, hold their members sorted by name. -/
def WellFormed : Value → Prop
  | .array items => ItemsWellFormed items
  | .object members => Members.Sorted members ∧ MembersWellFormed members
  | _ => True

def ItemsWellFormed : List Value → Prop
  | [] => True
  | v :: rest => v.WellFormed ∧ ItemsWellFormed rest

def MembersWellFormed : List (String × Value) → Prop
  | [] => True
  | (_, v) :: rest => v.WellFormed ∧ MembersWellFormed rest

end

mutual

/-- The value with the members of its objects, at any depth, in the order of their names and later
ones in the place of earlier ones. -/
def arranged : Value → Value
  | .array items => .array (arrangedItems items)
  | .object members => .object (arrangedInto [] members)
  | .null => .null
  | .bool b => .bool b
  | .number n => .number n
  | .text s => .text s

def arrangedItems : List Value → List Value
  | [] => []
  | v :: rest => v.arranged :: arrangedItems rest

def arrangedInto (done : Members) : List (String × Value) → Members
  | [] => done
  | (name, v) :: rest => arrangedInto (done.insert name v.arranged) rest

end

mutual

theorem arranged_of_wellFormed (v : Value) (formed : v.WellFormed) : v.arranged = v := by
  match v with
  | .null | .bool _ | .number _ | .text _ => rfl
  | .array items => rw [arranged, arrangedItems_of_wellFormed items formed]
  | .object members =>
    rw [arranged, arrangedInto_of_wellFormed [] members formed.1 formed.2, List.nil_append]

theorem arrangedItems_of_wellFormed (items : List Value) (formed : ItemsWellFormed items) :
    arrangedItems items = items := by
  match items with
  | [] => rfl
  | v :: rest =>
    rw [arrangedItems, arranged_of_wellFormed v formed.1, arrangedItems_of_wellFormed rest formed.2]

theorem arrangedInto_of_wellFormed (done : Members) (members : List (String × Value))
    (sorted : Members.Sorted (done ++ members)) (formed : MembersWellFormed members) :
    arrangedInto done members = done ++ members := by
  match members with
  | [] => exact (List.append_nil done).symm
  | (name, v) :: rest =>
    have placed : Members.insert name v done = done ++ [(name, v)] :=
      Members.insert_last fun m member =>
        (List.pairwise_append.mp sorted).2.2 m member (name, v) List.mem_cons_self
    have sorted : Members.Sorted ((done ++ [(name, v)]) ++ rest) := by simpa using sorted
    rw [arrangedInto, arranged_of_wellFormed v formed.1, placed,
      arrangedInto_of_wellFormed _ rest sorted formed.2, List.append_assoc, List.singleton_append]

end

theorem arrangedInto_eq (done : Members) (members : List (String × Value)) :
    arrangedInto done members = (members.map fun m => (m.1, m.2.arranged)).foldl
      (fun members (name, v) => Members.insert name v members) done := by
  induction members generalizing done with
  | nil => rfl
  | cons m rest ih => exact ih _

theorem arranged_object (members : List (String × Value)) :
    (Value.object members).arranged = .record (members.map fun m => (m.1, m.2.arranged)) :=
  congrArg object (arrangedInto_eq [] members)

end Value

namespace Progress

variable {frames : List Frame} {more : List Token}

theorem run?_cons (p : Progress) (token : Token) (rest : List Token) :
    p.run? (token :: rest) = (p.step? token).bind fun q => q.run? rest := rfl

theorem run?_firstItem (v : Value) :
    Progress.run? ⟨.firstItem, frames⟩ (v.tokens ++ more) =
      Progress.run? ⟨.value, frames⟩ (v.tokens ++ more) := by
  match v with
  | .array [] | .array (_ :: _) | .object [] | .object ((_, _) :: _) | .text _ | .null | .bool _
  | .number _ => rfl

theorem limits_join (a b : Nat) (p : Option Progress) :
    (if a ≤ deepest then if b ≤ deepest then p else none else none) =
      if max a b ≤ deepest then p else none := by
  by_cases first : a ≤ deepest
  · by_cases second : b ≤ deepest
    · have both : max a b ≤ deepest := Nat.max_le.mpr ⟨first, second⟩
      simp only [if_pos first, if_pos second, if_pos both]
    · have beyond : ¬ max a b ≤ deepest := fun both => second (Nat.max_le.mp both).2
      simp only [if_pos first, if_neg second, if_neg beyond]
  · have beyond : ¬ max a b ≤ deepest := fun both => first (Nat.max_le.mp both).1
    simp only [if_neg first, if_neg beyond]

mutual

/-- The tokens of a value complete it, if it does not nest too deep where it stands. -/
theorem run?_tokens (v : Value) (frames : List Frame) (more : List Token)
    (open_few : frames.length ≤ deepest) :
    Progress.run? ⟨.value, frames⟩ (v.tokens ++ more) =
      if frames.length + v.depth ≤ deepest then Progress.run? ⟨.after v.arranged, frames⟩ more
      else none := by
  match v with
  | .null | .bool _ | .number _ | .text _ =>
    refine Eq.symm (if_pos ?_)
    exact open_few
  | .array [] =>
    simp only [tokens, List.cons_append, List.nil_append, run?_cons, step?, value?]
    by_cases room : frames.length < deepest
    · have fits : frames.length + (Value.array []).depth ≤ deepest := room
      simp only [if_pos room, if_pos fits, Option.bind_some, arranged, arrangedItems]
    · have deep : ¬ frames.length + (Value.array []).depth ≤ deepest := room
      simp only [if_neg room, if_neg deep, Option.bind_none]
  | .object [] =>
    simp only [tokens, List.cons_append, List.nil_append, run?_cons, step?, value?]
    by_cases room : frames.length < deepest
    · have fits : frames.length + (Value.object []).depth ≤ deepest := room
      simp only [if_pos room, if_pos fits, Option.bind_some, arranged, arrangedInto]
    · have deep : ¬ frames.length + (Value.object []).depth ≤ deepest := room
      simp only [if_neg room, if_neg deep, Option.bind_none]
  | .array (v :: rest) =>
    have total : frames.length + (Value.array (v :: rest)).depth =
        max (frames.length + 1 + v.depth) (frames.length + 1 + itemsDepth rest) := by
      simp only [depth, itemsDepth]
      omega
    simp only [tokens, List.cons_append, List.append_assoc, run?_cons, step?, value?]
    by_cases room : frames.length < deepest
    · have first := run?_tokens v (.items [] :: frames) (itemTokens rest ++ more) room
      rw [run?_itemTokens rest v.arranged [] frames more room] at first
      simp only [if_pos room, Option.bind_some, run?_firstItem]
      rw [first, total]
      exact limits_join _ _ _
    · have deep : ¬ frames.length + (Value.array (v :: rest)).depth ≤ deepest := by omega
      simp only [if_neg room, if_neg deep, Option.bind_none]
  | .object ((name, v) :: rest) =>
    have total : frames.length + (Value.object ((name, v) :: rest)).depth =
        max (frames.length + 1 + v.depth) (frames.length + 1 + membersDepth rest) := by
      simp only [depth, membersDepth]
      omega
    simp only [tokens, List.cons_append, List.append_assoc, run?_cons, step?, value?]
    by_cases room : frames.length < deepest
    · have first := run?_tokens v (.members [] name :: frames) (memberTokens rest ++ more) room
      rw [run?_memberTokens rest v.arranged name [] frames more room] at first
      simp only [if_pos room, Option.bind_some]
      rw [first, total]
      exact limits_join _ _ _
    · have deep : ¬ frames.length + (Value.object ((name, v) :: rest)).depth ≤ deepest := by
        omega
      simp only [if_neg room, if_neg deep, Option.bind_none]

theorem run?_itemTokens (items : List Value) (v : Value) (done : List Value)
    (frames : List Frame) (more : List Token) (room : frames.length < deepest) :
    Progress.run? ⟨.after v, .items done :: frames⟩ (itemTokens items ++ more) =
      if frames.length + 1 + itemsDepth items ≤ deepest then
        Progress.run? ⟨.after (.array (done.reverse ++ v :: arrangedItems items)), frames⟩ more
      else none := by
  match items with
  | [] =>
    have fits : frames.length + 1 + itemsDepth [] ≤ deepest := room
    simp only [itemTokens, if_pos fits, List.cons_append, List.nil_append, run?_cons,
      step?, Option.bind_some, List.reverse_cons, arrangedItems]
  | w :: rest =>
    have total : frames.length + 1 + itemsDepth (w :: rest) =
        max (frames.length + 1 + w.depth) (frames.length + 1 + itemsDepth rest) := by
      simp only [itemsDepth]
      omega
    have first := run?_tokens w (.items (v :: done) :: frames) (itemTokens rest ++ more) room
    rw [run?_itemTokens rest w.arranged (v :: done) frames more room] at first
    simp only [itemTokens, List.cons_append, List.append_assoc, run?_cons, step?,
      Option.bind_some]
    rw [first, total, List.reverse_cons, List.append_assoc]
    exact limits_join _ _ _

theorem run?_memberTokens (members : List (String × Value)) (v : Value) (name : String)
    (done : Members) (frames : List Frame) (more : List Token) (room : frames.length < deepest) :
    Progress.run? ⟨.after v, .members done name :: frames⟩ (memberTokens members ++ more) =
      if frames.length + 1 + membersDepth members ≤ deepest then
        Progress.run? ⟨.after (.object (arrangedInto (done.insert name v) members)), frames⟩ more
      else none := by
  match members with
  | [] =>
    have fits : frames.length + 1 + membersDepth [] ≤ deepest := room
    simp only [memberTokens, if_pos fits, List.cons_append, List.nil_append,
      run?_cons, step?, Option.bind_some, arrangedInto]
  | (other, w) :: rest =>
    have total : frames.length + 1 + membersDepth ((other, w) :: rest) =
        max (frames.length + 1 + w.depth) (frames.length + 1 + membersDepth rest) := by
      simp only [membersDepth]
      omega
    have first := run?_tokens w (.members (done.insert name v) other :: frames)
      (memberTokens rest ++ more) room
    rw [run?_memberTokens rest w.arranged other (done.insert name v) frames more room] at first
    simp only [memberTokens, List.cons_append, List.append_assoc, run?_cons, step?,
      Option.bind_some]
    rw [first, total]
    exact limits_join _ _ _

end

end Progress

namespace Value

mutual

theorem reread?_wellFormed (v w : Value) (formed : v.WellFormed) (read : v.reread? = some w) :
    w.WellFormed := by
  match v with
  | .null | .bool _ | .text _ =>
    cases read
    trivial
  | .number n =>
    simp only [reread?, Option.map_eq_some_iff] at read
    obtain ⟨m, -, same⟩ := read
    subst same
    trivial
  | .array items =>
    simp only [reread?, Option.map_eq_some_iff] at read
    obtain ⟨ws, read, same⟩ := read
    subst same
    exact rereadItems?_wellFormed items ws formed read
  | .object members =>
    simp only [reread?, Option.map_eq_some_iff] at read
    obtain ⟨ws, read, same⟩ := read
    subst same
    obtain ⟨names, inner⟩ := rereadMembers?_wellFormed members ws formed.2 read
    refine ⟨?_, inner⟩
    have sorted := List.pairwise_map.mpr formed.1
    exact List.pairwise_map.mp (names ▸ sorted)

theorem rereadItems?_wellFormed (items ws : List Value) (formed : ItemsWellFormed items)
    (read : rereadItems? items = some ws) : ItemsWellFormed ws := by
  match items with
  | [] =>
    cases read
    trivial
  | v :: rest =>
    simp only [rereadItems?, Option.bind_eq_some_iff, Option.map_eq_some_iff] at read
    obtain ⟨w, first, others, later, same⟩ := read
    subst same
    exact ⟨reread?_wellFormed v w formed.1 first,
      rereadItems?_wellFormed rest others formed.2 later⟩

theorem rereadMembers?_wellFormed (members ws : List (String × Value))
    (formed : MembersWellFormed members) (read : rereadMembers? members = some ws) :
    ws.map Prod.fst = members.map Prod.fst ∧ MembersWellFormed ws := by
  match members with
  | [] =>
    cases read
    exact ⟨rfl, trivial⟩
  | (name, v) :: rest =>
    simp only [rereadMembers?, Option.bind_eq_some_iff, Option.map_eq_some_iff] at read
    obtain ⟨w, first, others, later, same⟩ := read
    subst same
    obtain ⟨names, inner⟩ := rereadMembers?_wellFormed rest others formed.2 later
    exact ⟨congrArg (name :: ·) names, reread?_wellFormed v w formed.1 first, inner⟩

end

/-- The indented text of a value reads back as the value reread and arranged, unless it nests too
deep. -/
theorem parse?_indented_arranged (v : Value) :
    parse? v.indented = v.reread?.bind fun w =>
      if w.depth ≤ Progress.deepest then some w.arranged else none := by
  rw [parse?, ofChars?, indented, String.toList_ofList, tokens?_indented]
  cases read : v.reread? with
  | none => rfl
  | some w =>
    have finished := Progress.run?_tokens w [] [] (Nat.zero_le _)
    simp only [Option.map_some, Option.bind_eq_bind, Option.bind_some, Progress.start]
    rw [List.append_nil] at finished
    rw [finished, List.length_nil, Nat.zero_add]
    split <;> rfl

theorem parse?_indented (v : Value) (formed : v.WellFormed) :
    parse? v.indented =
      v.reread?.bind fun w => if w.depth ≤ Progress.deepest then some w else none := by
  rw [parse?_indented_arranged]
  cases read : v.reread? with
  | none => rfl
  | some w =>
    rw [Option.bind_some, Option.bind_some,
      arranged_of_wellFormed w (reread?_wellFormed v w formed read)]

end Value

end Catalog.Json
