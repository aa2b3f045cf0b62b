import Catalog.Proofs.Json.RoundTrip

/-!
What the reader builds is well formed: members are set one at a time, so objects come out sorted
whatever order a text has them in.
-/
namespace Catalog.Json

namespace Value

theorem itemsWellFormed_iff (items : List Value) :
    ItemsWellFormed items ↔ ∀ v ∈ items, v.WellFormed := by
  induction items with
  | nil => simp [ItemsWellFormed]
  | cons v items ih => simp [ItemsWellFormed, ih]

theorem membersWellFormed_iff (members : List (String × Value)) :
    MembersWellFormed members ↔ ∀ m ∈ members, m.2.WellFormed := by
  induction members with
  | nil => simp [MembersWellFormed]
  | cons m members ih => simp [MembersWellFormed, ih]

end Value

/-- Members in order, with well-formed values. -/
def Members.Formed (members : Members) : Prop :=
  Members.Sorted members ∧ ∀ m ∈ members, m.2.WellFormed

theorem Members.Formed.object {members : Members} (formed : members.Formed) :
    (Value.object members).WellFormed :=
  ⟨formed.1, (Value.membersWellFormed_iff members).mpr formed.2⟩

theorem Value.WellFormed.members {members : Members} (formed : (Value.object members).WellFormed) :
    members.Formed :=
  ⟨formed.1, (Value.membersWellFormed_iff members).mp formed.2⟩

theorem Members.formed_nil : Members.Formed [] := ⟨List.Pairwise.nil, fun _ member => nomatch member⟩

theorem Members.Formed.insert {members : Members} (formed : members.Formed) (name : String)
    {v : Value} (value : v.WellFormed) : (Members.insert name v members).Formed := by
  refine ⟨Members.sorted_insert formed.1, fun m member => ?_⟩
  rcases Members.mem_insert member with new | old
  · exact new ▸ value
  · exact formed.2 m old

namespace Token

/-- The token holds nothing that an object could be hidden in. -/
def Plain : Token → Prop
  | .scalar v => v.WellFormed
  | _ => True

theorem plain_of_next? {fuel : Nat} {c : Char} {cs rest : List Char} {token : Token}
    (read : next? fuel c cs = some (token, rest)) : token.Plain := by
  unfold next? at read
  split at read
  all_goals
    simp only [Option.map_eq_some_iff, Option.some.injEq, Prod.mk.injEq] at read
  all_goals first
    | (obtain ⟨same, -⟩ := read; subst same; trivial)
    | (obtain ⟨_, -, same, -⟩ := read; subst same; trivial)

/-- What holds of every token read alone holds of all the tokens of a text. -/
theorem forall_of_all? {P : Token → Prop} {fuel : Nat} {cs : List Char} {tokens : List Token}
    (each : ∀ {fuel c cs rest token}, next? fuel c cs = some (token, rest) → P token)
    (read : all? fuel cs = some tokens) : ∀ token ∈ tokens, P token := by
  induction fuel generalizing cs tokens with
  | zero =>
    cases cs with
    | nil =>
      cases read
      exact fun _ member => nomatch member
    | cons => cases read
  | succ fuel ih =>
    cases cs with
    | nil =>
      cases read
      exact fun _ member => nomatch member
    | cons c cs =>
      simp only [all?] at read
      split at read
      · exact ih read
      · simp only [Option.bind_eq_bind, Option.bind_eq_some_iff] at read
        obtain ⟨⟨token, rest⟩, next, more, later, same⟩ := read
        cases same
        intro t member
        rcases List.mem_cons.mp member with here | there
        · exact here ▸ each next
        · exact ih later t there

theorem plain_of_all? {fuel : Nat} {cs : List Char} {tokens : List Token}
    (read : all? fuel cs = some tokens) : ∀ token ∈ tokens, token.Plain :=
  forall_of_all? plain_of_next? read

end Token

/-- What is held so far is well formed. -/
def Frame.Formed : Frame → Prop
  | .items done => ∀ v ∈ done, v.WellFormed
  | .members done _ => done.Formed

def Expect.Formed : Expect → Prop
  | .firstName done | .name done => done.Formed
  | .after v => v.WellFormed
  | _ => True

namespace Progress

/-- What one token can do, by what was expected. -/
inductive Moves : Progress → Token → Progress → Prop
  | scalar {expect frames v} (ready : expect = .value ∨ expect = .firstItem) :
    Moves ⟨expect, frames⟩ (.scalar v) ⟨.after v, frames⟩
  | text {expect frames s} (ready : expect = .value ∨ expect = .firstItem) :
    Moves ⟨expect, frames⟩ (.text s) ⟨.after (.text s), frames⟩
  | openArray {expect frames} (ready : expect = .value ∨ expect = .firstItem)
    (room : frames.length < deepest) :
    Moves ⟨expect, frames⟩ .openArray ⟨.firstItem, .items [] :: frames⟩
  | openObject {expect frames} (ready : expect = .value ∨ expect = .firstItem)
    (room : frames.length < deepest) :
    Moves ⟨expect, frames⟩ .openObject ⟨.firstName [], frames⟩
  | emptyArray {done frames} :
    Moves ⟨.firstItem, .items done :: frames⟩ .closeArray ⟨.after (.array []), frames⟩
  | emptyObject {done frames} :
    Moves ⟨.firstName done, frames⟩ .closeObject ⟨.after (.object done), frames⟩
  | firstName {done frames s} :
    Moves ⟨.firstName done, frames⟩ (.text s) ⟨.colon, .members done s :: frames⟩
  | name {done frames s} :
    Moves ⟨.name done, frames⟩ (.text s) ⟨.colon, .members done s :: frames⟩
  | colon {frames} : Moves ⟨.colon, frames⟩ .colon ⟨.value, frames⟩
  | nextItem {v done frames} :
    Moves ⟨.after v, .items done :: frames⟩ .comma ⟨.value, .items (v :: done) :: frames⟩
  | nextMember {v done name frames} :
    Moves ⟨.after v, .members done name :: frames⟩ .comma ⟨.name (done.insert name v), frames⟩
  | closeArray {v done frames} :
    Moves ⟨.after v, .items done :: frames⟩ .closeArray ⟨.after (.array (v :: done).reverse), frames⟩
  | closeObject {v done name frames} :
    Moves ⟨.after v, .members done name :: frames⟩ .closeObject
      ⟨.after (.object (done.insert name v)), frames⟩

theorem moves_of_value? {p q : Progress} {token : Token}
    (ready : p.expect = .value ∨ p.expect = .firstItem) (stepped : p.value? token = some q) :
    Moves p token q := by
  obtain ⟨expect, frames⟩ := p
  unfold Progress.value? at stepped
  split at stepped
  · cases stepped
    exact .scalar ready
  · cases stepped
    exact .text ready
  · split at stepped
    · cases stepped
      exact .openArray ready ‹_›
    · cases stepped
  · split at stepped
    · cases stepped
      exact .openObject ready ‹_›
    · cases stepped
  · cases stepped

theorem moves_of_step? {p q : Progress} {token : Token} (stepped : p.step? token = some q) :
    Moves p token q := by
  obtain ⟨expect, frames⟩ := p
  unfold Progress.step? at stepped
  split at stepped
  case h_1 same => exact moves_of_value? (.inl same) stepped
  case h_3 same _ => exact moves_of_value? (.inr same) stepped
  case h_11 => cases stepped
  all_goals
    rename_i same
    change expect = _ at same
    subst same
  case h_2 | h_8 | h_9 | h_10 =>
    split at stepped <;> rename_i opened <;> cases stepped <;> change frames = _ at opened <;>
      subst opened <;> constructor
  all_goals
    cases stepped
    constructor

structure Formed (p : Progress) : Prop where
  expect : p.expect.Formed
  frames : ∀ frame ∈ p.frames, frame.Formed

theorem formed_start : start.Formed := ⟨trivial, fun _ member => nomatch member⟩

theorem Formed.step? {p q : Progress} {token : Token} (formed : p.Formed) (plain : token.Plain)
    (stepped : p.step? token = some q) : q.Formed := by
  obtain ⟨known, held⟩ := formed
  cases moves_of_step? stepped with
  | scalar | text => exact ⟨plain, held⟩
  | openArray =>
    exact ⟨trivial, List.forall_mem_cons.mpr ⟨fun _ member => (nomatch member), held⟩⟩
  | openObject => exact ⟨Members.formed_nil, held⟩
  | emptyArray => exact ⟨trivial, (List.forall_mem_cons.mp held).2⟩
  | emptyObject => exact ⟨Members.Formed.object known, held⟩
  | firstName | name => exact ⟨trivial, List.forall_mem_cons.mpr ⟨known, held⟩⟩
  | colon => exact ⟨trivial, held⟩
  | nextItem =>
    obtain ⟨done, outer⟩ := List.forall_mem_cons.mp held
    exact ⟨trivial, List.forall_mem_cons.mpr ⟨List.forall_mem_cons.mpr ⟨known, done⟩, outer⟩⟩
  | nextMember =>
    obtain ⟨done, outer⟩ := List.forall_mem_cons.mp held
    exact ⟨Members.Formed.insert done _ known, outer⟩
  | closeArray =>
    obtain ⟨done, outer⟩ := List.forall_mem_cons.mp held
    refine ⟨(Value.itemsWellFormed_iff _).mpr ?_, outer⟩
    intro w member
    rcases List.mem_cons.mp (List.mem_reverse.mp member) with here | there
    · exact here ▸ known
    · exact done w there
  | closeObject =>
    obtain ⟨done, outer⟩ := List.forall_mem_cons.mp held
    exact ⟨(Members.Formed.insert done _ known).object, outer⟩

theorem Formed.run? {tokens : List Token} {p q : Progress} (formed : p.Formed)
    (plain : ∀ token ∈ tokens, token.Plain) (ran : p.run? tokens = some q) : q.Formed := by
  induction tokens generalizing p with
  | nil =>
    cases ran
    exact formed
  | cons token tokens ih =>
    rw [run?_cons, Option.bind_eq_some_iff] at ran
    obtain ⟨next, stepped, rest⟩ := ran
    have first := formed.step? (plain token List.mem_cons_self) stepped
    exact ih first (fun t member => plain t (List.mem_cons_of_mem _ member)) rest

end Progress

theorem Value.wellFormed_of_parse? {s : String} {v : Value} (read : parse? s = some v) :
    v.WellFormed := by
  simp only [parse?, ofChars?, Option.bind_eq_bind, Option.bind_eq_some_iff] at read
  obtain ⟨tokens, lexed, progress, ran, finished⟩ := read
  have formed := Progress.formed_start.run? (Token.plain_of_all? lexed) ran
  unfold Progress.finished? at finished
  split at finished
  · rename_i same _
    cases finished
    have known := formed.expect
    rw [same] at known
    exact known
  · cases finished

end Catalog.Json
