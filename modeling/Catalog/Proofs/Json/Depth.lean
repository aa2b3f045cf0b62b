import Catalog.Proofs.Json.Parsed

/-!
How deep values nest that were read. The reader counts what is open, and what it holds never
reaches deeper than the count allows, so every value that a text spells is within the limit.
-/
namespace Catalog.Json

namespace Value

variable {k : Nat} {v : Value} {items : List Value} {members : List (String × Value)}

theorem itemsDepth_le : itemsDepth items ≤ k ↔ ∀ v ∈ items, v.depth ≤ k := by
  induction items with
  | nil => simp [itemsDepth]
  | cons v items ih => simp [itemsDepth, ih]

theorem membersDepth_le : membersDepth members ≤ k ↔ ∀ m ∈ members, m.2.depth ≤ k := by
  induction members with
  | nil => simp [membersDepth]
  | cons m members ih => simp [membersDepth, ih]

theorem depth_le_of_mem (member : v ∈ items) : v.depth ≤ itemsDepth items :=
  itemsDepth_le.mp (Nat.le_refl _) v member

theorem itemsDepth_lt (positive : 0 < k) (each : ∀ v ∈ items, v.depth < k) : itemsDepth items < k := by
  induction items with
  | nil => exact positive
  | cons v items ih =>
    obtain ⟨first, rest⟩ := List.forall_mem_cons.mp each
    exact Nat.max_lt.mpr ⟨first, ih rest⟩

theorem itemsDepth_reverse_le (items : List Value) : itemsDepth items.reverse ≤ itemsDepth items := by
  apply itemsDepth_le.mpr
  intro v member
  exact depth_le_of_mem (List.mem_reverse.mp member)

theorem membersDepth_insert_le (name : String) (v : Value) (members : Members) :
    membersDepth (members.insert name v) ≤ max v.depth (membersDepth members) := by
  apply membersDepth_le.mpr
  intro m member
  rcases Members.mem_insert member with new | old
  · rw [new]
    exact Nat.le_max_left _ _
  · exact (membersDepth_le.mp (Nat.le_refl _) m old).trans (Nat.le_max_right _ _)

end Value

namespace Token

/-- The token is nothing with an inside. -/
def Flat : Token → Prop
  | .scalar v => v.depth = 0
  | _ => True

theorem flat_of_next? {fuel : Nat} {c : Char} {cs rest : List Char} {token : Token}
    (read : next? fuel c cs = some (token, rest)) : token.Flat := by
  unfold next? at read
  split at read
  all_goals
    simp only [Option.map_eq_some_iff, Option.some.injEq, Prod.mk.injEq] at read
  all_goals first
    | (obtain ⟨same, -⟩ := read; subst same; trivial)
    | (obtain ⟨_, -, same, -⟩ := read; subst same; trivial)

end Token

/-- How deep that nests which is held so far. -/
def Frame.depth : Frame → Nat
  | .items done => Value.itemsDepth done
  | .members done _ => Value.membersDepth done

def Expect.depth : Expect → Nat
  | .firstName done | .name done => Value.membersDepth done + 1
  | .after v => v.depth
  | _ => 0

namespace Progress

/-- What each open array or object holds has room inside it and all around it. -/
def FramesFit : List Frame → Prop
  | [] => True
  | frame :: outer => outer.length + 1 + frame.depth ≤ deepest ∧ FramesFit outer

structure Fits (p : Progress) : Prop where
  expect : p.frames.length + p.expect.depth ≤ deepest
  frames : FramesFit p.frames

theorem fits_start : start.Fits := ⟨Nat.zero_le _, trivial⟩

theorem Fits.step? {p q : Progress} {token : Token} (fits : p.Fits) (flat : token.Flat)
    (stepped : p.step? token = some q) : q.Fits := by
  obtain ⟨known, held⟩ := fits
  cases moves_of_step? stepped with
  | scalar =>
    have flat : Value.depth _ = 0 := flat
    refine ⟨?_, held⟩
    simp only [Expect.depth, flat]
    exact (Nat.le_add_right _ _).trans known
  | text => exact ⟨(Nat.le_add_right _ _).trans known, held⟩
  | openArray _ room => exact ⟨room, room, held⟩
  | openObject _ room => exact ⟨room, held⟩
  | emptyArray =>
    refine ⟨?_, held.2⟩
    simp only [List.length_cons] at known
    simp only [Expect.depth, Value.depth, Value.itemsDepth]
    omega
  | emptyObject => exact ⟨known, held⟩
  | firstName | name =>
    simp only [Expect.depth] at known
    refine ⟨?_, ?_, held⟩
    · simp only [List.length_cons, Expect.depth]
      omega
    · simp only [Frame.depth]
      omega
  | colon => exact ⟨known, held⟩
  | @nextItem v done frames =>
    obtain ⟨room, outer⟩ := held
    simp only [List.length_cons, Expect.depth] at known
    simp only [Frame.depth] at room
    refine ⟨?_, ?_, outer⟩
    · simp only [List.length_cons, Expect.depth]
      omega
    · simp only [Frame.depth, Value.itemsDepth]
      omega
  | @nextMember v done name frames =>
    obtain ⟨room, outer⟩ := held
    simp only [List.length_cons, Expect.depth] at known
    simp only [Frame.depth] at room
    have inserted := Value.membersDepth_insert_le name v done
    refine ⟨?_, outer⟩
    simp only [Expect.depth]
    omega
  -- What is closed is one level deeper than what it held, with one frame less around it.
  | @closeArray v done frames =>
    obtain ⟨room, outer⟩ := held
    simp only [List.length_cons, Expect.depth] at known
    simp only [Frame.depth] at room
    have turned := Value.itemsDepth_reverse_le (v :: done)
    simp only [Value.itemsDepth] at turned
    refine ⟨?_, outer⟩
    simp only [Expect.depth, Value.depth]
    omega
  | @closeObject v done name frames =>
    obtain ⟨room, outer⟩ := held
    simp only [List.length_cons, Expect.depth] at known
    simp only [Frame.depth] at room
    have inserted := Value.membersDepth_insert_le name v done
    refine ⟨?_, outer⟩
    simp only [Expect.depth, Value.depth]
    omega

theorem Fits.run? {tokens : List Token} {p q : Progress} (fits : p.Fits)
    (flat : ∀ token ∈ tokens, token.Flat) (ran : p.run? tokens = some q) : q.Fits := by
  induction tokens generalizing p with
  | nil =>
    cases ran
    exact fits
  | cons token tokens ih =>
    rw [run?_cons, Option.bind_eq_some_iff] at ran
    obtain ⟨next, stepped, rest⟩ := ran
    obtain ⟨first, later⟩ := List.forall_mem_cons.mp flat
    exact ih (fits.step? first stepped) later rest

end Progress

/-- No value that a text spells nests deeper than the reader allows. -/
theorem Value.depth_of_parse? {s : String} {v : Value} (read : parse? s = some v) :
    v.depth ≤ Progress.deepest := by
  simp only [parse?, ofChars?, Option.bind_eq_bind, Option.bind_eq_some_iff] at read
  obtain ⟨tokens, lexed, progress, ran, finished⟩ := read
  have fits := Progress.fits_start.run? (Token.forall_of_all? Token.flat_of_next? lexed) ran
  unfold Progress.finished? at finished
  split at finished
  · rename_i same none
    cases finished
    have known := fits.expect
    rw [same, none] at known
    simpa [Expect.depth] using known
  · cases finished

end Catalog.Json
