import Mathlib.Data.List.TakeWhile
import Catalog.Text.Blank
import Catalog.Text.Digits

/-!
Blanks around a text. Trimming keeps what stands between solid ends, and where there are no blanks
nothing is trimmed. Main statement: a text trims to what it pads, whatever the blanks.
-/
namespace Catalog.Text

variable {c : Char} {cs text before after : List Char}

theorem mem_of_mem_dropBlank (member : c ∈ dropBlank cs) : c ∈ cs := by
  induction cs with
  | nil => exact member
  | cons first rest ih =>
    simp only [dropBlank] at member
    split at member
    · exact List.mem_cons_of_mem _ (ih member)
    · exact member

theorem mem_of_mem_trimmed (member : c ∈ trimmed cs) : c ∈ cs := by
  have kept : c ∈ dropBlank (dropBlank cs).reverse := by simpa [trimmed, trimEnd] using member
  exact mem_of_mem_dropBlank (by simpa using mem_of_mem_dropBlank kept)

theorem not_blank_of_digit (digit : isDigit c = true) : isBlank c = false := by
  simp only [isDigit, Bool.and_eq_true, decide_eq_true_eq, Char.le_def] at digit
  have low : 48 ≤ c.toNat := digit.1
  have high : c.toNat ≤ 57 := digit.2
  simp [isBlank]
  omega

theorem trimmed_of_solid_ends {first last : Char} (begins : isBlank first = false)
    (ends : isBlank last = false) (middle : List Char) :
    trimmed (first :: (middle ++ [last])) = first :: (middle ++ [last]) := by
  simp [trimmed, trimEnd, dropBlank, begins, ends]

theorem filter_dropBlank (cs : List Char) :
    (dropBlank cs).filter (fun c => !isBlank c) = cs.filter fun c => !isBlank c := by
  induction cs with
  | nil => rfl
  | cons c cs ih =>
    simp only [dropBlank]
    split
    · rename_i blank
      rw [ih, List.filter_cons_of_neg (by simp [blank])]
    · rfl

theorem filter_trimmed (cs : List Char) :
    (trimmed cs).filter (fun c => !isBlank c) = cs.filter fun c => !isBlank c := by
  simp [trimmed, trimEnd, List.filter_reverse, filter_dropBlank]

theorem trimmed_eq_filter (solid : ∀ c ∈ trimmed cs, isBlank c = false) :
    trimmed cs = cs.filter fun c => !isBlank c := by
  rw [← filter_trimmed, List.filter_eq_self.mpr fun c member => by simp [solid c member]]

theorem trimmed_of_solid (solid : ∀ c ∈ cs, isBlank c = false) : trimmed cs = cs := by
  rw [trimmed_eq_filter fun c member => solid c (mem_of_mem_trimmed member)]
  exact List.filter_eq_self.mpr fun c member => by simp [solid c member]

/-! Texts and the blanks around them -/

/-- Nothing but blanks. -/
def Blank (cs : List Char) : Prop := ∀ c ∈ cs, isBlank c = true

/-- The text is `cs` with any blanks before and after it. -/
def Padded (cs text : List Char) : Prop :=
  ∃ before after, Blank before ∧ Blank after ∧ text = before ++ cs ++ after

/-- No blank stands at either end. -/
structure Trimmed (cs : List Char) : Prop where
  begins : ∀ c ∈ cs.head?, isBlank c = false
  ends : ∀ c ∈ cs.getLast?, isBlank c = false

instance (cs : List Char) : Decidable (Blank cs) := List.decidableBAll _ cs

instance (cs : List Char) : Decidable (Trimmed cs) :=
  decidable_of_iff
    ((cs.head?.all fun c => !isBlank c) = true ∧ (cs.getLast?.all fun c => !isBlank c) = true)
    ⟨fun ends => ⟨by simpa [Option.all_eq_true] using ends.1, by simpa [Option.all_eq_true] using
      ends.2⟩, fun trimmed => by simpa [Option.all_eq_true] using ⟨trimmed.begins, trimmed.ends⟩⟩

theorem Blank.append (first : Blank before) (second : Blank after) : Blank (before ++ after) :=
  List.forall_mem_append.mpr ⟨first, second⟩

theorem dropBlank_eq (cs : List Char) : dropBlank cs = cs.dropWhile isBlank := by
  induction cs with
  | nil => rfl
  | cons c cs ih => rw [dropBlank, List.dropWhile_cons, ih]

theorem dropBlank_append (blank : Blank before) (cs : List Char) :
    dropBlank (before ++ cs) = dropBlank cs := by
  rw [dropBlank_eq, dropBlank_eq, List.dropWhile_append_of_pos blank]

theorem dropBlank_of_begins (begins : ∀ c ∈ cs.head?, isBlank c = false) : dropBlank cs = cs := by
  cases cs with
  | nil => rfl
  | cons c cs => simp [dropBlank, begins c rfl]

theorem Padded.behind (padded : Padded cs text) (blank : Blank before) :
    Padded cs (before ++ text) := by
  obtain ⟨front, back, blank_front, blank_back, rfl⟩ := padded
  exact ⟨before ++ front, back, blank.append blank_front, blank_back,
    by simp only [List.append_assoc]⟩

theorem Padded.ahead (padded : Padded cs text) (blank : Blank after) :
    Padded cs (text ++ after) := by
  obtain ⟨front, back, blank_front, blank_back, rfl⟩ := padded
  exact ⟨front, back ++ after, blank_front, blank_back.append blank,
    by simp only [List.append_assoc]⟩

theorem Padded.not_mem (padded : Padded cs text) (solid : isBlank c = false) (out : c ∉ cs) :
    c ∉ text := by
  obtain ⟨front, back, blank_front, blank_back, rfl⟩ := padded
  intro member
  simp only [List.append_assoc, List.mem_append] at member
  rcases member with inside | inside | inside
  · simp [blank_front c inside] at solid
  · exact out inside
  · simp [blank_back c inside] at solid

/-- Only the ends of a text matter, not what stands between them. -/
theorem Trimmed.join (first : Trimmed before) (last : Trimmed after) (some : before ≠ [])
    (more : after ≠ []) (middle : List Char) : Trimmed (before ++ middle ++ after) := by
  constructor
  · intro c front
    rw [List.append_assoc, List.head?_append, List.head?_eq_some_head some] at front
    exact first.begins c (List.head?_eq_some_head some ▸ front)
  · intro c back
    rw [List.getLast?_append, List.getLast?_eq_some_getLast more] at back
    exact last.ends c (List.getLast?_eq_some_getLast more ▸ back)

theorem padded_trimmed (cs : List Char) : Padded (trimmed cs) cs := by
  have front : cs.takeWhile isBlank ++ dropBlank cs = cs := by
    rw [dropBlank_eq, List.takeWhile_append_dropWhile]
  have back : trimmed cs ++ ((dropBlank cs).reverse.takeWhile isBlank).reverse = dropBlank cs := by
    rw [trimmed, trimEnd, dropBlank_eq (dropBlank cs).reverse, ← List.reverse_append,
      List.takeWhile_append_dropWhile, List.reverse_reverse]
  refine ⟨cs.takeWhile isBlank, ((dropBlank cs).reverse.takeWhile isBlank).reverse, ?_, ?_, ?_⟩
  · intro c member
    exact List.mem_takeWhile_imp member
  · intro c member
    exact List.mem_takeWhile_imp (List.mem_reverse.mp member)
  · rw [List.append_assoc, back, front]

theorem trimmed_of_padded (padded : Padded cs text) (solid : Trimmed cs) : trimmed text = cs := by
  obtain ⟨before, after, blank_before, blank_after, rfl⟩ := padded
  rw [trimmed, List.append_assoc, dropBlank_append blank_before]
  cases cs with
  | nil =>
    have nothing : dropBlank after = [] := by
      rw [dropBlank_eq]
      exact List.dropWhile_eq_nil_iff.mpr blank_after
    rw [List.nil_append, nothing]
    rfl
  | cons c cs =>
    have front : dropBlank (c :: cs ++ after) = c :: cs ++ after := dropBlank_of_begins solid.begins
    have back : dropBlank (c :: cs).reverse = (c :: cs).reverse := by
      apply dropBlank_of_begins
      rw [List.head?_reverse]
      exact solid.ends
    have blank : Blank after.reverse := fun c member => blank_after c (List.mem_reverse.mp member)
    rw [front, trimEnd, List.reverse_append, dropBlank_append blank, back, List.reverse_reverse]

theorem trimmed_eq_nil_iff (cs : List Char) : trimmed cs = [] ↔ Blank cs := by
  constructor
  · intro nothing
    obtain ⟨before, after, blank_before, blank_after, whole⟩ := padded_trimmed cs
    rw [whole, nothing, List.append_nil]
    exact blank_before.append blank_after
  · intro blank
    exact trimmed_of_padded ⟨cs, [], blank, List.forall_mem_nil _, by simp⟩ ⟨by simp, by simp⟩

end Catalog.Text
