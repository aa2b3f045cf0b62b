import Catalog.Store.Rewrite

/-!
Rewriting a collection file is all or nothing. No step before the last one touches the file, and the
last one puts the whole text there; so a failure, or a stop at any moment, leaves the old text or
the new one.
-/
namespace Catalog.Store

open Json

variable {weather : Weather} {text : String} {desk : Desk} {file : File} {docs : List Value}
  {steps : List Step} {step : Step}

namespace Step

theorem done_file (early : step ≠ .rename) : (step.done text desk).file = desk.file := by
  cases step with
  | rename => exact absurd rfl early
  | makeDirectory | openDraft | fill | flush | sync => rfl

theorem cut_file (part : String) (step : Step) (desk : Desk) :
    (step.cut part desk).file = desk.file := by
  cases step <;> rfl

/-- The states that some steps lead through, those after a refusal included. -/
def moments (text part : String) : List Step → Desk → List Desk
  | [], desk => [desk]
  | step :: rest, desk => desk :: step.cut part desk :: moments text part rest (step.done text desk)

theorem mem_moments_file (part : String) (early : ∀ step ∈ steps, step ≠ .rename) :
    ∀ seen ∈ moments text part steps desk, seen.file = desk.file := by
  induction steps generalizing desk with
  | nil =>
    intro seen member
    rw [List.mem_singleton.mp member]
  | cons step steps ih =>
    obtain ⟨first, rest⟩ := List.forall_mem_cons.mp early
    intro seen member
    rcases List.mem_cons.mp member with here | member
    · rw [here]
    rcases List.mem_cons.mp member with refused | later
    · rw [refused, cut_file]
    · rw [ih rest seen later, done_file first]

theorem mem_moments_append {first second : List Step} {part : String} {seen : Desk}
    (member : seen ∈ moments text part (first ++ second) desk) :
    seen ∈ moments text part first desk ∨
      seen ∈ moments text part second (first.foldl (fun desk step => step.done text desk) desk) := by
  induction first generalizing desk with
  | nil => exact .inr member
  | cons step first ih =>
    rcases List.mem_cons.mp member with here | member
    · exact .inl (here ▸ List.mem_cons_self)
    rcases List.mem_cons.mp member with refused | later
    · exact .inl (refused ▸ List.mem_cons_of_mem _ List.mem_cons_self)
    · exact (ih later).imp_left fun found => List.mem_cons_of_mem _ (List.mem_cons_of_mem _ found)

theorem preparing_early : ∀ step ∈ preparing, step ≠ .rename := by
  decide

theorem done_preparing (file : File) :
    preparing.foldl (fun desk step => step.done text desk) ⟨file, none⟩ = ⟨file, some text⟩ := rfl

/-- Wherever a rewrite stops, the file holds the old text or the whole new one. -/
theorem moments_old_or_new (part : String) :
    ∀ seen ∈ moments (File.textOf docs) part all ⟨file, none⟩,
      seen.file = file ∨ seen.file = file.store docs := by
  intro seen member
  rcases mem_moments_append member with early | late
  · exact .inl (mem_moments_file part preparing_early seen early)
  · rw [done_preparing] at late
    rcases List.mem_cons.mp late with before | late
    · exact .inl (congrArg Desk.file before)
    rcases List.mem_cons.mp late with refused | renamed
    · exact .inl (congrArg Desk.file refused)
    · exact .inr (congrArg Desk.file (List.mem_singleton.mp renamed))

end Step

namespace Weather

theorem rewrite_append (first second : List Step) :
    weather.rewrite text (first ++ second) desk =
      match weather.rewrite text first desk with
      | (.ok (), after) => weather.rewrite text second after
      | (.error fault, after) => (.error fault, after) := by
  induction first generalizing desk with
  | nil => rfl
  | cons step first ih =>
    simp only [List.cons_append, rewrite]
    split
    · rfl
    · exact ih

theorem rewrite_mem_moments (weather : Weather) (text : String) (steps : List Step) (desk : Desk) :
    (weather.rewrite text steps desk).2 ∈ Step.moments text weather.part steps desk := by
  induction steps generalizing desk with
  | nil => exact List.mem_cons_self
  | cons step steps ih =>
    unfold rewrite
    split
    · exact List.mem_cons_of_mem _ List.mem_cons_self
    · exact List.mem_cons_of_mem _ (List.mem_cons_of_mem _ (ih _))

theorem rewrite_ok {after : Desk} (taken : weather.rewrite text steps desk = (.ok (), after)) :
    after = steps.foldl (fun desk step => step.done text desk) desk := by
  induction steps generalizing desk with
  | nil =>
    cases taken
    rfl
  | cons step steps ih =>
    unfold rewrite at taken
    split at taken
    · cases taken
    · exact ih taken

theorem rewrite_preparing (file : File) :
    weather.rewrite text Step.preparing ⟨file, none⟩ = (.ok (), ⟨file, some text⟩) ∨
      ∃ fault after, weather.rewrite text Step.preparing ⟨file, none⟩ = (.error fault, after) ∧
        after.file = file := by
  have untouched := Step.mem_moments_file weather.part Step.preparing_early _
    (weather.rewrite_mem_moments text Step.preparing ⟨file, none⟩)
  cases taken : weather.rewrite text Step.preparing ⟨file, none⟩ with
  | mk result after =>
    rw [taken] at untouched
    cases result with
    | error fault => exact .inr ⟨fault, after, rfl, untouched⟩
    | ok =>
      have whole := (rewrite_ok taken).trans (Step.done_preparing file)
      exact .inl (congrArg (Prod.mk _) whole)

end Weather

namespace File

theorem persist_cases (weather : Weather) (docs : List Value) (file : File) :
    file.persist weather docs = (.ok (), ⟨file.store docs, none⟩) ∨
      ∃ fault desk, file.persist weather docs = (.error fault, desk) ∧ desk.file = file := by
  have cleared : ∀ desk, (weather.cleared desk).file = desk.file := by
    intro desk
    unfold Weather.cleared
    split <;> rfl
  unfold persist Step.all
  rw [Weather.rewrite_append]
  rcases weather.rewrite_preparing file with prepared | ⟨fault, after, failed, same⟩
  · rw [prepared]
    cases refused : weather.refused .rename with
    | none =>
      simp only [Weather.rewrite, refused]
      exact .inl rfl
    | some cause =>
      simp only [Weather.rewrite, refused]
      exact .inr ⟨_, _, rfl, cleared _⟩
  · rw [failed]
    exact .inr ⟨fault, _, rfl, (cleared after).trans same⟩

theorem persist_calm (docs : List Value) (file : File) :
    file.persist .calm docs = (.ok (), ⟨file.store docs, none⟩) := rfl

theorem answerUnder_calm (moment : Moment) (request : Request α) (file : File) :
    file.answerUnder .calm moment request = file.answer moment request := by
  have reads : file.loadUnder .calm = file.load := rfl
  unfold answerUnder answer
  rw [reads]
  cases Collection.refusal? request with
  | some fault => rfl
  | none =>
    cases file.load with
    | error fault => rfl
    | ok docs =>
      cases answered : Collection.answer moment request docs with
      | error fault => simp only [answered]
      | ok pair =>
        obtain ⟨a, written⟩ := pair
        cases written with
        | none => simp only [answered]
        | some docs => simp only [answered, persist_calm]

/-- The weather can only turn a request into one that fails and leaves the file. -/
theorem answerUnder_cases (weather : Weather) (moment : Moment) (request : Request α)
    (file : File) :
    file.answerUnder weather moment request = file.answer moment request ∨
      ∃ fault, file.answerUnder weather moment request = (.error fault, file) := by
  unfold answerUnder answer loadUnder
  cases Collection.refusal? request with
  | some fault => exact .inl rfl
  | none =>
    cases weather.reading with
    | some message => exact .inr ⟨_, rfl⟩
    | none =>
      cases file.load with
      | error fault => exact .inl rfl
      | ok docs =>
        cases answered : Collection.answer moment request docs with
        | error fault => simp only [answered, true_or]
        | ok pair =>
          obtain ⟨a, written⟩ := pair
          cases written with
          | none => simp only [answered, true_or]
          | some docs =>
            simp only [answered]
            rcases file.persist_cases weather docs with stored | ⟨fault, desk, failed, same⟩
            · exact .inl (by simp only [stored])
            · exact .inr ⟨fault, by simp only [failed, same]⟩

end File

end Catalog.Store
