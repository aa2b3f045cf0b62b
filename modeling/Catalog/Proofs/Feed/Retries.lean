import Mathlib.Algebra.Order.Group.Nat
import Mathlib.Order.MinMax
import Catalog.Feed.Retry

/-!
How a request with its retries comes to an end. As long as the replies may pass, it is sent again,
until one of them decides or the retries are used up; nothing that would be replied later has any
part in it. Between two requests it waits as it is told, or as long as the policy backs off.
-/
namespace Catalog.Feed

open Time

namespace UpTo

variable {most : Nat}

theorem val_clamped {n : Nat} (fits : n ≤ most) : (clamped n : UpTo most).val = n :=
  Nat.min_eq_left fits

theorem val_mul (a b : UpTo most) : (a * b).val = min (a.val * b.val) most := rfl

end UpTo

namespace RetryPolicy

variable (p : RetryPolicy)

theorem factor_eq (attempt : Nat) : factor attempt = min (2 ^ attempt) 4294967295 := by
  unfold factor
  split
  · rename_i few
    have fits : 2 ^ attempt ≤ 2 ^ 31 := Nat.pow_le_pow_right (by decide) (by omega)
    exact (Nat.min_eq_left (fits.trans (by decide))).symm
  · rename_i many
    have beyond : 2 ^ 32 ≤ 2 ^ attempt := Nat.pow_le_pow_right (by decide) (by omega)
    exact (Nat.min_eq_right (Nat.le_of_lt (Nat.lt_of_lt_of_le (by decide) beyond))).symm

theorem factor_mono {i j : Nat} (le : i ≤ j) : factor i ≤ factor j := by
  rw [factor_eq, factor_eq]
  exact min_le_min_right _ (Nat.pow_le_pow_right (by decide) le)

theorem factor_le (attempt : Nat) : factor attempt ≤ longestDuration := by
  rw [factor_eq]
  exact (Nat.min_le_right _ _).trans (by decide)

/-- The longest wait is a duration that can be held, so no other bound shows. -/
theorem backoff_eq (attempt : Nat) :
    p.backoff attempt = min (p.base.val * min (2 ^ attempt) 4294967295) p.longest.val := by
  rw [backoff, UpTo.val_mul, UpTo.val_clamped (factor_le attempt), factor_eq, Nat.min_assoc,
    Nat.min_eq_right p.longest.le]

theorem backoff_mono {i j : Nat} (le : i ≤ j) : p.backoff i ≤ p.backoff j := by
  rw [backoff_eq, backoff_eq, ← factor_eq, ← factor_eq]
  exact min_le_min_right _ (Nat.mul_le_mul_left p.base.val (factor_mono le))

theorem backoff_le (attempt : Nat) : p.backoff attempt ≤ p.longest.val := Nat.min_le_right _ _

theorem wait_le (attempt : Nat) (hint : Option Nat) : p.wait attempt hint ≤ p.longest.val := by
  cases hint with
  | none => exact p.backoff_le attempt
  | some hint => exact Nat.min_le_right _ _

end RetryPolicy

namespace Reply

/-- Replies after which the request may be sent again, with the error that they leave. -/
inductive Passing (requested : String) : Reply → Fault → Prop where
  | failing {url : String} {code : Nat} {header : Option (List UInt8)} :
      500 ≤ code → code ≤ 599 → Passing requested (.status url code header) (.status url code)
  | throttled {url : String} {header : Option (List UInt8)} :
      Passing requested (.status url 429 header) (.status url 429)
  | late {url : String} {header : Option (List UInt8)} :
      Passing requested (.status url 408 header) (.status url 408)
  | unreachable {cause : String} :
      Passing requested (.unreachable cause) (.transport requested cause)

/-- Replies that decide, with the answer. -/
inductive Deciding (requested : String) : Reply → Except Fault (String × List UInt8) → Prop where
  | read {url : String} {body : List UInt8} :
      Deciding requested (.success url (.ok body)) (.ok (url, body))
  | unread {url cause : String} :
      Deciding requested (.success url (.error cause)) (.error (.transport url cause))
  | refused {url : String} {code : Nat} {header : Option (List UInt8)} :
      ¬ (500 ≤ code ∧ code ≤ 599) → code ≠ 429 → code ≠ 408 →
      Deciding requested (.status url code header) (.error (.status url code))
  | broken {cause : String} :
      Deciding requested (.broken cause) (.error (.transport requested cause))

variable {requested : String} {r : Reply}

theorem isTransientStatus_iff (code : Nat) :
    isTransientStatus code = true ↔ 500 ≤ code ∧ code ≤ 599 ∨ code = 429 ∨ code = 408 := by
  simp [isTransientStatus, or_assoc]

theorem Passing.result {fault : Fault} (passing : r.Passing requested fault) :
    r.isTransient = true ∧ r.result requested = .error fault := by
  cases passing with
  | failing low high => exact ⟨(isTransientStatus_iff _).mpr (.inl ⟨low, high⟩), rfl⟩
  | throttled | late | unreachable => exact ⟨rfl, rfl⟩

theorem Deciding.result {answer : Except Fault (String × List UInt8)}
    (deciding : r.Deciding requested answer) :
    r.isTransient = false ∧ r.result requested = answer := by
  cases deciding with
  | refused other throttled late =>
    refine ⟨?_, rfl⟩
    simp only [isTransient, ← Bool.not_eq_true, isTransientStatus_iff, not_or]
    exact ⟨other, throttled, late⟩
  | read | unread | broken => exact ⟨rfl, rfl⟩

theorem passing_or_deciding (requested : String) (r : Reply) :
    (∃ fault, r.Passing requested fault) ∨ ∃ answer, r.Deciding requested answer := by
  cases r with
  | success url body =>
    cases body with
    | ok body => exact .inr ⟨_, .read⟩
    | error cause => exact .inr ⟨_, .unread⟩
  | status url code header =>
    by_cases transient : isTransientStatus code = true
    · rcases (isTransientStatus_iff code).mp transient with ⟨low, high⟩ | rfl | rfl
      · exact .inl ⟨_, .failing low high⟩
      · exact .inl ⟨_, .throttled⟩
      · exact .inl ⟨_, .late⟩
    · simp only [isTransientStatus_iff, not_or] at transient
      exact .inr ⟨_, .refused transient.1 transient.2.1 transient.2.2⟩
  | unreachable cause => exact .inl ⟨_, .unreachable⟩
  | broken cause => exact .inr ⟨_, .broken⟩

theorem exists_passing (requested : String) (transient : r.isTransient = true) :
    ∃ fault, r.Passing requested fault := by
  rcases passing_or_deciding requested r with passing | ⟨answer, deciding⟩
  · exact passing
  · exact Bool.noConfusion (transient.symm.trans deciding.result.1)

end Reply

section Attempts

variable {p : RetryPolicy} {clock : Nat → Instant} {url : String} {reply : Nat → Reply}

/-- The wait that follows a request. -/
def waitAfter (p : RetryPolicy) (clock : Nat → Instant) (reply : Nat → Reply) (attempt : Nat) :
    Nat :=
  p.wait attempt ((reply attempt).hint? (clock attempt))

/-- With so many retries left, the request of an attempt is sent again so often and no more. -/
structure Ends (reply : Nat → Reply) (left attempt again : Nat) : Prop where
  within : again ≤ left
  passing : ∀ i < again, (reply (attempt + i)).isTransient = true
  last : again = left ∨ (reply (attempt + again)).isTransient = false

theorem exists_ends (reply : Nat → Reply) (left attempt : Nat) :
    ∃ again, Ends reply left attempt again := by
  induction left generalizing attempt with
  | zero => exact ⟨0, Nat.le_refl 0, fun _ none => absurd none (Nat.not_lt_zero _), .inl rfl⟩
  | succ left ih =>
    cases transient : (reply attempt).isTransient with
    | false =>
      exact ⟨0, Nat.zero_le _, fun _ none => absurd none (Nat.not_lt_zero _), .inr transient⟩
    | true =>
      obtain ⟨again, within, passing, last⟩ := ih (attempt + 1)
      refine ⟨again + 1, Nat.succ_le_succ within, fun i before => ?_, ?_⟩
      · cases i with
        | zero => exact transient
        | succ i =>
          have next := passing i (Nat.lt_of_succ_lt_succ before)
          rwa [Nat.add_right_comm] at next
      · rw [Nat.add_right_comm] at last
        exact last.imp (congrArg Nat.succ) id

theorem attemptsFrom_of_ends {left attempt again : Nat} (ends : Ends reply left attempt again) :
    attemptsFrom p clock url reply left attempt =
      ⟨(List.range' attempt again).map (waitAfter p clock reply),
        (reply (attempt + again)).result url⟩ := by
  induction left generalizing attempt again with
  | zero =>
    cases Nat.le_zero.mp ends.within
    rfl
  | succ left ih =>
    cases again with
    | zero =>
      have decided : (reply attempt).isTransient = false :=
        ends.last.resolve_left (Nat.succ_ne_zero left).symm
      simp [attemptsFrom, decided]
    | succ again =>
      have transient : (reply attempt).isTransient = true := ends.passing 0 (Nat.succ_pos again)
      have rest : Ends reply left (attempt + 1) again := by
        refine ⟨Nat.le_of_succ_le_succ ends.within, fun i before => ?_, ?_⟩
        · rw [Nat.add_right_comm]
          exact ends.passing (i + 1) (Nat.succ_lt_succ before)
        · rw [Nat.add_right_comm]
          exact ends.last.imp Nat.succ.inj id
      simp [attemptsFrom, transient, ih rest, List.range'_succ, waitAfter, Nat.add_right_comm,
        Nat.add_assoc]

theorem requestAt_of_ends {again : Nat} (ends : Ends reply p.retries.val 0 again) :
    requestAt p clock url reply =
      ⟨(List.range again).map (waitAfter p clock reply), (reply again).result url⟩ := by
  rw [requestAt, attemptsFrom_of_ends ends, List.range_eq_range', Nat.zero_add]

/-- Either a reply within the retries decides, or all of them may pass. -/
theorem decided_or_exhausted (p : RetryPolicy) (url : String) (reply : Nat → Reply) :
    (∃ k ≤ p.retries.val, (∀ i < k, ∃ fault, (reply i).Passing url fault) ∧
      ∃ answer, (reply k).Deciding url answer) ∨
    ∀ i ≤ p.retries.val, ∃ fault, (reply i).Passing url fault := by
  obtain ⟨again, within, transient, last⟩ := exists_ends reply p.retries.val 0
  simp only [Nat.zero_add] at transient last
  have passing : ∀ i < again, ∃ fault, (reply i).Passing url fault :=
    fun i before => Reply.exists_passing url (transient i before)
  rcases Reply.passing_or_deciding url (reply again) with ⟨fault, passes⟩ | deciding
  · have all : again = p.retries.val :=
      last.resolve_right fun decided => Bool.noConfusion (passes.result.1.symm.trans decided)
    subst all
    refine .inr fun i within => ?_
    rcases Nat.lt_or_eq_of_le within with before | rfl
    · exact passing i before
    · exact ⟨fault, passes⟩
  · exact .inl ⟨again, within, passing, deciding⟩

theorem Ends.of_first {k : Nat} (within : k ≤ p.retries.val)
    (passing : ∀ i < k, ∃ fault, (reply i).Passing url fault)
    (last : k = p.retries.val ∨ (reply k).isTransient = false) : Ends reply p.retries.val 0 k := by
  refine ⟨within, fun i before => ?_, by rwa [Nat.zero_add]⟩
  obtain ⟨fault, passes⟩ := passing i before
  rw [Nat.zero_add]
  exact passes.result.1

end Attempts

/-- The first reply that decides is answered with, and no request is sent after it; where none comes
in time, the error of the last one stands. Every request but the last is followed by the wait that
its reply asks for or, if none can be read from it, by one that doubles with every attempt as far as
a word of 32 bits goes. No wait is longer than the policy allows. -/
theorem decisive_reply_answers (p : RetryPolicy) (clock : Nat → Instant) (url : String)
    (reply : Nat → Reply) :
    let made := requestAt p clock url reply
    ((∃ k ≤ p.retries.val, (∀ i < k, ∃ fault, (reply i).Passing url fault) ∧
        ∃ answer, (reply k).Deciding url answer) ∨
      ∀ i ≤ p.retries.val, ∃ fault, (reply i).Passing url fault) ∧
    (∀ k answer, k ≤ p.retries.val → (∀ i < k, ∃ fault, (reply i).Passing url fault) →
      (reply k).Deciding url answer → made.requests = k + 1 ∧ made.result = answer) ∧
    (∀ fault, (∀ i < p.retries.val, ∃ fault, (reply i).Passing url fault) →
      (reply p.retries.val).Passing url fault →
      made.requests = p.retries.val + 1 ∧ made.result = .error fault) ∧
    (∀ i, i + 1 < made.requests → made.waits[i]? = some
      (match (reply i).hint? (clock i) with
        | some hint => min hint p.longest.val
        | none => p.backoff i)) ∧
    (∀ wait ∈ made.waits, wait ≤ p.longest.val) ∧
    (∀ other : Nat → Reply, (∀ i < made.requests, other i = reply i) →
      requestAt p clock url other = made) ∧
    (∀ i j, i ≤ j → p.backoff i ≤ p.backoff j) ∧
    (∀ i, p.backoff i ≤ p.longest.val) ∧
    (∀ i, p.backoff i = min (p.base.val * min (2 ^ i) 4294967295) p.longest.val) := by
  intro made
  have counted {again : Nat} (ends : Ends reply p.retries.val 0 again) :
      made.requests = again + 1 ∧ made.result = (reply again).result url := by
    simp [made, requestAt_of_ends ends, Attempts.requests]
  obtain ⟨again, ends⟩ := exists_ends reply p.retries.val 0
  refine ⟨decided_or_exhausted p url reply, ?_, ?_, ?_, ?_, ?_, fun i j => p.backoff_mono,
    p.backoff_le, p.backoff_eq⟩
  · intro k answer within passing deciding
    obtain ⟨decided, answers⟩ := deciding.result
    rw [← answers]
    exact counted (.of_first within passing (.inr decided))
  · intro fault passing last
    rw [← last.result.2]
    exact counted (.of_first (Nat.le_refl _) passing (.inl rfl))
  · intro i before
    rw [(counted ends).1] at before
    have within : i < again := Nat.lt_of_succ_lt_succ before
    have waited : made.waits[i]? = some (waitAfter p clock reply i) := by
      simp only [made, requestAt_of_ends ends, List.getElem?_map, List.getElem?_range within,
        Option.map_some]
    exact waited
  · intro wait member
    simp only [made, requestAt_of_ends ends] at member
    obtain ⟨i, -, rfl⟩ := List.mem_map.mp member
    exact p.wait_le _ _
  · intro other same
    rw [(counted ends).1] at same
    have alike : ∀ i ≤ again, other i = reply i := fun i le => same i (Nat.lt_succ_of_le le)
    have otherEnds : Ends other p.retries.val 0 again := by
      refine ⟨ends.within, fun i before => ?_, ?_⟩
      · simpa only [Nat.zero_add, alike i before.le] using ends.passing i before
      · simpa only [Nat.zero_add, alike again (Nat.le_refl _)] using ends.last
    simp only [made, requestAt_of_ends ends, requestAt_of_ends otherEnds,
      alike again (Nat.le_refl _)]
    congr 1
    refine List.map_congr_left fun i member => ?_
    rw [waitAfter, waitAfter, alike i (List.mem_range.mp member).le]

/-- A server that asks for two minutes, and then cannot be reached. -/
def faltering : Nat → Reply
  | 0 => .status "u" 503 (some [49, 50, 48])
  | 1 => .unreachable "connection refused"
  | _ => .success "u" (.ok [91, 93])

def hasty : RetryPolicy := ⟨5, 100000000, 350000000⟩

theorem decisive_reply_answers_faltering :
    let made := requestAt hasty (fun _ => ⟨5, 0⟩) "u" faltering
    made.requests = 3 ∧ made.result = .ok ("u", [91, 93]) ∧
      made.waits[0]? = some 350000000 ∧ made.waits[1]? = some 200000000 := by
  intro made
  obtain ⟨-, answered, -, waited, -⟩ :=
    decisive_reply_answers hasty (fun _ => ⟨5, 0⟩) "u" faltering
  have passing : ∀ i < 2, ∃ fault, (faltering i).Passing "u" fault := by
    intro i before
    match i with
    | 0 => exact ⟨_, .failing (by decide) (by decide)⟩
    | 1 => exact ⟨_, .unreachable⟩
  obtain ⟨three, found⟩ := answered 2 _ (by decide) passing .read
  refine ⟨three, found, ?_, ?_⟩
  · exact (waited 0 (three ▸ by decide)).trans (by decide +kernel)
  · exact (waited 1 (three ▸ by decide)).trans (by decide +kernel)

end Catalog.Feed
