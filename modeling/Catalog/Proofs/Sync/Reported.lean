import Catalog.Config.Settings
import Catalog.Proofs.Sync.Contract
import Catalog.Proofs.Time.Range

/-!
When a run ends in a report. Three durations are made on its way: the window of the settings, the
age of a confirmation and the distance of two dates. The last two always fit. The window comes from
the environment as a word, of which a duration holds about the thousandth part; a run that has to
make a longer one breaks off and reports nothing.
-/
namespace Catalog

open Json Store

namespace Config.Settings

variable {env : Environment}

theorem window_of_unread (unread : (env "OPCAT_FRESHNESS_WINDOW_SECS").bind
    (fun text => Text.signed? text.toList) = none) : (read env).window = .standard := by
  simp [read, unread]

theorem window_of_read {n : Int} (number : (env "OPCAT_FRESHNESS_WINDOW_SECS").bind
    (fun text => Text.signed? text.toList) = some n) : (read env).window = ⟨n⟩ := by
  simp [read, number]

end Config.Settings

namespace Sync

theorem Window.representable_iff (window : Window) :
    window.Representable ↔ window.nanos.natAbs ≤ Time.Instant.longestSpan := by
  simp only [Representable, longest, nanos, Time.nanosPerSecond, Time.Instant.longestSpan]
  omega

/-- Only a number that a duration cannot hold spoils the window. -/
theorem Window.representable_read (env : Config.Environment) :
    (Config.Settings.read env).window.Representable ↔
      ∀ text n, env "OPCAT_FRESHNESS_WINDOW_SECS" = some text →
        Text.signed? text.toList = some n → n.natAbs ≤ 9223372036854775 := by
  have bounds (n : Int) : Window.Representable ⟨n⟩ ↔ n.natAbs ≤ 9223372036854775 := by
    simp only [Representable, longest]
    omega
  cases number : (env "OPCAT_FRESHNESS_WINDOW_SECS").bind fun text => Text.signed? text.toList with
  | none =>
    rw [Config.Settings.window_of_unread number]
    refine iff_of_true (by decide) fun text n found spelled => ?_
    rw [found, Option.bind_some, spelled] at number
    cases number
  | some n =>
    rw [Config.Settings.window_of_read number, bounds]
    obtain ⟨text, found, spelled⟩ := Option.bind_eq_some_iff.mp number
    refine ⟨fun short other m there spells => ?_, fun all => all text n found spelled⟩
    cases found.symm.trans there
    cases spelled.symm.trans spells
    exact short

theorem held_of_instant? {value : Value} {t : Time.Instant} (read : value.instant? = some t) :
    t.Held := by
  cases value with
  | text s => exact Time.Instant.held_parse? read
  | _ => cases read

theorem held_of_lastConfirmed? {existing : Value} {t : Time.Instant}
    (confirmed : lastConfirmed? existing = some t) : t.Held := by
  unfold lastConfirmed? at confirmed
  split at confirmed
  · rename_i seen
    cases confirmed
    obtain ⟨value, -, read⟩ := Option.bind_eq_some_iff.mp seen
    exact held_of_instant? read
  · obtain ⟨value, -, read⟩ := Option.bind_eq_some_iff.mp confirmed
    exact held_of_instant? read

variable {δ : Type} [Service δ]

section Runs

variable {course : Course} {window : Window} {s t : Storage δ}

theorem runBy_overflowed {ask : {α : Type} → Request α → Work δ α} {clock : Nat → Time.Instant}
    (runId : String) (started : Time.Instant) (sources : List Feed.Source)
    (unrepresentable : ¬ window.Representable) {n : Nat}
    (passed : ask (.count []) s.refresh = (.ok n, t)) :
    runBy ask clock window runId started sources s = .error {} := by
  simp only [runBy, passed, unrepresentable, if_false]

/-- With a window that no duration holds, the run breaks off behind the preflight. -/
theorem reports_iff (runId : String) (started : Time.Instant) (sources : List Feed.Source) :
    (∃ report after, runBy course.ask course.clock window runId started sources s =
      .ok (report, after)) ↔
    window.Representable ∨ ∃ fault, (preflight course s).1 = .error fault := by
  cases counted : (preflight course s).1 with
  | error fault =>
    obtain ⟨report, after, ran, -⟩ := contract_stopped counted
    exact iff_of_true ⟨report, after, ran⟩ (.inr ⟨fault, rfl⟩)
  | ok n =>
    have passed : course.ask (.count []) s.refresh = (.ok n, (preflight course s).2) :=
      Prod.ext counted rfl
    by_cases representable : window.Representable
    · obtain ⟨report, after, ran, -⟩ := contract_complete representable counted
      exact iff_of_true ⟨report, after, ran⟩ (.inl representable)
    · have broken : runBy course.ask course.clock window runId started sources s = .error {} :=
        runBy_overflowed runId started sources representable passed
      refine iff_of_false ?_ ?_
      · rintro ⟨report, after, ran⟩
        cases broken.symm.trans ran
      · rintro (held | ⟨fault, failed⟩)
        · exact representable held
        · cases failed

end Runs

/-- Whatever the environment, the storage and the sources, a run ends in a report unless the
environment names a window of more seconds than a duration holds and the collection can be counted.
The other durations of a run fit, whatever is stored and fetched. -/
theorem run_reports (env : Config.Environment) (course : Course) (runId : String)
    (started : Time.Instant) (sources : List Feed.Source) (s : Storage δ) :
    let window := (Config.Settings.read env).window
    ((∃ report after, runBy course.ask course.clock window runId started sources s =
        .ok (report, after)) ↔
      window.Representable ∨ ∃ fault, (preflight course s).1 = .error fault) ∧
    (window.Representable ↔ ∀ text n, env "OPCAT_FRESHNESS_WINDOW_SECS" = some text →
      Text.signed? text.toList = some n → n.natAbs ≤ 9223372036854775) ∧
    (window.Representable ↔ window.nanos.natAbs ≤ Time.Instant.longestSpan) ∧
    (∀ existing confirmed, ∀ now : Time.Instant, lastConfirmed? existing = some confirmed → now.Held →
      (now.since confirmed).natAbs ≤ Time.Instant.longestSpan) ∧
    (∀ old new : Value, ∀ x y, old.instant? = some x → new.instant? = some y →
      (x.since y).natAbs ≤ Time.Instant.longestSpan) ∧
    runBy (Course.calm started).ask (Course.calm started).clock window runId started sources s =
      run runId started window sources s := by
  intro window
  refine ⟨reports_iff runId started sources, Window.representable_read env, window.representable_iff, ?_, ?_,
    runBy_calm runId started window sources s⟩
  · exact fun existing confirmed now seen held =>
      held.natAbs_since_le (held_of_lastConfirmed? seen)
  · exact fun old new x y first second =>
      (held_of_instant? first).natAbs_since_le (held_of_instant? second)

/-- One second more than a duration holds, and the run over an empty shelf reports nothing. -/
theorem run_breaks_off :
    let env : Config.Environment := fun name =>
      if name = "OPCAT_FRESHNESS_WINDOW_SECS" then some "9223372036854776" else none
    run "run" ⟨5, 0⟩ (Config.Settings.read env).window []
        (.fileOnly ⟨"shelf.json", .missing⟩ : Storage) =
      .error {} := by
  intro env
  have unrepresentable : ¬ (Config.Settings.read env).window.Representable := by decide +kernel
  exact runBy_overflowed "run" ⟨5, 0⟩ [] unrepresentable rfl

end Sync

end Catalog
