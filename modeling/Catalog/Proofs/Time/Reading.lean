import Catalog.Proofs.Text.Blanks
import Catalog.Time.Timestamp

/-!
What a text must have to read as a date: a hyphen behind its year. Identities have none, so they
are compared as they stand.
-/
namespace Catalog

namespace Time

open Scan

variable {cs : List Char}

theorem Scan.char?_mem {expected : Char} {rest : List Char}
    (found : char? expected cs = some rest) : expected ∈ cs := by
  cases cs with
  | nil => simp [char?] at found
  | cons c cs =>
    simp only [char?] at found
    split at found
    · rename_i same
      have same : c = expected := by simpa using same
      exact same ▸ List.mem_cons_self
    · cases found

theorem Scan.fixed?_rest {n value : Nat} {rest : List Char}
    (found : fixed? n cs = some (value, rest)) : rest = cs.drop n := by
  simp only [fixed?] at found
  split at found
  · simp only [Option.some.injEq, Prod.mk.injEq] at found
    exact found.2.symm
  · cases found

theorem Scan.upTo?_rest {most value : Nat} {rest : List Char}
    (found : upTo? most cs = some (value, rest)) : ∃ n, rest = cs.drop n := by
  simp only [upTo?] at found
  split at found
  · cases found
  · simp only [Option.some.injEq, Prod.mk.injEq] at found
    exact ⟨_, found.2.symm⟩

theorem Instant.hyphen_of_ofTimestamp? {t : Instant} (read : ofTimestamp? cs = some t) :
    '-' ∈ cs := by
  unfold ofTimestamp? at read
  obtain ⟨⟨year, behind⟩, fixed, next⟩ := Option.bind_eq_some_iff.mp read
  obtain ⟨rest, hyphen, -⟩ := Option.bind_eq_some_iff.mp next
  rw [fixed?_rest fixed] at hyphen
  exact List.mem_of_mem_drop (char?_mem hyphen)

theorem Instant.hyphen_of_ofBareDate? {t : Instant} (read : ofBareDate? cs = some t) :
    '-' ∈ cs := by
  unfold ofBareDate? at read
  obtain ⟨⟨year, behind⟩, scanned, next⟩ := Option.bind_eq_some_iff.mp read
  obtain ⟨rest, hyphen, -⟩ := Option.bind_eq_some_iff.mp next
  obtain ⟨n, dropped⟩ := upTo?_rest scanned
  rw [dropped] at hyphen
  exact List.mem_of_mem_drop (char?_mem hyphen)

theorem Instant.hyphen_of_parse? {s : String} {t : Instant} (read : parse? s = some t) :
    '-' ∈ s.toList := by
  simp only [parse?, ofChars?] at read
  split at read
  · cases read
  · split at read
    · rename_i stamp
      exact Text.mem_of_mem_trimmed (hyphen_of_ofTimestamp? stamp)
    · split at read
      · exact Text.mem_of_mem_trimmed (hyphen_of_ofBareDate? read)
      · cases read

end Time

end Catalog
