import Catalog.Text.Case
import Catalog.Time.Timestamp

/-!
The date form of mail and web headers: an optional weekday, day, month name, year, time of day and
zone, with comments in brackets allowed at the end.
-/
namespace Catalog.Time.MailDate

open Text (isDigit isBlank dropBlank)

/-- The three letters that begin a name, lower case, and what follows them. -/
def threeLetters? : List Char → Option (String × List Char)
  | a :: b :: c :: rest =>
    some (String.ofList ([a, b, c].map Text.asciiLower), rest)
  | _ => none

def weekdays : List String := ["mon", "tue", "wed", "thu", "fri", "sat", "sun"]

def months : List String :=
  ["jan", "feb", "mar", "apr", "may", "jun", "jul", "aug", "sep", "oct", "nov", "dec"]

/-- A weekday and its comma, if the text starts with them. -/
def weekday? (cs : List Char) : Option (Nat × List Char) := do
  let (name, rest) ← threeLetters? cs
  let day ← weekdays.findIdx? (· == name)
  let rest ← Scan.char? ',' rest
  some (day, rest)

def month? (cs : List Char) : Option (Nat × List Char) := do
  let (name, rest) ← threeLetters? cs
  let index ← months.findIdx? (· == name)
  some (index + 1, rest)

/-- At least one blank. -/
def space? (cs : List Char) : Option (List Char) :=
  match cs with
  | c :: _ => if isBlank c then some (dropBlank cs) else none
  | [] => none

/-- The last year the calendar covers. -/
def lastYear : Nat := 262142

/-- A year of two digits falls between 1950 and 2049, one of three digits counts from 1900. -/
def year? (cs : List Char) : Option (Int × List Char) :=
  let digits := cs.takeWhile isDigit
  let n := Text.decimal digits
  let rest := cs.drop digits.length
  match digits.length with
  | 0 => none
  | 1 => none
  | 2 => some ((if n ≤ 49 then n + 2000 else n + 1900 : Nat), rest)
  | 3 => some ((n + 1900 : Nat), rest)
  | _ => if n ≤ lastYear then some (n, rest) else none

/-- Hours east of Universal Time for a zone name; single letters other than J count as zero. -/
def zoneHours? (name : String) : Option Int :=
  match name with
  | "gmt" | "ut" | "z" => some 0
  | "edt" => some (-4)
  | "est" | "cdt" => some (-5)
  | "cst" | "mdt" => some (-6)
  | "mst" | "pdt" => some (-7)
  | "pst" => some (-8)
  | _ =>
    match name.toList with
    | [c] => if ('a' ≤ c && c ≤ 'i') || ('k' ≤ c && c ≤ 'y') then some 0 else none
    | _ => none

/-- A zone by name, or as sign, hours and minutes. -/
def zone? (cs : List Char) : Option (Int × List Char) :=
  let letters := cs.takeWhile Text.isAsciiLetter
  if letters.isEmpty then do
    let (minus, cs) ← match cs with
      | '+' :: rest => some (false, rest)
      | '-' :: rest => some (true, rest)
      | _ => none
    let (hours, cs) ← Scan.fixed? 2 cs
    let (minutes, cs) ← Scan.fixed? 2 cs
    if 23 < hours || 59 < minutes then none
    else
      let seconds : Int := (hours * 3600 + minutes * 60 : Nat)
      some (if minus then -seconds else seconds, cs)
  else do
    let hours ← zoneHours? (String.ofList (letters.map Text.asciiLower))
    some (hours * 3600, cs.drop letters.length)

/-- What follows the end of a comment whose opening bracket has been read; `depth` counts the
brackets still open inside it. -/
def commentEnd? (depth : Nat) : List Char → Option (List Char)
  | [] => none
  | '\\' :: _ :: rest => commentEnd? depth rest
  | '(' :: rest => commentEnd? (depth + 1) rest
  | ')' :: rest =>
    match depth with
    | 0 => some rest
    | depth + 1 => commentEnd? depth rest
  | _ :: rest => commentEnd? depth rest

/-- Nothing but blanks and comments. -/
def onlyComments : Nat → List Char → Bool
  -- The fuel bounds the number of comments.
  | 0, cs => (dropBlank cs).isEmpty
  | fuel + 1, cs =>
    match dropBlank cs with
    | [] => true
    | '(' :: rest =>
      match commentEnd? 0 rest with
      | some rest => onlyComments fuel rest
      | none => false
    | _ => false

def read? (cs : List Char) : Option Instant := do
  let cs := dropBlank cs
  let (weekday, cs) := match weekday? cs with
    | some (day, rest) => (some day, rest)
    | none => (none, cs)
  let (day, cs) ← Scan.upTo? 2 (dropBlank cs)
  let cs ← space? cs
  let (month, cs) ← month? cs
  let cs ← space? cs
  let (year, cs) ← year? cs
  let cs ← space? cs
  let (hour, cs) ← Scan.fixed? 2 cs
  let cs ← Scan.char? ':' (dropBlank cs)
  let (minute, cs) ← Scan.fixed? 2 (dropBlank cs)
  let (second, cs) ← match Scan.char? ':' (dropBlank cs) with
    | some rest => Scan.fixed? 2 rest
    | none => some (0, cs)
  let cs ← space? cs
  let (offset, cs) ← zone? cs
  if !onlyComments cs.length cs then none
  else
    let date : Date := ⟨year, month, day⟩
    if weekday.any (· != date.weekday) then none
    else
      -- West of Universal Time the last day of the calendar may end in a year it does not cover.
      (Civil.instant? ⟨date, hour, minute, second, 0⟩ offset).filter fun t => t.date.year ≤ lastYear

end Catalog.Time.MailDate
