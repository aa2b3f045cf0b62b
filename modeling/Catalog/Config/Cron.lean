import Catalog.Text.Blank
import Catalog.Text.Case
import Catalog.Text.Digits

/-!
The texts that describe when a job is due: six fields for the second, minute, hour, day, month and
day of the week. Only whether a text is acceptable matters here.
-/
namespace Catalog.Config.Cron

/-- A field: the numbers it may hold, and the marks it understands. -/
structure Field where
  least : Nat
  most : Nat
  /-- May the last of its kind be meant? -/
  last : Bool := false
  /-- May the working day next to a day be meant? -/
  workday : Bool := false
  /-- May an occurrence within the month be counted? -/
  counted : Bool := false
  deriving DecidableEq, Repr

def fields : List Field :=
  [{ least := 0, most := 59 }, { least := 0, most := 59 }, { least := 0, most := 23 },
    { least := 1, most := 31, last := true, workday := true }, { least := 1, most := 12 },
    { least := 0, most := 7, last := true, counted := true }]

/-- Names of days and months with their numbers, in the order in which they are replaced. -/
def names : List (String × String) :=
  [("-SUN", "-7"), ("SUN", "0"), ("MON", "1"), ("TUE", "2"), ("WED", "3"), ("THU", "4"),
    ("FRI", "5"), ("SAT", "6"), ("JAN", "1"), ("FEB", "2"), ("MAR", "3"), ("APR", "4"),
    ("MAY", "5"), ("JUN", "6"), ("JUL", "7"), ("AUG", "8"), ("SEP", "9"), ("OCT", "10"),
    ("NOV", "11"), ("DEC", "12")]

/-- Words for whole texts, without the seconds. -/
def nicknames : List (String × String) :=
  [("@yearly", "0 0 1 1 *"), ("@annually", "0 0 1 1 *"), ("@monthly", "0 0 1 * *"),
    ("@weekly", "0 0 * * 0"), ("@daily", "0 0 * * *"), ("@hourly", "0 * * * *")]

/-- Replaces a text wherever it stands. -/
def replaceFrom (old new : List Char) : Nat → List Char → List Char
  -- The fuel bounds the number of characters.
  | 0, cs => cs
  | _ + 1, [] => []
  | fuel + 1, c :: rest =>
    match Text.dropStart? old (c :: rest) with
    | some after => new ++ replaceFrom old new fuel after
    | none => c :: replaceFrom old new fuel rest

def replace (cs : List Char) (name : String × String) : List Char :=
  replaceFrom name.1.toList name.2.toList cs.length cs

/-- A text that contains a word for a whole text stands for it, at second zero. -/
def expanded (text : String) : String :=
  if text.toList.contains '@' then
    let word := Text.asciiLowered (Text.trim text)
    let meaning := (nicknames.find? fun n => n.1 == word).map Prod.snd
    "0 " ++ meaning.getD (Text.trim text)
  else text

def words : List Char → List (List Char)
  | [] => []
  | c :: rest =>
    if Text.isBlank c then words rest
    else
      match rest, words rest with
      | next :: _, word :: more =>
        if Text.isBlank next then [c] :: word :: more else (c :: word) :: more
      | _, more => [c] :: more

/-- A number that a field may hold. -/
def number? (f : Field) (cs : List Char) : Option Nat := do
  let n ← Text.decimal? cs
  if f.least ≤ n && n ≤ f.most then some n else none

/-- What is left of a part before its count, if the count is understood: one of the first five, or
the last. -/
def counted? (f : Field) (cs : List Char) : Option (List Char) :=
  match Text.splitOnce '#' cs with
  | none => some cs
  | some (before, count) =>
    let known := cs.getLast? == some 'L' ||
      (Text.decimal? count).any fun n => 1 ≤ n && n ≤ 5
    if f.counted && known then some before else none

def acceptsNumber (f : Field) (cs : List Char) : Bool := (number? f cs).isSome

def acceptsRange (f : Field) (cs : List Char) : Bool :=
  match Text.splitAt '-' cs with
  | [a, b] =>
    match number? f (Text.trimmed a), number? f (Text.trimmed b) with
    | some a, some b => a ≤ b
    | _, _ => false
  | _ => false

/-- Steps of at least one through everything, a range, or from a number on. -/
def acceptsSteps (f : Field) (cs : List Char) : Bool :=
  match Text.splitAt '/' cs with
  | [range, step] =>
    (match Text.decimal? step with
      | some n => 1 ≤ n && n ≤ 255
      | none => false) &&
    (range == ['*'] || acceptsRange f range || acceptsNumber f range)
  | _ => false

def acceptsPart (f : Field) (cs : List Char) : Bool :=
  if cs.isEmpty then true
  else if cs.contains '/' then (counted? f cs).any (acceptsSteps f)
  else if cs.contains '-' then (counted? f cs).any (acceptsRange f)
  else if cs.contains 'W' then
    f.workday && (match Text.splitOnce 'W' cs with
      | some (day, _) => acceptsNumber f day
      | none => false)
  else if cs == ['L'] then f.last
  else
    let lastOne := cs.getLast? == some 'L' && !cs.contains '#'
    (counted? f (if lastOne then cs.dropLast ++ ['#', 'L'] else cs)).any (acceptsNumber f)

def acceptsField (f : Field) (cs : List Char) : Bool :=
  cs == ['*'] || (Text.splitAt ',' cs).all fun part => acceptsPart f (Text.trimmed part)

def acceptsAll : List Field → List (List Char) → Bool
  | [], [] => true
  | f :: fs, w :: ws => acceptsField f w && acceptsAll fs ws
  | _, _ => false

/-- Is the text a description of when a job is due? -/
def accepts (text : String) : Bool :=
  let upper := (expanded text).toList.map Text.asciiUpper
  let spelled := (names.foldl replace upper).map fun c => if c == '?' then '*' else c
  acceptsAll fields (words spelled)

end Catalog.Config.Cron
