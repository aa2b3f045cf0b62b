import Catalog.Text.Blank
import Catalog.Text.Digits

/-!
Blanks and comments inside extended expressions. A comment runs from `#` to the end of its line.
Every scan is told whether the expression is extended; if it is not, nothing is skipped.
-/
namespace Catalog.Pattern

open Text (isBlank isDigit)

/-- What is left after blanks and comments; the flag says whether a comment is open. -/
def skipTrivia : Bool → List Char → List Char
  | _, [] => []
  | true, c :: rest => skipTrivia (c != '\n') rest
  | false, c :: rest =>
    if isBlank c then skipTrivia false rest
    else if c == '#' then skipTrivia true rest
    else c :: rest

def skipSpace (extended : Bool) (cs : List Char) : List Char :=
  if extended then skipTrivia false cs else cs

/-- The first character that is no blank, a comment sign before it being passed over once. -/
def firstSolid? : Bool → List Char → Option Char
  | _, [] => none
  | comment, c :: rest =>
    if isBlank c then firstSolid? comment rest
    else if !comment && c == '#' then firstSolid? true rest
    else some c

/-- The next character of interest; in an extended expression blanks do not count. -/
def peekSpace (extended : Bool) (cs : List Char) : Option Char :=
  if extended then
    -- The first solid character after a comment sign is seen, even inside the comment.
    match firstSolid? false cs with
    | some c => some c
    | none => cs.head?
  else cs.head?

/-- A run of digits, in an extended expression with blanks and comments between them. -/
def digitRun (extended : Bool) : Bool → List Char → List Char × List Char
  | _, [] => ([], [])
  | true, c :: rest => digitRun extended (c != '\n') rest
  | false, c :: rest =>
    if isDigit c then
      let (digits, rest) := digitRun extended false rest
      (c :: digits, rest)
    else if extended && isBlank c then digitRun extended false rest
    else if extended && c == '#' then digitRun extended true rest
    else ([], c :: rest)

/-- What stands before a closing brace, and what follows the brace. -/
def braceBody? (extended : Bool) : Bool → List Char → Option (List Char × List Char)
  | _, [] => none
  | true, c :: rest => braceBody? extended (c != '\n') rest
  | false, c :: rest =>
    if extended && isBlank c then braceBody? extended false rest
    else if extended && c == '#' then braceBody? extended true rest
    else if c == '}' then some ([], rest)
    else (braceBody? extended false rest).map fun (body, rest) => (c :: body, rest)

/-- The number of hyphens at the start. -/
def leadingHyphens (extended : Bool) : Bool → List Char → Nat × List Char
  | _, [] => (0, [])
  | true, c :: rest => leadingHyphens extended (c != '\n') rest
  | false, c :: rest =>
    if c == '-' then
      let (n, rest) := leadingHyphens extended false rest
      (n + 1, rest)
    else if extended && isBlank c then leadingHyphens extended false rest
    else if extended && c == '#' then leadingHyphens extended true rest
    else (0, c :: rest)

end Catalog.Pattern
