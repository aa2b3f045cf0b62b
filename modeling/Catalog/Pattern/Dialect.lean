import Catalog.Pattern.Expression
import Catalog.Pattern.Trivia

/-!
The dialect that an in-process matcher and a database's advanced expressions read alike. A source
is cut into pieces that mean the same to both; constructs without a shared meaning are refused,
each with its reason.
-/
namespace Catalog.Pattern

open Text (isBlank)

/-- A range of characters, its ends included. -/
abbrev Range := Char × Char

inductive Obstacle where
  | trailingBackslash
  | boundaryBraces
  | wordAngle
  | escape (c : Char)
  | openCode
  | badCode (text : String)
  | inlineFlags
  | openRepetition
  | badRepetition (body : String)
  | bound (n : Nat)
  | openClass
  | nestedClass
  | setOperation
  | negatedEscape
  | assertionInClass
  | rangeEnd
  | openClassName
  | className (name : String)
  | foldedRange (first last : Char)
  deriving DecidableEq, Repr

/-- Larger repetition bounds are no part of the dialect. -/
def largestBound : Nat := 255

namespace Obstacle

def message : Obstacle → String
  | .trailingBackslash => "trailing backslash"
  | .boundaryBraces => "`\\b\x7b...\x7d` boundaries are not supported"
  | .wordAngle => "word start and end assertions are not supported"
  | .escape c => "escape `\\" ++ c.toString ++ "` is not supported"
  | .openCode => "unclosed character code"
  | .badCode text => "invalid character code `" ++ text ++ "`"
  | .inlineFlags => "inline flags are not supported; pass them as `$options`"
  | .openRepetition => "unclosed repetition"
  | .badRepetition body => "bad repetition `\x7b" ++ body ++ "\x7d`"
  | .bound n => "repetition bound " ++ toString n ++ " exceeds " ++ toString largestBound
  | .openClass => "unclosed class"
  | .nestedClass => "nested classes are not supported"
  | .setOperation => "class set operations are not supported"
  | .negatedEscape => "negated escapes inside a class are not supported"
  | .assertionInClass => "assertions cannot appear inside a class"
  | .rangeEnd => "a range must end in a single character"
  | .openClassName => "unclosed character class name"
  | .className name => "character class `[:" ++ name ++ ":]` is not supported"
  | .foldedRange first last =>
    "case-insensitive range `" ++ first.toString ++ "-" ++ last.toString ++
      "` must stay within ASCII"

end Obstacle

/-- Grouping, alternation, anchors and quantifiers, which both sides spell the same. -/
inductive Mark where
  | group | plainGroup | close | bar | lineStart | lineEnd | star | plus | optional
  | exactly (n : Nat)
  | atLeast (n : Nat)
  | between (least most : Nat)
  deriving DecidableEq, Repr

inductive Piece where
  | mark (m : Mark)
  | literal (c : Char)
  | set (negated : Bool) (ranges : List Range)
  | anyChar
  | boundary
  | textStart
  | textEnd
  deriving DecidableEq, Repr

namespace Dialect

def digits : List Range := [('0', '9')]
def wordChars : List Range := [('0', '9'), ('A', 'Z'), ('_', '_'), ('a', 'z')]
def spaces : List Range := [('\t', '\r'), (' ', ' ')]
def letters : List Range := [('A', 'Z'), ('a', 'z')]
def alphanumerics : List Range := [('0', '9'), ('A', 'Z'), ('a', 'z')]
def hexDigits : List Range := [('0', '9'), ('A', 'F'), ('a', 'f')]
def blanks : List Range := [('\t', '\t'), (' ', ' ')]

def namedRanges? (name : String) : Option (List Range) :=
  match name with
  | "alpha" => some letters
  | "alnum" => some alphanumerics
  | "digit" => some digits
  | "upper" => some [('A', 'Z')]
  | "lower" => some [('a', 'z')]
  | "space" => some spaces
  | "word" => some wordChars
  | "xdigit" => some hexDigits
  | "blank" => some blanks
  | _ => none

inductive Escape where
  | char (c : Char)
  | set (negated : Bool) (ranges : List Range)
  | assertion (p : Piece)

/-- What stands before the first occurrence of a character, and what follows it. -/
def upTo? (stop : Char) (cs : List Char) : Option (List Char × List Char) :=
  Text.splitOnce stop cs

/-- The character of a code in base sixteen; a plus sign may stand before it. -/
def charOfCode? (code : List Char) : Option Char :=
  let digits := Text.withoutPlus (Text.trimmed code)
  if digits.isEmpty || !digits.all fun c => (Text.hexValue? c).isSome then none
  else
    let n := digits.foldl (fun n c => n * 16 + (Text.hexValue? c).getD 0) 0
    if n < 0xD800 || (0xE000 ≤ n && n < 0x110000) then some (Char.ofNat n) else none

/-- A character code: everything between braces, or the next characters, as many as given. -/
def code (length : Nat) (cs : List Char) : Except Obstacle (Char × List Char) := do
  let (body, rest) ← match cs with
    | '{' :: rest =>
      match upTo? '}' rest with
      | some parts => .ok parts
      | none => .error .openCode
    | cs => .ok (cs.take length, cs.drop length)
  match charOfCode? body with
  | some c => .ok (c, rest)
  | none => .error (.badCode (String.ofList body))

def escape : List Char → Except Obstacle (Escape × List Char)
  | [] => .error .trailingBackslash
  | c :: rest =>
    match c with
    | 'd' => .ok (.set false digits, rest)
    | 'D' => .ok (.set true digits, rest)
    | 'w' => .ok (.set false wordChars, rest)
    | 'W' => .ok (.set true wordChars, rest)
    | 's' => .ok (.set false spaces, rest)
    | 'S' => .ok (.set true spaces, rest)
    | 'b' => if rest.head? == some '{' then .error .boundaryBraces
        else .ok (.assertion .boundary, rest)
    | 'A' => .ok (.assertion .textStart, rest)
    | 'z' => .ok (.assertion .textEnd, rest)
    | 'n' => .ok (.char '\n', rest)
    | 't' => .ok (.char '\t', rest)
    | 'r' => .ok (.char '\r', rest)
    | 'f' => .ok (.char (Char.ofNat 12), rest)
    | 'v' => .ok (.char (Char.ofNat 11), rest)
    | 'a' => .ok (.char (Char.ofNat 7), rest)
    | 'x' => do let (c, rest) ← code 2 rest; .ok (.char c, rest)
    | 'u' => do let (c, rest) ← code 4 rest; .ok (.char c, rest)
    | 'U' => do let (c, rest) ← code 8 rest; .ok (.char c, rest)
    | '<' => .error .wordAngle
    | '>' => .error .wordAngle
    | c => if Text.isAsciiAlphanumeric c then .error (.escape c) else .ok (.char c, rest)

/-- What an opening bracket begins: names of groups are dropped. -/
def group (extended : Bool) (cs : List Char) : Except Obstacle (Piece × List Char) :=
  let cs := skipSpace extended cs
  match cs with
  | '?' :: ':' :: rest => .ok (.mark .plainGroup, rest)
  | '?' :: '<' :: rest => .ok (.mark .group, ((upTo? '>' rest).map Prod.snd).getD [])
  | '?' :: 'P' :: '<' :: rest => .ok (.mark .group, ((upTo? '>' rest).map Prod.snd).getD [])
  | '?' :: _ => .error .inlineFlags
  | cs => .ok (.mark .group, cs)

/-- A repetition bound; an empty one is zero. -/
def bound (body : List Char) (text : List Char) : Except Obstacle Nat :=
  if text.isEmpty then .ok 0
  else match Text.below? Text.halfWordSize text with
    | some n => if largestBound < n then .error (.bound n) else .ok n
    | none => .error (.badRepetition (String.ofList body))

/-- A counted repetition after its opening brace; blanks in it do not count. -/
def repetition (cs : List Char) : Except Obstacle (Piece × List Char) := do
  match upTo? '}' cs with
  | none => .error .openRepetition
  | some (inner, rest) =>
    let body := inner.filter fun c => !isBlank c
    match Text.splitOnce ',' body with
    | none =>
      let n ← bound body body
      .ok (.mark (.exactly n), rest)
    | some (least, []) =>
      let n ← bound body least
      .ok (.mark (.atLeast n), rest)
    | some (least, most) =>
      let n ← bound body least
      let m ← bound body most
      .ok (.mark (.between n m), rest)

/-- The name of a class and its end, after the opening colon. -/
def className? : List Char → Option (List Char × List Char)
  | [] => none
  | ':' :: ']' :: rest => some ([], rest)
  | c :: rest => (className? rest).map fun (name, rest) => (c :: name, rest)

/-- The character or range that begins with `first`. -/
def range (extended : Bool) (first : Char) (cs : List Char) :
    Except Obstacle (Range × List Char) := do
  let cs := skipSpace extended cs
  match cs with
  | ['-'] => .ok ((first, first), cs)
  | '-' :: ']' :: _ => .ok ((first, first), cs)
  | '-' :: '-' :: _ => .error .setOperation
  | '-' :: rest =>
    match skipSpace extended rest with
    | [] => .error .openClass
    | '\\' :: rest =>
      match ← escape rest with
      | (.char last, rest) => .ok ((first, last), rest)
      | _ => .error .rangeEnd
    | last :: rest => .ok ((first, last), rest)
  | cs => .ok ((first, first), cs)

/-- The members of a class from one of them on. -/
def members (extended : Bool) :
    Nat → Bool → List Range → List Char → Except Obstacle (List Range × List Char)
  -- The fuel bounds the number of members.
  | 0, _, _, _ => .error .openClass
  | fuel + 1, first, ranges, cs =>
    match skipSpace extended cs with
    | [] => .error .openClass
    | c :: rest =>
      if c == ']' && !first then .ok (ranges, rest)
      else if c == '[' then
        match rest with
        | ':' :: rest =>
          match className? rest with
          | none => .error .openClassName
          | some (name, rest) =>
            match namedRanges? (String.ofList name) with
            | some set => members extended fuel false (ranges ++ set) rest
            | none => .error (.className (String.ofList name))
        | _ => .error .nestedClass
      else if (c == '&' || c == '-' || c == '~') && rest.head? == some c then
        .error .setOperation
      else if c == '\\' then do
        match ← escape rest with
        | (.char c, rest) =>
          let (r, rest) ← range extended c rest
          members extended fuel false (ranges ++ [r]) rest
        | (.set false set, rest) => members extended fuel false (ranges ++ set) rest
        | (.set true _, _) => .error .negatedEscape
        | (.assertion _, _) => .error .assertionInClass
      else do
        let (r, rest) ← range extended c rest
        members extended fuel false (ranges ++ [r]) rest

def charClass (extended : Bool) (cs : List Char) : Except Obstacle (Piece × List Char) := do
  let cs := skipSpace extended cs
  let (negated, cs) := match cs with
    | '^' :: rest => (true, rest)
    | cs => (false, cs)
  let (ranges, rest) ← members extended (cs.length + 1) true [] cs
  .ok (.set negated ranges, rest)

def mark? (c : Char) : Option Mark :=
  match c with
  | ')' => some .close
  | '|' => some .bar
  | '^' => some .lineStart
  | '$' => some .lineEnd
  | '*' => some .star
  | '+' => some .plus
  | '?' => some .optional
  | _ => none

/-- The piece that begins with a character, and what follows it. -/
def piece (extended : Bool) (c : Char) (rest : List Char) :
    Except Obstacle (Piece × List Char) := do
  match c with
  | '\\' =>
    match ← escape rest with
    | (.char c, rest) => .ok (.literal c, rest)
    | (.set negated ranges, rest) => .ok (.set negated ranges, rest)
    | (.assertion p, rest) => .ok (p, rest)
  | '[' => charClass extended rest
  | '(' => group extended rest
  | '{' => repetition rest
  | '.' => .ok (.anyChar, rest)
  | c =>
    match mark? c with
    | some m => .ok (.mark m, rest)
    | none => .ok (.literal c, rest)

def piecesFrom (extended : Bool) : Nat → List Char → Except Obstacle (List Piece)
  -- The fuel bounds the number of pieces.
  | 0, _ => .ok []
  | fuel + 1, cs =>
    match skipSpace extended cs with
    | [] => .ok []
    | c :: rest => do
      let (p, rest) ← piece extended c rest
      let ps ← piecesFrom extended fuel rest
      .ok (p :: ps)

end Dialect

def pieces (extended : Bool) (source : List Char) : Except Obstacle (List Piece) :=
  Dialect.piecesFrom extended (source.length + 1) source

end Catalog.Pattern
