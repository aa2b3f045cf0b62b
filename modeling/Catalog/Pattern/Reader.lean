import Catalog.Pattern.Expression
import Catalog.Pattern.Trivia

/-!
Reading regular expressions. Sets and groups are read by stepping over the text with the sets and
groups that are still open on a stack; each step consumes at least one character, so the length of
the text bounds the number of steps. What cannot be read is refused without a reason.
-/
namespace Catalog.Pattern

open Text (isBlank isDigit dropStart?)

/-- What an escape or a single character stands for. -/
inductive Primitive where
  | literal (l : Literal)
  | assertion (a : Assertion)
  | short (name : ShortClass) (negated : Bool)
  | property (p : Property) (negated : Bool)
  | dot
  deriving Repr

namespace Primitive

def char (c : Char) : Primitive := .literal ⟨c, false⟩

def toExpression : Primitive → Expression
  | .literal l => .literal l
  | .assertion a => .assertion a
  | .short name negated => .short name negated
  | .property p negated => .property p negated
  | .dot => .dot

/-- Assertions and the dot have no place in a set. -/
def toSet? : Primitive → Option CharSet
  | .literal l => some (.literal l)
  | .short name negated => some (.short name negated)
  | .property p negated => some (.property p negated)
  | _ => none

def literal? : Primitive → Option Literal
  | .literal l => some l
  | _ => none

end Primitive

namespace Reader

def isMeta (c : Char) : Bool := "\\.+*?()|[]\x7b\x7d^$#&-~".toList.contains c

/-- ASCII characters other than letters, digits and angle brackets may be escaped. -/
def isEscapable (c : Char) : Bool :=
  Text.isAscii c && !Text.isAsciiAlphanumeric c && c != '<' && c != '>'

def hexNumber (digits : List Char) : Nat :=
  digits.foldl (fun n c => n * 16 + (Text.hexValue? c).getD 0) 0

def isHex (c : Char) : Bool := (Text.hexValue? c).isSome

def charOf? (code : Nat) : Option Char :=
  if code < 0xD800 || (0xE000 ≤ code && code < 0x110000) then some (Char.ofNat code) else none

/-- A fixed number of hexadecimal digits. -/
def hexDigits? (extended : Bool) : Nat → List Char → Option (List Char × List Char)
  | 0, cs => some ([], cs)
  | n + 1, c :: rest =>
    if isHex c then
      (hexDigits? extended n (skipSpace extended rest)).map fun (ds, rest) => (c :: ds, rest)
    else none
  | _ + 1, [] => none

/-- A character code: between braces, or with the given number of digits. -/
def charCode? (extended : Bool) (digits : Nat) (cs : List Char) :
    Option (Literal × List Char) := do
  match skipSpace extended cs with
  | '{' :: rest =>
    let (body, rest) ← braceBody? extended false rest
    if body.isEmpty || !body.all isHex then none
    let c ← charOf? (hexNumber body)
    some (⟨c, false⟩, skipSpace extended rest)
  | cs =>
    let (body, rest) ← hexDigits? extended digits cs
    let c ← charOf? (hexNumber body)
    some (⟨c, digits == 2⟩, rest)

/-- What stands before and after the first place where `mark` occurs. -/
def cutAt? (mark : List Char) : List Char → Option (List Char × List Char)
  | [] => none
  | c :: rest =>
    match dropStart? mark (c :: rest) with
    | some after => some ([], after)
    | none => (cutAt? mark rest).map fun (before, after) => (c :: before, after)

/-- The property a name in braces denotes; true if the name itself negates it. -/
def propertyOf (name : List Char) : Property × Bool :=
  let valued (parts : List Char × List Char) : Property :=
    .valued (String.ofList parts.1) (String.ofList parts.2)
  match cutAt? ['!', '='] name with
  | some parts => (valued parts, true)
  | none =>
    match cutAt? [':'] name with
    | some parts => (valued parts, false)
    | none =>
      match cutAt? ['='] name with
      | some parts => (valued parts, false)
      | none => (.named (String.ofList name), false)

def property? (extended negated : Bool) (cs : List Char) : Option (Primitive × List Char) := do
  match skipSpace extended cs with
  | '{' :: rest =>
    let (name, rest) ← braceBody? extended false rest
    let (p, flipped) := propertyOf name
    some (.property p (negated != flipped), rest)
  | '\\' :: _ => none
  | c :: rest => some (.property (.named (String.ofList [c])) negated, skipSpace extended rest)
  | [] => none

def isBoundaryName (c : Char) : Bool := Text.isAsciiLetter c || c == '-'

/-- A word boundary, with what braces after it make of it. -/
def boundary? (extended : Bool) (cs : List Char) : Option (Primitive × List Char) :=
  match cs with
  | '{' :: rest =>
    match skipSpace extended rest with
    | [] => none
    | c :: _ =>
      if isBoundaryName c then do
        let (name, rest) ← braceBody? extended false rest
        match String.ofList name with
        | "start" => some (.assertion .wordStart, rest)
        | "end" => some (.assertion .wordEnd, rest)
        | "start-half" => some (.assertion .wordStartHalf, rest)
        | "end-half" => some (.assertion .wordEndHalf, rest)
        | _ => none
      -- The braces are left for a repetition.
      else some (.assertion .boundary, cs)
  | cs => some (.assertion .boundary, cs)

def escape? (extended : Bool) : List Char → Option (Primitive × List Char)
  | [] => none
  | c :: rest =>
    match c with
    | 'x' => (charCode? extended 2 rest).map fun (l, rest) => (.literal l, rest)
    | 'u' => (charCode? extended 4 rest).map fun (l, rest) => (.literal l, rest)
    | 'U' => (charCode? extended 8 rest).map fun (l, rest) => (.literal l, rest)
    | 'p' => property? extended false rest
    | 'P' => property? extended true rest
    | 'd' => some (.short .digit false, rest)
    | 'D' => some (.short .digit true, rest)
    | 's' => some (.short .space false, rest)
    | 'S' => some (.short .space true, rest)
    | 'w' => some (.short .word false, rest)
    | 'W' => some (.short .word true, rest)
    | 'a' => some (.char (Char.ofNat 7), rest)
    | 'f' => some (.char (Char.ofNat 12), rest)
    | 't' => some (.char '\t', rest)
    | 'n' => some (.char '\n', rest)
    | 'r' => some (.char '\r', rest)
    | 'v' => some (.char (Char.ofNat 11), rest)
    | 'A' => some (.assertion .textStart, rest)
    | 'z' => some (.assertion .textEnd, rest)
    | 'b' => boundary? extended rest
    | 'B' => some (.assertion .noBoundary, rest)
    | '<' => some (.assertion .wordStart, rest)
    | '>' => some (.assertion .wordEnd, rest)
    | c => if isMeta c || isEscapable c then some (.char c, rest) else none

/-! Bracketed sets -/

/-- A set that is still open: its items, latest first, and what they are to be combined with. -/
structure OpenSet where
  negated : Bool
  pending : Option (SetOperation × CharSet)
  items : List CharSet

namespace OpenSet

def add (s : OpenSet) (item : CharSet) : OpenSet := { s with items := item :: s.items }

/-- The set as far as it has been read. -/
def set (s : OpenSet) : CharSet :=
  let item := CharSet.ofItems s.items.reverse
  match s.pending with
  | none => item
  | some (operation, left) => .combined operation left item

def combine (s : OpenSet) (operation : SetOperation) : OpenSet :=
  ⟨s.negated, some (operation, s.set), []⟩

end OpenSet

def asciiClass? (name : List Char) : Option AsciiClass :=
  match String.ofList name with
  | "alnum" => some .alnum
  | "alpha" => some .alpha
  | "ascii" => some .ascii
  | "blank" => some .blank
  | "cntrl" => some .cntrl
  | "digit" => some .digit
  | "graph" => some .graph
  | "lower" => some .lower
  | "print" => some .print
  | "punct" => some .punct
  | "space" => some .space
  | "upper" => some .upper
  | "word" => some .word
  | "xdigit" => some .xdigit
  | _ => none

/-- A named class after an opening bracket, such as `:alpha:]`. -/
def namedClass? (cs : List Char) : Option (CharSet × List Char) := do
  let cs ← dropStart? [':'] cs
  let (negated, cs) := match cs with
    | '^' :: rest => (true, rest)
    | cs => (false, cs)
  let (name, cs) ← cutAt? [':'] cs
  let cs ← dropStart? [']'] cs
  let name ← asciiClass? name
  some (.ascii name negated, cs)

/-- The beginning of a set after its opening bracket. -/
def openSet? (extended : Bool) (cs : List Char) : Option (OpenSet × List Char) := do
  let cs := skipSpace extended cs
  let (negated, cs) := match cs with
    | '^' :: rest => (true, skipSpace extended rest)
    | cs => (false, cs)
  -- Hyphens and a closing bracket that come first are members.
  let (hyphens, cs) := leadingHyphens extended false cs
  let items := List.replicate hyphens (CharSet.literal ⟨'-', false⟩)
  match cs with
  | [] => none
  | ']' :: rest =>
    if hyphens == 0 then
      match skipSpace extended rest with
      | [] => none
      | cs => some (⟨negated, none, [.literal ⟨']', false⟩]⟩, cs)
    else some (⟨negated, none, items⟩, cs)
  | cs => some (⟨negated, none, items⟩, cs)

def setItem? (extended : Bool) : List Char → Option (Primitive × List Char)
  | [] => none
  | '\\' :: rest => escape? extended rest
  | c :: rest => some (.char c, rest)

def setRange? (extended : Bool) (cs : List Char) : Option (CharSet × List Char) := do
  let (first, cs) ← setItem? extended cs
  match skipSpace extended cs with
  | [] => none
  | '-' :: rest =>
    -- A hyphen that is the last member, or stands before another one, begins no range.
    let next := peekSpace extended rest
    if next == some ']' || next == some '-' then
      let item ← first.toSet?
      some (item, '-' :: rest)
    else
      let (last, cs) ← setItem? extended (skipSpace extended rest)
      let first ← first.literal?
      let last ← last.literal?
      if first.char ≤ last.char then some (.range first last, cs) else none
  | cs =>
    let item ← first.toSet?
    some (item, cs)

/-- Reads on in an open set. -/
def setFrom? (extended : Bool) :
    Nat → List OpenSet → OpenSet → List Char → Option (Bool × CharSet × List Char)
  -- The fuel bounds the number of steps.
  | 0, _, _, _ => none
  | fuel + 1, outer, s, cs =>
    match skipSpace extended cs with
    | [] => none
    | '[' :: rest =>
      match namedClass? rest with
      | some (item, rest) => setFrom? extended fuel outer (s.add item) rest
      | none => do
        let (inner, rest) ← openSet? extended rest
        setFrom? extended fuel (s :: outer) inner rest
    | ']' :: rest =>
      match outer with
      | [] => some (s.negated, s.set, rest)
      | parent :: outer =>
        setFrom? extended fuel outer (parent.add (.bracketed s.negated s.set)) rest
    | '&' :: '&' :: rest => setFrom? extended fuel outer (s.combine .intersection) rest
    | '-' :: '-' :: rest => setFrom? extended fuel outer (s.combine .difference) rest
    | '~' :: '~' :: rest => setFrom? extended fuel outer (s.combine .symmetric) rest
    | cs => do
      let (item, rest) ← setRange? extended cs
      setFrom? extended fuel outer (s.add item) rest

def set? (extended : Bool) (cs : List Char) : Option (Bool × CharSet × List Char) := do
  let (s, rest) ← openSet? extended cs
  setFrom? extended (rest.length + 1) [] s rest

/-! Repetitions -/

/-- The largest number that fits in 32 bits. -/
def largestCount : Nat := 4294967295

/-- A number with blanks around it. -/
def count? (extended : Bool) (cs : List Char) : Option (Nat × List Char) :=
  let (digits, rest) := digitRun extended false (Text.dropBlank cs)
  let n := Text.decimal digits
  if digits.isEmpty || largestCount < n then none
  else some (n, skipSpace extended (Text.dropBlank rest))

/-- The upper bound of a counted repetition, from behind the comma. -/
def upper? (extended : Bool) (least : Nat) (cs : List Char) :
    Option ((Nat × Option Nat) × List Char) :=
  match skipSpace extended cs with
  | '}' :: rest => some ((least, none), rest)
  | cs => do
    let (most, cs) ← count? extended cs
    let rest ← dropStart? ['}'] cs
    if least ≤ most then some ((least, some most), rest) else none

/-- The bounds of a counted repetition after its opening brace. -/
def bounds? (extended : Bool) (cs : List Char) : Option ((Nat × Option Nat) × List Char) := do
  let (least, cs) ← count? extended (skipSpace extended cs)
  match cs with
  | '}' :: rest => some ((least, some least), rest)
  | ',' :: rest => upper? extended least rest
  | _ => none

/-! Groups -/

def flag? (c : Char) : Option Flag :=
  match c with
  | 'i' => some .caseInsensitive
  | 'm' => some .multiLine
  | 's' => some .dotAll
  | 'U' => some .swapGreed
  | 'u' => some .unicode
  | 'R' => some .crlf
  | 'x' => some .extended
  | _ => none

/-- Flag items up to a colon or a closing bracket, none of them twice and no minus sign last.
True if a colon ended them. -/
def flags? (seen : List FlagItem) : List Char → Option (List FlagItem × Bool × List Char)
  | [] => none
  | c :: rest =>
    if c == ':' || c == ')' then
      if seen.getLast? == some .negation then none else some (seen, c == ':', rest)
    else
      let item := if c == '-' then some FlagItem.negation else (flag? c).map FlagItem.flag
      match item with
      | none => none
      | some item => if seen.contains item then none else flags? (seen ++ [item]) rest

def isNameStart (c : Char) : Bool := c == '_' || Text.isAlphabetic c

def isNamePart (c : Char) : Bool :=
  c == '_' || c == '.' || c == '[' || c == ']' || Text.isAlphanumeric c

/-- The name of a group, up to the closing angle bracket. -/
def groupName? (cs : List Char) : Option (List Char × List Char) := do
  let (name, rest) ← cutAt? ['>'] cs
  match name with
  | [] => none
  | c :: more => if isNameStart c && more.all isNamePart then some (name, rest) else none

inductive Opening where
  | group (flags : List FlagItem) (name : Option (List Char))
  | flags (items : List FlagItem)

def isLookaround (cs : List Char) : Bool :=
  [['?', '='], ['?', '!'], ['?', '<', '='], ['?', '<', '!']].any fun mark =>
    (dropStart? mark cs).isSome

def opening? (extended : Bool) (cs : List Char) : Option (Opening × List Char) :=
  let cs := skipSpace extended cs
  if isLookaround cs then none
  else
    match cs with
    | '?' :: 'P' :: '<' :: rest =>
      (groupName? rest).map fun (name, rest) => (.group [] (some name), rest)
    | '?' :: '<' :: rest =>
      (groupName? rest).map fun (name, rest) => (.group [] (some name), rest)
    | '?' :: rest => do
      let (items, colon, rest) ← flags? [] rest
      if colon then some (.group items none, rest)
      else if items.isEmpty then none
      else some (.flags items, rest)
    | cs => some (.group [] none, cs)

/-- A group that is still open, with what stands before it outside. -/
structure OpenGroup where
  flags : List FlagItem
  parts : List Expression
  branches : List Expression
  extended : Bool

/-- How far an expression has been read: the parts of the current branch and the branches before
it, latest first, the groups around them, and the names given so far. -/
structure Progress where
  parts : List Expression
  branches : List Expression
  outer : List OpenGroup
  extended : Bool
  names : List (List Char)

namespace Progress

def add (p : Progress) (e : Expression) : Progress := { p with parts := e :: p.parts }

def body (p : Progress) : Expression :=
  let last := Expression.ofParts p.parts.reverse
  match p.branches with
  | [] => last
  | branches => .alternation (branches.reverse ++ [last])

def open? (p : Progress) (opening : Opening) : Option Progress :=
  match opening with
  | .flags items =>
    some { p.add (.flags items) with
      extended := (flagState? .extended items).getD p.extended }
  | .group flags name =>
    let inner : Progress :=
      ⟨[], [], ⟨flags, p.parts, p.branches, p.extended⟩ :: p.outer,
        (flagState? .extended flags).getD p.extended, name.toList ++ p.names⟩
    if name.any p.names.contains then none else some inner

def close? (p : Progress) : Option Progress :=
  match p.outer with
  | [] => none
  | g :: outer =>
    some ⟨.group g.flags p.body :: g.parts, g.branches, outer, g.extended, p.names⟩

/-- Repeats the last part; there must be one, and it must not be a mere flag setting. -/
def repeat? (p : Progress) (least : Nat) (most : Option Nat) (greedy : Bool) : Option Progress :=
  match p.parts with
  | [] => none
  | .empty :: _ => none
  | .flags _ :: _ => none
  | e :: parts => some { p with parts := .repetition least most greedy e :: parts }

end Progress

/-- Is the repetition sign followed by a question mark? And what follows then. -/
def lazyMark (cs : List Char) : Bool × List Char :=
  match cs with
  | '?' :: rest => (false, rest)
  | cs => (true, cs)

/-- Reads one item at the start of a text without leading blanks. -/
def step? (p : Progress) (c : Char) (rest : List Char) : Option (Progress × List Char) :=
  match c with
  | '(' => do
    let (opening, rest) ← opening? p.extended rest
    let p ← p.open? opening
    some (p, rest)
  | ')' => p.close?.map fun p => (p, rest)
  | '|' =>
    some ({ p with parts := [], branches := Expression.ofParts p.parts.reverse :: p.branches },
      rest)
  | '[' => do
    let (negated, set, rest) ← set? p.extended rest
    some (p.add (.bracketed negated set), rest)
  | '?' =>
    let (greedy, rest) := lazyMark rest
    (p.repeat? 0 (some 1) greedy).map fun p => (p, rest)
  | '*' =>
    let (greedy, rest) := lazyMark rest
    (p.repeat? 0 none greedy).map fun p => (p, rest)
  | '+' =>
    let (greedy, rest) := lazyMark rest
    (p.repeat? 1 none greedy).map fun p => (p, rest)
  | '{' => do
    let ((least, most), rest) ← bounds? p.extended rest
    let (greedy, rest) := lazyMark (skipSpace p.extended rest)
    let p ← p.repeat? least most greedy
    some (p, rest)
  | '\\' => do
    let (primitive, rest) ← escape? p.extended rest
    some (p.add primitive.toExpression, rest)
  | '.' => some (p.add .dot, rest)
  | '^' => some (p.add (.assertion .lineStart), rest)
  | '$' => some (p.add (.assertion .lineEnd), rest)
  | c => some (p.add (.literal ⟨c, false⟩), rest)

/-- Reads on until the text ends with no group open. -/
def run? : Nat → Progress → List Char → Option Expression
  -- The fuel bounds the number of steps.
  | 0, _, _ => none
  | fuel + 1, p, cs =>
    match skipSpace p.extended cs with
    | [] => if p.outer.isEmpty then some p.body else none
    | c :: rest => do
      let (p, rest) ← step? p c rest
      run? fuel p rest

end Reader

namespace Expression

/-- The expression that a text spells; none if it spells none or nests too deeply. -/
def read? (extended : Bool) (source : List Char) : Option Expression := do
  let e ← Reader.run? (source.length + 1) ⟨[], [], [], extended, []⟩ source
  if e.depth ≤ deepest then some e else none

end Expression

end Catalog.Pattern
