import Catalog.Yaml.Cursor

/-!
Scalars of a YAML text in their four written forms: plain, in single quotes, in double quotes, and
as a block of lines. Lines are folded: a single break between two lines reads as a space.
-/
namespace Catalog.Yaml

/-- The blanks between two words of a folded scalar. -/
structure Fold where
  spaces : List Char := []
  broken : Bool := false
  firstBreak : List Char := []
  moreBreaks : List Char := []

namespace Fold

/-- What the blanks read as. -/
def chars (f : Fold) : List Char :=
  if f.broken then
    if f.firstBreak == ['\n'] then
      if f.moreBreaks.isEmpty then [' '] else f.moreBreaks
    else f.firstBreak ++ f.moreBreaks
  else f.spaces

/-- The blanks at the cursor. On a new line no tab may stand left of the given column. -/
def scan (column : Nat) : Nat → Fold → Cursor → Option (Fold × Cursor)
  -- The fuel bounds the number of characters.
  | 0, f, k => some (f, k)
  | fuel + 1, f, k =>
    match k.peek with
    | none => some (f, k)
    | some c =>
      if isGap c then
        if f.broken then
          if c == '\t' && k.column < column then none else scan column fuel f k.skip
        else scan column fuel { f with spaces := f.spaces ++ [c] } k.skip
      else if isBreak c then
        if f.broken then
          scan column fuel { f with moreBreaks := f.moreBreaks ++ k.breakText } k.skipBreak
        else scan column fuel ⟨[], true, k.breakText, []⟩ k.skipBreak
      else some (f, k)

end Fold

/-- Characters that end a plain scalar within brackets. -/
def endsFlow (c : Char) : Bool := [',', '[', ']', '{', '}'].contains c

/-- The characters of a plain scalar up to a blank or to its end; none if a colon stands before a
bracket. -/
def plainWord? (inFlow : Bool) : Nat → Cursor → Option (List Char × Cursor)
  -- The fuel bounds the number of characters.
  | 0, k => some ([], k)
  | fuel + 1, k =>
    match k.peek with
    | none => some ([], k)
    | some c =>
      let next := k.peekAt 1
      if isGap c || isBreak c then some ([], k)
      else if inFlow && c == ':' && (next.any fun d => endsFlow d || d == '?') then none
      else if (c == ':' && endsWord next) || (inFlow && endsFlow c) then some ([], k)
      else (plainWord? inFlow fuel k.skip).map fun (cs, k) => (c :: cs, k)

/-- A plain scalar that stands deeper than the given column, unless within brackets: its characters,
and whether a line break follows them. -/
def plainFrom? (inFlow : Bool) (column : Nat) :
    Nat → Fold → Cursor → Option (List Char × Bool × Cursor)
  -- The fuel bounds the number of words.
  | 0, f, k => some ([], f.broken, k)
  | fuel + 1, f, k =>
    if k.atDocumentMark || k.peek == some '#' then some ([], f.broken, k)
    else do
      let (word, k) ← plainWord? inFlow k.rest.length k
      let read := if word.isEmpty then [] else f.chars ++ word
      let pending := if word.isEmpty then f else {}
      if k.peek.any fun c => isGap c || isBreak c then
        let (f, k) ← pending.scan column k.rest.length k
        if !inFlow && k.column < column then some (read, f.broken, k)
        else do
          let (cs, broken, k) ← plainFrom? inFlow column fuel f k
          some (read ++ cs, broken, k)
      else some (read, pending.broken, k)

def plain? (inFlow : Bool) (column : Nat) (k : Cursor) : Option (List Char × Bool × Cursor) :=
  plainFrom? inFlow column (k.rest.length + 1) {} k

/-- The escapes of one letter. -/
def shortEscapes : List (Char × Nat) :=
  [('0', 0), ('a', 7), ('b', 8), ('t', 9), ('\t', 9), ('n', 10), ('v', 11), ('f', 12), ('r', 13),
    ('e', 27), (' ', 32), ('"', 34), ('/', 47), ('\\', 92), ('N', 0x85), ('_', 0xA0), ('L', 0x2028),
    ('P', 0x2029)]

/-- The escapes by number, with the count of their digits. -/
def longEscapes : List (Char × Nat) := [('x', 2), ('u', 4), ('U', 8)]

def hexadecimal? (cs : List Char) : Option Nat :=
  cs.foldlM (fun n c => (Text.hexValue? c).map fun d => n * 16 + d) 0

/-- The character that an escape stands for; the cursor stands after the backslash. -/
def escape? (k : Cursor) : Option (Char × Cursor) := do
  let c ← k.peek
  match shortEscapes.lookup c, longEscapes.lookup c with
  | some n, _ => some (Char.ofNat n, k.skip)
  | none, some count =>
    let digits := k.skip.rest.take count
    let n ← if digits.length == count then hexadecimal? digits else none
    if n < 0xD800 || (0xE000 ≤ n && n < 0x110000) then
      some (Char.ofNat n, k.skipMany (count + 1))
    else none
  | none, none => none

/-- The characters of a quoted scalar up to a blank or to its end, and whether they end in an
escaped line break. -/
def quotedWord? (quote : Char) : Nat → Cursor → Option (List Char × Bool × Cursor)
  -- The fuel bounds the number of characters.
  | 0, k => some ([], false, k)
  | fuel + 1, k =>
    match k.peek with
    | none => some ([], false, k)
    | some c =>
      if isGap c || isBreak c then some ([], false, k)
      else if quote == '\'' && c == quote && k.peekAt 1 == some quote then
        (quotedWord? quote fuel (k.skipMany 2)).map fun (cs, b, k) => (c :: cs, b, k)
      else if c == quote then some ([], false, k)
      else if quote == '"' && c == '\\' then
        if k.skip.peek.any isBreak then some ([], true, k.skip.skipBreak)
        else do
          let (c, k) ← escape? k.skip
          let (cs, b, k) ← quotedWord? quote fuel k
          some (c :: cs, b, k)
      else (quotedWord? quote fuel k.skip).map fun (cs, b, k) => (c :: cs, b, k)

def quotedFrom? (quote : Char) : Nat → Cursor → Option (List Char × Cursor)
  -- The fuel bounds the number of words.
  | 0, _ => none
  | fuel + 1, k =>
    if k.atDocumentMark || k.peek.isNone then none
    else do
      let (word, joined, k) ← quotedWord? quote k.rest.length k
      if k.peek == some quote then some (word, k.skip)
      else do
        let (f, k) ← Fold.scan 0 k.rest.length { broken := joined } k
        let (cs, k) ← quotedFrom? quote fuel k
        some (word ++ f.chars ++ cs, k)

/-- A quoted scalar; the cursor stands on its opening quote. -/
def quoted? (quote : Char) (k : Cursor) : Option (List Char × Cursor) :=
  quotedFrom? quote (k.rest.length + 1) k.skip

/-- What becomes of the line breaks at the end of a block. -/
inductive Chomp where
  | strip | clip | keep
  deriving DecidableEq, Repr

def chomp? : Char → Option Chomp
  | '-' => some .strip
  | '+' => some .keep
  | _ => none

def depth? (c : Char) : Option Nat :=
  if Text.isDigit c && c != '0' then some (Text.digitValue c) else none

/-- The marks after the sign of a block, in either order. -/
def blockHeader (k : Cursor) : Chomp × Option Nat × Cursor :=
  let ofChar (c : Option Char) : Option Chomp := c.bind chomp?
  let first := k.peek
  let second := k.peekAt 1
  match ofChar first, first.bind depth? with
  | some chomp, _ =>
    match second.bind depth? with
    | some n => (chomp, some n, k.skipMany 2)
    | none => (chomp, none, k.skip)
  | none, some n =>
    match ofChar second with
    | some chomp => (chomp, some n, k.skipMany 2)
    | none => (.clip, some n, k.skip)
  | none, none => (.clip, none, k)

/-- Empty lines of a block, up to the depth of its lines if that is known. Also the greatest depth
seen. None if a tab stands in the way. -/
def blockBreaks? (depth : Option Nat) : Nat → Nat → Cursor → Option (List Char × Nat × Cursor)
  -- The fuel bounds the number of lines.
  | 0, most, k => some ([], most, k)
  | fuel + 1, most, k =>
    let blanks := (k.rest.takeWhile (· == ' ')).length
    let inside := match depth with
      | some d => min blanks (d - k.column)
      | none => blanks
    let k := k.skipMany inside
    let most := max most k.column
    if k.peek == some '\t' && depth.all (fun d => k.column < d) then none
    else if k.peek.any isBreak then
      (blockBreaks? depth fuel most k.skipBreak).map fun (cs, most, after) =>
        (k.breakText ++ cs, most, after)
    else some ([], most, k)

/-- The lines of a block from the cursor on, which stands at the depth of the block if a line
follows. `leading` is the break before the line, `trailing` the empty lines after that. -/
def blockLines? (folded : Bool) (chomp : Chomp) (depth : Nat) :
    Nat → (leadingBlank : Bool) → (leading trailing : List Char) → Cursor →
      Option (List Char × Cursor)
  -- The fuel bounds the number of lines.
  | 0, _, _, _, _ => none
  | fuel + 1, leadingBlank, leading, trailing, k =>
    if k.column == depth && k.peek.isSome then do
      let blank := k.peek.any isGap
      let before :=
        if folded && leading == ['\n'] && !leadingBlank && !blank then
          if trailing.isEmpty then [' '] else []
        else leading
      let (line, k) := k.takeWhile fun c => !isBreak c
      let leading := k.breakText
      let (more, _, k) ← blockBreaks? (some depth) (k.rest.length + 1) 0 k.skipBreak
      let (cs, k) ← blockLines? folded chomp depth fuel blank leading more k
      some (before ++ trailing ++ line ++ cs, k)
    else
      let ending := match chomp with
        | .strip => []
        | .clip => leading
        | .keep => leading ++ trailing
      some (ending, k)

/-- A block scalar within the given depth; the cursor stands on its sign. -/
def block? (folded : Bool) (parent : Int) (k : Cursor) : Option (List Char × Cursor) := do
  let (chomp, given, k) := blockHeader k.skip
  let k := (k.takeWhile isGap).2
  let k := if k.peek == some '#' then (k.takeWhile fun c => !isBreak c).2 else k
  if k.peek.isSome && !(k.peek.any isBreak) then none
  let k := k.skipBreak
  let depth := given.map fun n => if 0 ≤ parent then parent.toNat + n else n
  let (trailing, most, k) ← blockBreaks? depth (k.rest.length + 1) 0 k
  let depth := depth.getD (max most (max (parent + 1).toNat 1))
  blockLines? folded chomp depth (k.rest.length + 1) false [] trailing k

end Catalog.Yaml
