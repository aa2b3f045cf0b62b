import Catalog.Text.Blank
import Catalog.Yaml.Scalar

/-!
The tokens of a YAML text. Indentation becomes tokens of its own: a block begins where a line
stands deeper than the block around it and ends where one stands less deep. A key is known for one
only when its colon is found, so that its token is put in behind what has been scanned by then.
-/
namespace Catalog.Yaml

inductive Token where
  | version
  | tagName (handle meaning : String)
  | documentStart
  | documentEnd
  | blockSequence
  | blockMapping
  | blockEnd
  | openSequence
  | closeSequence
  | openMapping
  | closeMapping
  | entry
  | separator
  | key
  | value
  | alias (name : String)
  | anchor (name : String)
  | tag (handle suffix : String)
  | scalar (text : String) (plain literal : Bool)
  deriving DecidableEq, Repr

/-- A place where a key may have begun. -/
structure KeyPlace where
  /-- How many tokens stand before it. -/
  tokens : Nat
  index : Nat
  line : Nat
  column : Nat
  /-- Nothing but a key can stand here. -/
  required : Bool

structure Scan where
  cursor : Cursor
  /-- The columns of the open blocks, innermost first. -/
  blocks : List Nat := []
  keyAllowed : Bool := true
  /-- The place of a key outside of brackets. -/
  place : Option KeyPlace := none
  /-- The places of keys within each open bracket, innermost first. -/
  brackets : List (Option KeyPlace) := []
  /-- What has been scanned, latest first. -/
  tokens : List Token := []

namespace Scan

def inFlow (s : Scan) : Bool := !s.brackets.isEmpty

/-- The column of the innermost block; outside of all blocks it is less than any. -/
def depth (s : Scan) : Int :=
  match s.blocks with
  | column :: _ => column
  | [] => -1

def emit (s : Scan) (t : Token) : Scan := { s with tokens := t :: s.tokens }

def moveTo (s : Scan) (k : Cursor) : Scan := { s with cursor := k }

def allowKey (s : Scan) (allowed : Bool) : Scan := { s with keyAllowed := allowed }

def currentPlace (s : Scan) : Option KeyPlace :=
  match s.brackets with
  | place :: _ => place
  | [] => s.place

def setPlace (s : Scan) (place : Option KeyPlace) : Scan :=
  match s.brackets with
  | _ :: rest => { s with brackets := place :: rest }
  | [] => { s with place := place }

/-- Places too far back for a key: on an earlier line, or more than 1024 characters away. -/
def isStale (s : Scan) (p : KeyPlace) : Bool :=
  p.line < s.cursor.line || p.index + 1024 < s.cursor.index

/-- Gives up places that are too far back, unless a key is required there. -/
def dropStale? (s : Scan) : Option Scan := do
  let keep (place : Option KeyPlace) : Option (Option KeyPlace) :=
    match place with
    | some p => if s.isStale p then (if p.required then none else some none) else some (some p)
    | none => some none
  let place ← keep s.place
  let brackets ← s.brackets.mapM keep
  some { s with place := place, brackets := brackets }

/-- Gives up the current place, unless a key is required there. -/
def dropPlace? (s : Scan) : Option Scan :=
  if s.currentPlace.any (·.required) then none else some (s.setPlace none)

/-- A key may begin here. -/
def markPlace? (s : Scan) : Option Scan :=
  if s.keyAllowed then do
    let required := !s.inFlow && s.depth == s.cursor.column
    let s ← s.dropPlace?
    some (s.setPlace (some ⟨s.tokens.length, s.cursor.index, s.cursor.line, s.cursor.column,
      required⟩))
  else some s

/-- Puts a token behind the first so many. -/
def insertAfter (s : Scan) (count : Nat) (t : Token) : Scan :=
  let later := s.tokens.length - count
  { s with tokens := s.tokens.take later ++ t :: s.tokens.drop later }

/-- Opens a block at a column that is deeper than the blocks around it. -/
def openBlock (s : Scan) (column count : Nat) (t : Token) : Scan :=
  if !s.inFlow && s.depth < column then
    { s.insertAfter count t with blocks := column :: s.blocks }
  else s

/-- How many blocks are deeper than a column. -/
def deeper (column : Int) (blocks : List Nat) : Nat :=
  (blocks.takeWhile fun b => decide (column < Int.ofNat b)).length

/-- Closes the blocks that are deeper than a column. -/
def closeBlocks (s : Scan) (column : Int) : Scan :=
  if s.inFlow then s
  else
    let count := deeper column s.blocks
    { s with
      blocks := s.blocks.drop count,
      tokens := List.replicate count Token.blockEnd ++ s.tokens }

/-- Skips blanks, comments and line breaks. -/
def skipBlank : Nat → Scan → Scan
  -- The fuel bounds the number of characters.
  | 0, s => s
  | fuel + 1, s =>
    match s.cursor.peek with
    | none => s
    | some c =>
      if c == ' ' || (c == '\t' && (s.inFlow || !s.keyAllowed)) then
        skipBlank fuel (s.moveTo s.cursor.skip)
      else if c == '#' then
        skipBlank fuel (s.moveTo (s.cursor.takeWhile fun c => !isBreak c).2)
      else if isBreak c then
        skipBlank fuel ((s.moveTo s.cursor.skipBreak).allowKey (s.keyAllowed || !s.inFlow))
      else s

def single (s : Scan) (t : Token) : Scan := (s.moveTo s.cursor.skip).emit t

def documentMark? (s : Scan) (t : Token) : Option Scan := do
  let s ← (s.closeBlocks (-1)).dropPlace?
  some (((s.allowKey false).moveTo (s.cursor.skipMany 3)).emit t)

def openBracket? (s : Scan) (t : Token) : Option Scan := do
  let s ← s.markPlace?
  some (({ s with brackets := none :: s.brackets }.allowKey true).single t)

def closeBracket? (s : Scan) (t : Token) : Option Scan := do
  let s ← s.dropPlace?
  some (({ s with brackets := s.brackets.tail }.allowKey false).single t)

def separator? (s : Scan) : Option Scan := do
  some (((← s.dropPlace?).allowKey true).single .separator)

def entry? (s : Scan) : Option Scan := do
  if !s.inFlow && !s.keyAllowed then none
  let s := s.openBlock s.cursor.column s.tokens.length .blockSequence
  some (((← s.dropPlace?).allowKey true).single .entry)

def key? (s : Scan) : Option Scan := do
  if !s.inFlow && !s.keyAllowed then none
  let s := s.openBlock s.cursor.column s.tokens.length .blockMapping
  some (((← s.dropPlace?).allowKey (!s.inFlow)).single .key)

def value? (s : Scan) : Option Scan :=
  match s.currentPlace with
  | some p =>
    let s := (s.insertAfter p.tokens .key).openBlock p.column p.tokens .blockMapping
    some (((s.setPlace none).allowKey false).single .value)
  | none =>
    if !s.inFlow && !s.keyAllowed then none
    else
      let s := s.openBlock s.cursor.column s.tokens.length .blockMapping
      some ((s.allowKey (!s.inFlow)).single .value)

/-- The name of an anchor after its sign. -/
def named? (s : Scan) (token : String → Token) : Option Scan := do
  let s ← s.markPlace?
  let (name, k) := s.cursor.skip.takeWhile isNameChar
  let ended := endsWord k.peek || k.peek.any fun c => "?:,]\x7d%@`".toList.contains c
  if name.isEmpty || !ended then none
  else some (((s.allowKey false).moveTo k).emit (token (String.ofList name)))

def isTagChar (inUri : Bool) (c : Char) : Bool :=
  isNameChar c || ";/?:@&=+$.%!~*'()".toList.contains c ||
    (inUri && (c == ',' || c == '[' || c == ']'))

/-- A tag, with the handle that abbreviates its beginning. -/
def tag? (s : Scan) : Option Scan := do
  let s ← s.markPlace?
  let k := s.cursor.skip
  let (handle, suffix, k) ←
    if k.peek == some '<' then
      let (uri, k) := k.skip.takeWhile (isTagChar true)
      if uri.isEmpty || k.peek != some '>' then none else some ("", uri, k.skip)
    else
      let (name, after) := k.takeWhile isNameChar
      if after.peek == some '!' then
        let (suffix, k) := after.skip.takeWhile (isTagChar false)
        if suffix.isEmpty then none
        else some (String.ofList ('!' :: name ++ ['!']), suffix, k)
      else
        let (suffix, k) := k.takeWhile (isTagChar false)
        if suffix.isEmpty then some ("", ['!'], k) else some ("!", suffix, k)
  if endsWord k.peek || (s.inFlow && k.peek == some ',') then
    some (((s.allowKey false).moveTo k).emit (.tag handle (String.ofList suffix)))
  else none

def blockScalar? (s : Scan) (folded : Bool) : Option Scan := do
  let s ← s.dropPlace?
  let (cs, k) ← block? folded s.depth s.cursor
  some (((s.allowKey true).moveTo k).emit (.scalar (String.ofList cs) false !folded))

def quotedScalar? (s : Scan) (quote : Char) : Option Scan := do
  let s ← s.markPlace?
  let (cs, k) ← quoted? quote s.cursor
  some (((s.allowKey false).moveTo k).emit (.scalar (String.ofList cs) false false))

def plainScalar? (s : Scan) : Option Scan := do
  let s ← s.markPlace?
  let (cs, broken, k) ← plain? s.inFlow (s.depth + 1).toNat s.cursor
  some (((s.allowKey broken).moveTo k).emit (.scalar (String.ofList cs) true false))

/-- The words of a directive, up to a comment or the end of its line. -/
def directiveWords (cs : List Char) : List (List Char) :=
  let line := cs.takeWhile fun c => !isBreak c
  (Text.splitAt ' ' (line.map fun c => if c == '\t' then ' ' else c)).filter fun w => !w.isEmpty

/-- A directive: the version of the language, or the meaning of a handle. -/
def directive? (s : Scan) : Option Scan := do
  let s ← (s.closeBlocks (-1)).dropPlace?
  let words := (directiveWords s.cursor.skip.rest).takeWhile fun w => w.head? != some '#'
  let token ← match words.map String.ofList with
    | ["YAML", version] =>
      if version == "1.1" || version == "1.2" then some Token.version else none
    | ["TAG", handle, meaning] => some (Token.tagName handle meaning)
    | _ => none
  let k := (s.cursor.takeWhile fun c => !isBreak c).2
  some (((s.allowKey false).moveTo k.skipBreak).emit token)

/-- Characters that no plain scalar begins with. -/
def indicators : List Char := "-?:,[]\x7b\x7d#&*!|>'\"%@`".toList

/-- May a plain scalar begin here? -/
def opensPlain (s : Scan) (c : Char) : Bool :=
  let next := s.cursor.peekAt 1
  !(isGap c || indicators.contains c) || (c == '-' && !(next.any isGap)) ||
    (!s.inFlow && (c == '?' || c == ':') && !endsWord next)

/-- The next token, which begins with the given character. -/
def next? (s : Scan) (c : Char) : Option Scan :=
  let k := s.cursor
  let alone := endsWord (k.peekAt 1)
  if k.column == 0 && c == '%' then s.directive?
  else if k.atMark '-' then s.documentMark? .documentStart
  else if k.atMark '.' then s.documentMark? .documentEnd
  else if c == '[' then s.openBracket? .openSequence
  else if c == '{' then s.openBracket? .openMapping
  else if c == ']' then s.closeBracket? .closeSequence
  else if c == '}' then s.closeBracket? .closeMapping
  else if c == ',' then s.separator?
  else if c == '-' && alone then s.entry?
  else if c == '?' && (s.inFlow || alone) then s.key?
  else if c == ':' && (s.inFlow || alone) then s.value?
  else if c == '*' then s.named? .alias
  else if c == '&' then s.named? .anchor
  else if c == '!' then s.tag?
  else if c == '|' && !s.inFlow then s.blockScalar? false
  else if c == '>' && !s.inFlow then s.blockScalar? true
  else if c == '\'' || c == '"' then s.quotedScalar? c
  else if s.opensPlain c then s.plainScalar?
  else none

/-- All tokens from here on. -/
def finish? : Nat → Scan → Option (List Token)
  -- The fuel bounds the number of tokens.
  | 0, _ => none
  | fuel + 1, s => do
    let s ← (skipBlank s.cursor.rest.length s).dropStale?
    match s.cursor.peek with
    | none => some (← (s.closeBlocks (-1)).dropPlace?).tokens.reverse
    | some c => finish? fuel (← (s.closeBlocks s.cursor.column).next? c)

end Scan

/-- The text without the mark of its byte order. -/
def withoutOrderMark : List Char → List Char
  | c :: rest => if c.toNat == 0xFEFF then rest else c :: rest
  | [] => []

/-- The tokens of a text; none if some part of it cannot be one. -/
def tokens? (text : String) : Option (List Token) :=
  let cs := withoutOrderMark text.toList
  if cs.all isAllowed then Scan.finish? (cs.length + 1) { cursor := ⟨cs, 0, 0, 0⟩ } else none

end Catalog.Yaml
