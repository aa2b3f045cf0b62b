import Catalog.Json.Mismatch
import Catalog.Json.Reader

/-!
What is wrong with a text that should be a JSON array. A complaint names the first fault and where
it was noticed: the lines and the bytes of a line are counted up to the byte that gave it away.
-/
namespace Catalog.Json

namespace Complaint

inductive Cause where
  | endOfArray
  | endOfObject
  | endOfText
  | endOfValue
  | colonExpected
  | itemEndExpected
  | memberEndExpected
  | wordExpected
  | valueExpected
  | invalidEscape
  | invalidNumber
  | hugeNumber
  | controlCharacter
  | nameNotText
  | loneSurrogate
  | cutEscape
  | trailingComma
  | trailingText
  | tooDeep
  | mismatch (m : Mismatch)
  deriving Repr

def Cause.message : Cause → String
  | .endOfArray => "EOF while parsing a list"
  | .endOfObject => "EOF while parsing an object"
  | .endOfText => "EOF while parsing a string"
  | .endOfValue => "EOF while parsing a value"
  | .colonExpected => "expected `:`"
  | .itemEndExpected => "expected `,` or `]`"
  | .memberEndExpected => "expected `,` or `\x7d`"
  | .wordExpected => "expected ident"
  | .valueExpected => "expected value"
  | .invalidEscape => "invalid escape"
  | .invalidNumber => "invalid number"
  | .hugeNumber => "number out of range"
  | .controlCharacter => "control character (\\u0000-\\u001F) found while parsing a string"
  | .nameNotText => "key must be a string"
  | .loneSurrogate => "lone leading surrogate in hex escape"
  | .cutEscape => "unexpected end of hex escape"
  | .trailingComma => "trailing comma"
  | .trailingText => "trailing characters"
  | .tooDeep => "recursion limit exceeded"
  | .mismatch m => m.message

end Complaint

structure Complaint where
  cause : Complaint.Cause
  line : Nat
  column : Nat
  deriving Repr

namespace Complaint

def message (c : Complaint) : String :=
  c.cause.message ++ " at line " ++ toString c.line ++ " column " ++ toString c.column

/-- A fault, and how many bytes of the text lie behind the place where it was noticed. -/
structure Finding where
  cause : Cause
  left : Nat

def size (cs : List Char) : Nat := cs.foldr (fun c bytes => c.utf8Size + bytes) 0

/-- A fault noticed before the rest of a text. -/
def before (cause : Cause) (rest : List Char) : Finding := ⟨cause, size rest⟩

/-- A fault noticed on the first byte of the rest of a text. -/
def on (cause : Cause) (rest : List Char) : Finding := ⟨cause, size rest - 1⟩

def wordFinding : List Char → List Char → Finding
  | _, [] => before .endOfValue []
  | [], rest => before .wordExpected rest
  | e :: expected, c :: rest =>
    if e == c then wordFinding expected rest else on .wordExpected (c :: rest)

def codeUnitFinding (cs : List Char) : Finding :=
  if size cs < 4 then before .endOfText [] else ⟨.invalidEscape, size cs - 4⟩

def pairFinding : List Char → Finding
  | [] => before .endOfText []
  | ['\\'] => before .endOfText []
  | '\\' :: 'u' :: rest =>
    match Token.codeUnit? rest with
    | some (_, rest) => before .loneSurrogate rest
    | none => codeUnitFinding rest
  | '\\' :: rest => on .cutEscape rest
  | rest => on .cutEscape rest

def escapeFinding : List Char → Finding
  | [] => before .endOfText []
  | 'u' :: rest =>
    match Token.codeUnit? rest with
    | none => codeUnitFinding rest
    | some (unit, rest) => if 0xDC00 ≤ unit then before .loneSurrogate rest else pairFinding rest
  | rest => on .invalidEscape rest

/-- What is wrong with a text after its opening quote. -/
def textFinding : Nat → List Char → Finding
  -- The fuel bounds the number of characters.
  | 0, _ => before .endOfText []
  | _ + 1, [] => before .endOfText []
  | fuel + 1, c :: rest =>
    if c == '\\' then
      match Token.escape? rest with
      | some (_, rest) => textFinding fuel rest
      | none => escapeFinding rest
    else if c.toNat < 0x20 then before .controlCharacter rest
    else textFinding fuel rest

/-- The digits of an exponent up to the first that takes it beyond 31 bits, and what follows. -/
def exponentEnd (acc : Nat) : List Char → List Char
  | [] => []
  | c :: rest =>
    if Text.isDigit c then
      let acc := acc * 10 + Text.digitValue c
      if 2 ^ 31 ≤ acc then rest else exponentEnd acc rest
    else c :: rest

def exponentFinding (cs : List Char) : Finding :=
  let cs := match cs with
    | '-' :: rest => rest
    | '+' :: rest => rest
    | cs => cs
  match cs with
  | [] => before .endOfValue []
  | c :: rest =>
    if Text.isDigit c then before .hugeNumber (exponentEnd 0 (c :: rest))
    else on .invalidNumber (c :: rest)

def scaleFinding : List Char → Finding
  | [] => before .hugeNumber []
  | c :: rest =>
    if c == 'e' || c == 'E' then exponentFinding rest else before .hugeNumber (c :: rest)

def numberFinding (cs : List Char) : Finding :=
  match cs with
  | [] => before .endOfValue []
  | c :: rest =>
    if !Text.isDigit c then on .invalidNumber (c :: rest)
    else if c == '0' && (rest.head?.map Text.isDigit).getD false then on .invalidNumber rest
    else
      match rest.dropWhile Text.isDigit with
      | '.' :: after =>
        match after with
        | [] => before .endOfValue []
        | d :: _ =>
          if Text.isDigit d then scaleFinding (after.dropWhile Text.isDigit)
          else on .invalidNumber after
      | rest => scaleFinding rest

def tokenFinding (c : Char) (rest : List Char) : Finding :=
  match c with
  | 'n' => wordFinding ['u', 'l', 'l'] rest
  | 't' => wordFinding ['r', 'u', 'e'] rest
  | 'f' => wordFinding ['a', 'l', 's', 'e'] rest
  | '"' => textFinding (rest.length + 1) rest
  | '-' => numberFinding rest
  | c => numberFinding (c :: rest)

def opensValue (c : Char) : Bool :=
  ['[', '{', '"', '-', 'n', 't', 'f'].contains c || Text.isDigit c

/-- What is wrong with a character where a value should begin. -/
def valueCause? (c : Char) (frames : List Frame) : Option Cause :=
  match c, frames with
  | ']', .items _ :: _ => some .trailingComma
  | c, _ => if opensValue c then none else some .valueExpected

/-- What is wrong with a character in its place, whatever follows it. -/
def cause? (p : Progress) (c : Char) : Option Cause :=
  match p.expect with
  | .value => valueCause? c p.frames
  | .firstItem => if c == ']' || opensValue c then none else some .valueExpected
  | .firstName _ => if c == '}' || c == '"' then none else some .nameNotText
  | .name _ =>
    if c == '"' then none else if c == '}' then some .trailingComma else some .nameNotText
  | .colon => if c == ':' then none else some .colonExpected
  | .after _ =>
    match p.frames with
    | [] => some .trailingText
    | .items _ :: _ => if c == ',' || c == ']' then none else some .itemEndExpected
    | .members _ _ :: _ => if c == ',' || c == '}' then none else some .memberEndExpected

def endCause (p : Progress) : Cause :=
  match p.expect, p.frames with
  | .value, _ => .endOfValue
  | .name _, _ => .endOfValue
  | .firstItem, _ => .endOfArray
  | .firstName _, _ => .endOfObject
  | .colon, _ => .endOfObject
  | .after _, .items _ :: _ => .endOfArray
  | .after _, _ => .endOfObject

/-- The first fault of a text from a given point on. -/
def walk : Nat → Progress → List Char → Option Finding
  -- The fuel bounds the number of characters.
  | 0, _, _ => none
  | _ + 1, p, [] =>
    match p.finished? with
    | some _ => none
    | none => some (before (endCause p) [])
  | fuel + 1, p, c :: rest =>
    if Token.isSpace c then walk fuel p rest
    else
      match cause? p c with
      | some cause => some (on cause (c :: rest))
      | none =>
        match Token.next? fuel c rest with
        | none => some (tokenFinding c rest)
        | some (token, after) =>
          match p.step? token with
          | some p => walk fuel p after
          | none => some (on .tooDeep (c :: rest))

/-- The first fault of a text that should be an array. -/
def firstFinding (cs : List Char) : Option Finding :=
  let mismatch (v : Value) (rest : List Char) : Option Finding :=
    some (before (.mismatch (.type v "a sequence")) rest)
  match cs.dropWhile Token.isSpace with
  | [] => some (before .endOfValue [])
  | '{' :: rest => mismatch (.object []) ('{' :: rest)
  | c :: rest =>
    if c == '[' || !opensValue c then walk (cs.length + 1) .start (c :: rest)
    else match Token.next? (rest.length + 1) c rest with
      | some (.text s, rest) => mismatch (.text s) rest
      | some (.scalar v, rest) => mismatch v rest
      | _ => some (tokenFinding c rest)

def lineFeed : UInt8 := 10

/-- The complaint about a text that should be an array of values. A text with nothing wrong in it
can only be blamed for its end. -/
def ofText (s : String) : Complaint :=
  let finding := (firstFinding s.toList).getD (before .endOfValue [])
  let seen := s.toUTF8.toList.take (s.utf8ByteSize - finding.left)
  ⟨finding.cause, seen.count lineFeed + 1, (seen.reverse.takeWhile (· != lineFeed)).length⟩

end Complaint

end Catalog.Json
