import Catalog.Json.Value

/-!
The tokens of a JSON text. Blanks between tokens are dropped, texts are unescaped and numbers are
read; whether the tokens stand in a sensible order is the reader's question.
-/
namespace Catalog.Json

inductive Token where
  | openArray
  | closeArray
  | openObject
  | closeObject
  | comma
  | colon
  | text (s : String)
  | scalar (v : Value)
  deriving Repr, Inhabited

namespace Token

/-- Four hexadecimal digits and what follows them. -/
def codeUnit? : List Char → Option (Nat × List Char)
  | a :: b :: c :: d :: rest => do
    let a ← Text.hexValue? a
    let b ← Text.hexValue? b
    let c ← Text.hexValue? c
    let d ← Text.hexValue? d
    some (((a * 16 + b) * 16 + c) * 16 + d, rest)
  | _ => none

/-- The character that a numeric escape denotes: one code unit, or two that make a pair. -/
def unicodeEscape? (cs : List Char) : Option (Char × List Char) := do
  let (high, rest) ← codeUnit? cs
  if high < 0xD800 || 0xDFFF < high then some (Char.ofNat high, rest)
  else if 0xDC00 ≤ high then none
  else match rest with
    | '\\' :: 'u' :: rest => do
      let (low, rest) ← codeUnit? rest
      if low < 0xDC00 || 0xDFFF < low then none
      else some (Char.ofNat (0x10000 + (high - 0xD800) * 0x400 + (low - 0xDC00)), rest)
    | _ => none

def escape? : List Char → Option (Char × List Char)
  | '"' :: rest => some ('"', rest)
  | '\\' :: rest => some ('\\', rest)
  | '/' :: rest => some ('/', rest)
  | 'b' :: rest => some (Char.ofNat 8, rest)
  | 'f' :: rest => some (Char.ofNat 12, rest)
  | 'n' :: rest => some ('\n', rest)
  | 'r' :: rest => some ('\r', rest)
  | 't' :: rest => some ('\t', rest)
  | 'u' :: rest => unicodeEscape? rest
  | _ => none

/-- The rest of a quoted text and what follows its closing quote. -/
def quoted? : Nat → List Char → Option (List Char × List Char)
  -- The fuel bounds the number of characters; as many as there are suffice.
  | 0, _ => none
  | _ + 1, [] => none
  | fuel + 1, c :: rest =>
    if c == '"' then some ([], rest)
    else if c == '\\' then do
      let (c, rest) ← escape? rest
      let (cs, rest) ← quoted? fuel rest
      some (c :: cs, rest)
    else if c.toNat < 0x20 then none
    else do
      let (cs, rest) ← quoted? fuel rest
      some (c :: cs, rest)

/-- The largest number below `2 ^ 64`. -/
def largestUnsigned : Nat := 18446744073709551615

/-- Reads digits into a significand as long as it stays below `2 ^ 64`; what it holds then, how
many digits went in, and how many were left out. -/
def significand (acc taken : Nat) : List Char → Nat × Nat × Nat
  | [] => (acc, taken, 0)
  | d :: rest =>
    let next := acc * 10 + Text.digitValue d
    if next ≤ largestUnsigned then significand next (taken + 1) rest
    else (acc, taken, (d :: rest).length)

structure Literal where
  negative : Bool
  whole : List Char
  fraction : Option (List Char)
  /-- The sign of the exponent, true for minus, and its digits. -/
  exponent : Option (Bool × List Char)

/-- The number a literal stands for; none if it is too large. -/
def Literal.number? (lit : Literal) : Option Number :=
  let double (units : Nat) : Number := .double ⟨lit.negative, units⟩
  let (sig, _, extra) := significand 0 0 lit.whole
  match lit.fraction, lit.exponent with
  | none, none =>
    if extra == 0 then
      -- Negative integers go down to `-2 ^ 63`; minus zero is a double.
      if !lit.negative then some (.integer sig)
      else if sig == 0 || 9223372036854775808 < sig then some (double (Binary64.ofNat sig).units)
      else some (.integer (-(sig : Int)))
    else (Binary64.ofScientific? sig extra).map double
  | fraction, exponent =>
    let (sig, scale) : Nat × Int :=
      match fraction with
      | none => (sig, extra)
      | some digits =>
        let (sig, taken, _) := significand sig 0 digits
        (sig, (extra : Int) - taken)
    match exponent with
    | none => (Binary64.ofScientific? sig scale).map double
    | some (down, digits) =>
      let power := Text.decimal digits
      -- No significand but zero can make up for such an exponent.
      if 2147483648 ≤ power then
        if sig != 0 && !down then none else some (double 0)
      else
        let total : Int := if down then scale - power else scale + power
        (Binary64.ofScientific? sig total).map double

def fraction? (cs : List Char) : Option (Option (List Char) × List Char) :=
  match cs with
  | '.' :: after =>
    let digits := after.takeWhile Text.isDigit
    if digits.isEmpty then none else some (some digits, after.dropWhile Text.isDigit)
  | rest => some (none, rest)

def exponent? (cs : List Char) : Option (Option (Bool × List Char) × List Char) :=
  match cs with
  | e :: after =>
    if e == 'e' || e == 'E' then
      let (down, after) := match after with
        | '-' :: after => (true, after)
        | '+' :: after => (false, after)
        | after => (false, after)
      let digits := after.takeWhile Text.isDigit
      if digits.isEmpty then none
      else some (some (down, digits), after.dropWhile Text.isDigit)
    else some (none, cs)
  | [] => some (none, [])

def unsigned? (negative : Bool) (cs : List Char) : Option (Number × List Char) :=
  let whole := cs.takeWhile Text.isDigit
  if whole.isEmpty || (whole.head? == some '0' && 1 < whole.length) then none
  else do
    let (fraction, rest) ← fraction? (cs.dropWhile Text.isDigit)
    let (exponent, rest) ← exponent? rest
    let number ← Literal.number? ⟨negative, whole, fraction, exponent⟩
    some (number, rest)

def number? : List Char → Option (Number × List Char)
  | '-' :: rest => unsigned? true rest
  | cs => unsigned? false cs

def isSpace (c : Char) : Bool := c == ' ' || c == '\n' || c == '\t' || c == '\r'

/-- The first token of a text that does not start with a blank. The fuel bounds the number of
characters. -/
def next? (fuel : Nat) (c : Char) (rest : List Char) : Option (Token × List Char) :=
  match c with
  | '[' => some (.openArray, rest)
  | ']' => some (.closeArray, rest)
  | '{' => some (.openObject, rest)
  | '}' => some (.closeObject, rest)
  | ',' => some (.comma, rest)
  | ':' => some (.colon, rest)
  | '"' => (quoted? fuel rest).map fun (cs, rest) => (.text (String.ofList cs), rest)
  | 'n' => (Text.dropStart? ['u', 'l', 'l'] rest).map fun rest => (.scalar .null, rest)
  | 't' => (Text.dropStart? ['r', 'u', 'e'] rest).map fun rest => (.scalar (.bool true), rest)
  | 'f' => (Text.dropStart? ['a', 'l', 's', 'e'] rest).map fun rest =>
      (.scalar (.bool false), rest)
  | c => (number? (c :: rest)).map fun (n, rest) => (.scalar (.number n), rest)

def all? : Nat → List Char → Option (List Token)
  | _, [] => some []
  -- The fuel bounds the number of characters.
  | 0, _ :: _ => none
  | fuel + 1, c :: rest =>
    if isSpace c then all? fuel rest
    else do
      let (token, rest) ← next? (fuel + 1) c rest
      let tokens ← all? fuel rest
      some (token :: tokens)

end Token

def tokens? (cs : List Char) : Option (List Token) := Token.all? cs.length cs

end Catalog.Json
