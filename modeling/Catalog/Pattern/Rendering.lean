import Catalog.Pattern.Dialect
import Catalog.Pattern.Reader

/-!
Writing pieces down again: once for the in-process matcher and once as an advanced expression of
the database, with the options that matter embedded in front.
-/
namespace Catalog.Pattern

def codeEscape (c : Char) : List Char :=
  let digits := (Nat.toDigits 16 c.toNat).map Text.asciiUpper
  if c.toNat ≤ 0xFFFF then '\\' :: 'u' :: (List.replicate (4 - digits.length) '0' ++ digits)
  else '\\' :: 'U' :: (List.replicate (8 - digits.length) '0' ++ digits)

/-- Characters outside ASCII that are written as themselves. -/
def isPlain (c : Char) : Bool := !Text.isAscii c && !Text.isControl c && !Text.isBlank c

/-- A text in which no character has a meaning of its own. -/
def escapeText (cs : List Char) : List Char :=
  cs.flatMap fun c => if Reader.isMeta c then ['\\', c] else [c]

def engineChar (c : Char) : List Char :=
  if Text.isGraphic c || c == ' ' then escapeText [c]
  else if isPlain c then [c]
  else codeEscape c

def areChar (c : Char) : List Char :=
  if Text.isAsciiAlphanumeric c || c == ' ' then [c]
  else if Text.isGraphic c then ['\\', c]
  else if isPlain c then [c]
  else codeEscape c

namespace Mark

def chars : Mark → List Char
  | .group => ['(']
  | .plainGroup => ['(', '?', ':']
  | .close => [')']
  | .bar => ['|']
  | .lineStart => ['^']
  | .lineEnd => ['$']
  | .star => ['*']
  | .plus => ['+']
  | .optional => ['?']
  | .exactly n => '{' :: (Nat.toDigits 10 n ++ ['}'])
  | .atLeast n => '{' :: (Nat.toDigits 10 n ++ [',', '}'])
  | .between n m => '{' :: (Nat.toDigits 10 n ++ ',' :: (Nat.toDigits 10 m ++ ['}']))

end Mark

def rangeChars (char : Char → List Char) (r : Range) : List Char :=
  if r.1 == r.2 then char r.1 else char r.1 ++ '-' :: char r.2

def setChars (char : Char → List Char) (negated : Bool) (ranges : List Range) : List Char :=
  (if negated then ['[', '^'] else ['[']) ++ ranges.flatMap (rangeChars char) ++ [']']

/-- Anything but a line feed. -/
def noLineFeed (char : Char → List Char) : List Char := setChars char true [('\n', '\n')]

namespace Piece

/-- The piece for the in-process matcher. -/
def engineChars (dotAll : Bool) : Piece → List Char
  | .mark m => m.chars
  | .literal c => engineChar c
  | .set negated ranges => setChars engineChar negated ranges
  | .anyChar => if dotAll then "(?s:.)".toList else noLineFeed engineChar
  | .boundary => "(?-u:\\b)".toList
  | .textStart => ['\\', 'A']
  | .textEnd => ['\\', 'z']

/-- The piece in an advanced expression. -/
def areChars (dotAll : Bool) : Piece → List Char
  | .mark m => m.chars
  | .literal c => areChar c
  | .set negated ranges => setChars areChar negated ranges
  | .anyChar => if dotAll then ['.'] else noLineFeed areChar
  | .boundary => ['\\', 'y']
  | .textStart => ['\\', 'A']
  | .textEnd => ['\\', 'Z']

end Piece

def engineSource (dotAll : Bool) (ps : List Piece) : List Char :=
  ps.flatMap (Piece.engineChars dotAll)

/-- Brackets match line feeds in both modes; the second one also has line anchors. -/
def areSource (multiLine dotAll : Bool) (ps : List Piece) : List Char :=
  (if multiLine then "(?w)".toList else "(?s)".toList) ++ ps.flatMap (Piece.areChars dotAll)

end Catalog.Pattern
