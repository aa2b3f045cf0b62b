import Catalog.Json.Value

/-!
JSON text. The compact form has no blanks; the indented form puts every element on a line of its
own, two blanks deeper than what encloses it. Only quotes, backslashes and control characters are
escaped. Each writer puts its text in front of what is to follow.
-/
namespace Catalog.Json

def escaped (c : Char) : List Char :=
  if c == '"' then ['\\', '"']
  else if c == '\\' then ['\\', '\\']
  else if c == '\n' then ['\\', 'n']
  else if c == '\r' then ['\\', 'r']
  else if c == '\t' then ['\\', 't']
  else if c.toNat == 8 then ['\\', 'b']
  else if c.toNat == 12 then ['\\', 'f']
  else if c.toNat < 0x20 then
    ['\\', 'u', '0', '0', Nat.digitChar (c.toNat / 16), Nat.digitChar (c.toNat % 16)]
  else [c]

def quotedChars (cs tail : List Char) : List Char :=
  '"' :: (cs.flatMap escaped ++ '"' :: tail)

namespace Value

mutual

/-- The compact text of a value, in front of `tail`. -/
def write : Value → List Char → List Char
  | .null, tail => 'n' :: 'u' :: 'l' :: 'l' :: tail
  | .bool true, tail => 't' :: 'r' :: 'u' :: 'e' :: tail
  | .bool false, tail => 'f' :: 'a' :: 'l' :: 's' :: 'e' :: tail
  | .number n, tail => n.chars ++ tail
  | .text s, tail => quotedChars s.toList tail
  | .array [], tail => '[' :: ']' :: tail
  | .array (v :: rest), tail => '[' :: v.write (writeItems rest tail)
  | .object [], tail => '{' :: '}' :: tail
  | .object ((name, v) :: rest), tail =>
    '{' :: quotedChars name.toList (':' :: v.write (writeMembers rest tail))

def writeItems : List Value → List Char → List Char
  | [], tail => ']' :: tail
  | v :: rest, tail => ',' :: v.write (writeItems rest tail)

def writeMembers : List (String × Value) → List Char → List Char
  | [], tail => '}' :: tail
  | (name, v) :: rest, tail =>
    ',' :: quotedChars name.toList (':' :: v.write (writeMembers rest tail))

end

def compact (v : Value) : String := String.ofList (v.write [])

def newLine (level : Nat) (tail : List Char) : List Char :=
  '\n' :: (List.replicate (2 * level) ' ' ++ tail)

mutual

/-- The indented text of a value whose first line is already indented. -/
def writeIndented (level : Nat) : Value → List Char → List Char
  | .array (v :: rest), tail =>
    '[' :: newLine (level + 1) (v.writeIndented (level + 1) (writeIndentedItems level rest tail))
  | .object ((name, v) :: rest), tail =>
    '{' :: newLine (level + 1) (quotedChars name.toList
      (':' :: ' ' :: v.writeIndented (level + 1) (writeIndentedMembers level rest tail)))
  | .array [], tail => '[' :: ']' :: tail
  | .object [], tail => '{' :: '}' :: tail
  | .null, tail => 'n' :: 'u' :: 'l' :: 'l' :: tail
  | .bool true, tail => 't' :: 'r' :: 'u' :: 'e' :: tail
  | .bool false, tail => 'f' :: 'a' :: 'l' :: 's' :: 'e' :: tail
  | .number n, tail => n.chars ++ tail
  | .text s, tail => quotedChars s.toList tail

def writeIndentedItems (level : Nat) : List Value → List Char → List Char
  | [], tail => newLine level (']' :: tail)
  | v :: rest, tail =>
    ',' :: newLine (level + 1) (v.writeIndented (level + 1) (writeIndentedItems level rest tail))

def writeIndentedMembers (level : Nat) : List (String × Value) → List Char → List Char
  | [], tail => newLine level ('}' :: tail)
  | (name, v) :: rest, tail =>
    ',' :: newLine (level + 1) (quotedChars name.toList
      (':' :: ' ' :: v.writeIndented (level + 1) (writeIndentedMembers level rest tail)))

end

/-- The indented text of a value, without a final line break. -/
def indented (v : Value) : String := String.ofList (v.writeIndented 0 [])

end Value

end Catalog.Json
