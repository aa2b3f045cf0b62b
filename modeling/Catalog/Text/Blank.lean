/-!
Blank characters, trimming and splitting. Texts are handled as lists of characters, so every
function here recurses on the text itself.
-/
namespace Catalog.Text

/-- White space in the sense of the Unicode property White_Space. -/
def isBlank (c : Char) : Bool :=
  let n := c.toNat
  (9 ≤ n && n ≤ 13) || n == 0x20 || n == 0x85 || n == 0xA0 || n == 0x1680 ||
    (0x2000 ≤ n && n ≤ 0x200A) || n == 0x2028 || n == 0x2029 || n == 0x202F || n == 0x205F ||
    n == 0x3000

/-- Control characters: the general category Cc. -/
def isControl (c : Char) : Bool :=
  c.toNat < 0x20 || (0x7F ≤ c.toNat && c.toNat ≤ 0x9F)

def isAscii (c : Char) : Bool := c.toNat < 0x80

/-- Printable characters of the ASCII range other than the space. -/
def isGraphic (c : Char) : Bool := 0x21 ≤ c.toNat && c.toNat ≤ 0x7E

def dropBlank : List Char → List Char
  | [] => []
  | c :: rest => if isBlank c then dropBlank rest else c :: rest

def trimEnd (cs : List Char) : List Char := (dropBlank cs.reverse).reverse

def trimmed (cs : List Char) : List Char := trimEnd (dropBlank cs)

def trim (s : String) : String := String.ofList (trimmed s.toList)

def isBlankText (s : String) : Bool := s.toList.all isBlank

/-- The parts between the separators: always one more part than separators. -/
def splitAt (sep : Char) : List Char → List (List Char)
  | [] => [[]]
  | c :: rest =>
    if c == sep then [] :: splitAt sep rest
    else match splitAt sep rest with
      | [] => [[c]]
      | part :: parts => (c :: part) :: parts

/-- What stands before and after the first separator, if there is one. -/
def splitOnce (sep : Char) : List Char → Option (List Char × List Char)
  | [] => none
  | c :: rest =>
    if c == sep then some ([], rest)
    else (splitOnce sep rest).map fun (before, after) => (c :: before, after)

def splitText (sep : Char) (s : String) : List String :=
  (splitAt sep s.toList).map String.ofList

/-- Does the text begin with the given characters? What follows them, if it does. -/
def dropStart? : List Char → List Char → Option (List Char)
  | [], cs => some cs
  | _ :: _, [] => none
  | e :: expected, c :: cs => if e == c then dropStart? expected cs else none

end Catalog.Text
