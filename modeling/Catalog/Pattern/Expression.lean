import Catalog.Text.Case

/-!
Regular expressions as read from text. The tree keeps what the text says and gives it no meaning
yet: flags stay where they are written and sets keep their operations.
-/
namespace Catalog.Pattern

/-- The named ASCII classes of bracketed sets. -/
inductive AsciiClass where
  | alnum | alpha | ascii | blank | cntrl | digit | graph | lower | print | punct | space | upper
  | word | xdigit
  deriving DecidableEq, Repr

/-- The classes with a one-letter escape. -/
inductive ShortClass where
  | digit | space | word
  deriving DecidableEq, Repr

/-- A property of the Unicode database, alone or with a value. -/
inductive Property where
  | named (name : String)
  | valued (name value : String)
  deriving DecidableEq, Repr

/-- A character, and whether it was written as the code of a single byte. -/
structure Literal where
  char : Char
  byteCode : Bool
  deriving DecidableEq, Repr

inductive SetOperation where
  | intersection | difference | symmetric
  deriving DecidableEq, Repr

inductive CharSet where
  | empty
  | literal (l : Literal)
  | range (first last : Literal)
  | ascii (name : AsciiClass) (negated : Bool)
  | short (name : ShortClass) (negated : Bool)
  | property (p : Property) (negated : Bool)
  | bracketed (negated : Bool) (set : CharSet)
  | union (items : List CharSet)
  | combined (operation : SetOperation) (left right : CharSet)
  deriving Repr

inductive Assertion where
  | lineStart | lineEnd | textStart | textEnd
  | boundary | noBoundary | wordStart | wordEnd | wordStartHalf | wordEndHalf
  deriving DecidableEq, Repr

inductive Flag where
  | caseInsensitive | multiLine | dotAll | swapGreed | crlf | unicode | extended
  deriving DecidableEq, Repr

inductive FlagItem where
  | negation
  | flag (f : Flag)
  deriving DecidableEq, Repr

/-- The last say on a flag in a list of flag items, if they mention it. -/
def flagState? (f : Flag) (items : List FlagItem) : Option Bool :=
  (items.foldl (fun (on, state) item =>
    match item with
    | .negation => (false, state)
    | .flag g => (on, if g = f then some on else state)) (true, none)).2

inductive Expression where
  | empty
  | flags (items : List FlagItem)
  | literal (l : Literal)
  | dot
  | assertion (a : Assertion)
  | short (name : ShortClass) (negated : Bool)
  | property (p : Property) (negated : Bool)
  | bracketed (negated : Bool) (set : CharSet)
  | repetition (least : Nat) (most : Option Nat) (greedy : Bool) (body : Expression)
  | group (flags : List FlagItem) (body : Expression)
  | alternation (branches : List Expression)
  | concat (parts : List Expression)
  deriving Repr

namespace CharSet

def ofItems : List CharSet → CharSet
  | [] => .empty
  | [item] => item
  | items => .union items

mutual

def depth : CharSet → Nat
  | .bracketed _ set => set.depth + 1
  | .union items => itemsDepth items + 1
  | .combined _ left right => max left.depth right.depth + 1
  | _ => 0

def itemsDepth : List CharSet → Nat
  | [] => 0
  | item :: rest => max item.depth (itemsDepth rest)

end

end CharSet

namespace Expression

def ofParts : List Expression → Expression
  | [] => .empty
  | [part] => part
  | parts => .concat parts

mutual

def depth : Expression → Nat
  | .bracketed _ set => set.depth + 1
  | .repetition _ _ _ body => body.depth + 1
  | .group _ body => body.depth + 1
  | .alternation branches => listDepth branches + 1
  | .concat parts => listDepth parts + 1
  | _ => 0

def listDepth : List Expression → Nat
  | [] => 0
  | e :: rest => max e.depth (listDepth rest)

end

/-- The deepest nesting that is accepted. -/
def deepest : Nat := 250

end Expression

end Catalog.Pattern
