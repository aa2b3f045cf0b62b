import Catalog.Text.Blank
import Catalog.Text.Digits

/-!
The arguments of the command line. A command has at most one plain argument and options that take
a value, each given at most once.
-/
namespace Catalog

inductive Command where
  | sync
  | sweep
  | find (filter : String) (sorting : Option String) (page : Nat) (limit : Option Nat)
  | count (filter : String)
  | report (runs : Nat)
  | migrate
  | schedule
  deriving DecidableEq, Repr

namespace Command

/-- Arguments of a command, sorted into plain ones and options with their values. -/
structure Arguments where
  plain : List String := []
  options : List (String × String) := []

namespace Arguments

/-- Does an argument look like an option? A lone hyphen does not. -/
def isOption (arg : String) : Bool := arg.toList.head? == some '-' && arg != "-"

/-- Takes an option that is known and not given yet. -/
def option? (known : List String) (name value : String) (a : Arguments) : Option Arguments :=
  if known.contains name && (a.options.lookup name).isNone then
    some { a with options := (name, value) :: a.options }
  else none

def addPlain (arg : String) (a : Arguments) : Arguments := { a with plain := a.plain ++ [arg] }

/-- Sorts arguments. After a double hyphen all of them are plain. -/
def read? (known : List String) (a : Arguments) : List String → Option Arguments
  | [] => some a
  | arg :: rest =>
    if arg == "--" then some (rest.foldl (fun a arg => a.addPlain arg) a)
    else if isOption arg then
      match Text.dropStart? ['-', '-'] arg.toList with
      | none => none
      | some cs =>
        match Text.splitOnce '=' cs, rest with
        | some (name, value), rest => do
          read? known (← a.option? known (String.ofList name) (String.ofList value)) rest
        | none, value :: rest =>
          if isOption value then none
          else do read? known (← a.option? known (String.ofList cs) value) rest
        | none, [] => none
    else read? known (a.addPlain arg) rest

/-- The plain argument, or a default; none if there are several. -/
def only? (default : String) (a : Arguments) : Option String :=
  match a.plain with
  | [] => some default
  | [arg] => some arg
  | _ => none

def number? (name : String) (a : Arguments) : Option (Option Nat) :=
  match a.options.lookup name with
  | none => some none
  | some value => (Text.unsigned? value.toList).map some

end Arguments

def everything : String := "\x7b\x7d"

def ofArguments? (name : String) (rest : List String) : Option Command := do
  let bare (c : Command) : Option Command := do
    let a ← Arguments.read? [] {} rest
    if a.plain.isEmpty then some c else none
  match name with
  | "sync" => bare .sync
  | "sweep" => bare .sweep
  | "migrate" => bare .migrate
  | "schedule" => bare .schedule
  | "find" => do
    let a ← Arguments.read? ["sort", "page", "limit"] {} rest
    let page ← a.number? "page"
    some (.find (← a.only? everything) (a.options.lookup "sort") (page.getD 1)
      (← a.number? "limit"))
  | "count" => do
    let a ← Arguments.read? [] {} rest
    some (.count (← a.only? everything))
  | "report" => do
    let a ← Arguments.read? ["runs"] {} rest
    if a.plain.isEmpty then some (.report ((← a.number? "runs").getD 5)) else none
  | _ => none

/-- The command that arguments spell; without arguments it is a run. -/
def read? : List String → Option Command
  | [] => some .sync
  | ["--"] => some .sync
  | name :: rest => ofArguments? name rest

end Command

end Catalog
