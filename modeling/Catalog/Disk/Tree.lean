import Catalog.Disk.Content
import Catalog.Disk.Location
import Catalog.Text.Blank

/-!
A disk as a list of relative paths, each with the text of a file or, for a directory, nothing.
Directories above a path exist by themselves.
-/
namespace Catalog.Disk

abbrev Tree := List (List String × Option String)

namespace Tree

/-- Goes back one name at a double dot, unless there is none to go back from. -/
def walk (done : List String) : List String → List String
  | [] => done.reverse
  | name :: rest =>
    match name, done with
    | "..", d :: done => if d == ".." then walk (name :: d :: done) rest else walk done rest
    | _, _ => walk (name :: done) rest

/-- The names along a path, without empty ones and single dots. The root is a name of its own. -/
def names (path : String) : List String :=
  let parts := (Text.splitText '/' path).filter fun name => name != "" && name != "."
  walk (if isAbsolute path then ["/"] else []) parts

def ofFiles (files : List (String × Option String)) : Tree :=
  files.map fun (path, text) => (names path, text)

/-- What is left of a path below a directory. -/
def below? : List String → List String → Option (List String)
  | [], path => some path
  | _ :: _, [] => none
  | d :: dir, p :: path => if d == p then below? dir path else none

def under (tree : Tree) (path : List String) : Tree :=
  tree.filterMap fun (p, text) => (below? path p).map fun rest => (rest, text)

/-- Does a file stand on the way to a path? -/
def isBlocked (tree : Tree) (path : List String) : Bool :=
  tree.any fun (p, text) => text.isSome && ((below? p path).any fun rest => !rest.isEmpty)

def at? (tree : Tree) (path : List String) : Content :=
  let entries := tree.under path
  match entries.findSome? fun (rest, text) => if rest.isEmpty then some text else none with
  | some (some text) => .text text
  | some none => .directory
  | none =>
    if tree.isBlocked path then .blocked
    else if entries.isEmpty && !path.isEmpty then .missing
    else .directory

/-- The tree with a file put at a path, in the place of what was there; the tree as it is where no
file can stand. -/
def write (tree : Tree) (path : List String) (text : String) : Tree :=
  if tree.isBlocked path then tree
  else tree.filter (fun (p, _) => p != path) ++ [(path, some text)]

/-- The names in a directory, each once. -/
def children (tree : Tree) (path : List String) : List String :=
  ((tree.under path).filterMap fun (rest, _) => rest.head?).eraseDups

end Tree

end Catalog.Disk
