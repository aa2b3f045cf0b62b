/-!
Paths as they are written: how one continues another, and what its last name is.
-/
namespace Catalog.Disk

def isAbsolute (path : String) : Bool := path.toList.head? == some '/'

/-- The path as seen from a directory. An absolute path stays as it is; a directory without a name
leaves no mark. -/
def join (directory path : String) : String :=
  if isAbsolute path || directory.isEmpty then path
  else if directory.toList.getLast? == some '/' then directory ++ path
  else directory ++ "/" ++ path

/-- The characters of a path from its end, without the slashes and single dots there; a root keeps
its slash. -/
def dropTrailing : List Char → List Char
  | '/' :: rest => if rest.isEmpty then ['/'] else dropTrailing rest
  | '.' :: rest => if rest.head? == some '/' then dropTrailing rest else '.' :: rest
  | cs => cs

/-- The last name of a path, unless it leads to a root, to itself or upwards. -/
def fileName? (path : String) : Option String :=
  let name := String.ofList ((dropTrailing path.toList.reverse).takeWhile (· != '/')).reverse
  if name == "" || name == "." || name == ".." then none else some name

/-- The directory that a path lies in; a path of one name lies here. -/
def directory (path : String) : String :=
  let last := dropTrailing path.toList.reverse
  let above := dropTrailing (last.dropWhile (· != '/'))
  if last == ['/'] || above.isEmpty then "." else String.ofList above.reverse

end Catalog.Disk
