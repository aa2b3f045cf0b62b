/-!
What stands at a path of a disk, and why reading it may fail.
-/
namespace Catalog.Disk

inductive Content where
  | missing
  | text (s : String)
  | directory
  /-- Nothing can stand there, since a file stands on the way. -/
  | blocked
  deriving DecidableEq, Repr

/-- Why the operating system refuses a file. -/
inductive Fault where
  | notFound
  | isDirectory
  | notDirectory
  /-- Any other reason, in the words of the operating system. -/
  | other (message : String)
  deriving DecidableEq, Repr

def Fault.message : Fault → String
  | .notFound => "No such file or directory (os error 2)"
  | .isDirectory => "Is a directory (os error 21)"
  | .notDirectory => "Not a directory (os error 20)"
  | .other message => message

def Content.read : Content → Except Fault String
  | .missing => .error .notFound
  | .text s => .ok s
  | .directory => .error .isDirectory
  | .blocked => .error .notDirectory

end Catalog.Disk
