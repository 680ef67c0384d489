import Companion.Text.Segment

/-!
# Paths

A path is a text whose parts are separated by slashes. A single dot stands for the directory that
it is in, two dots for the directory above.
-/

namespace Companion.Path

def longestName : Nat :=
  255

/-- A path has to be shorter than this, in bytes. -/
def lengthLimit : Nat :=
  4096

/-- The parts of a path. Repeated slashes count as one. -/
def parts (path : String) : List String :=
  ((path.toList.splitOn '/').filter (· ≠ [])).map String.ofList

def isAbsolute (path : String) : Bool :=
  path.toList.head? = some '/'

/-- Whether a path is written with a slash at its end, so that it can only mean a directory. -/
def endsInSlash (path : String) : Bool :=
  path.toList.getLast? = some '/'

def isUsable (path : String) : Bool :=
  path.utf8ByteSize < lengthLimit && !path.toList.contains '\x00'

def join (directory name : String) : String :=
  if directory = "" ∨ endsInSlash directory then directory ++ name
  else directory ++ "/" ++ name

/-- Whether a text names a file in a directory and nothing else. -/
def isPlainName (name : String) : Bool :=
  name ≠ "" && name ≠ "." && name ≠ ".." && !name.toList.contains '/'

/-- The last part of a path, unless it is the directory above; single dots do not count. -/
def fileName? (path : String) : Option String :=
  match ((parts path).filter (· ≠ ".")).getLast? with
  | some name => if name = ".." then none else some name
  | none => none

/-- What follows the last dot of the file name, if something stands before that dot. -/
def extension? (path : String) : Option String := do
  let name ← fileName? path
  let (before, after) ← Text.splitLast? '.' name.toList
  if before = [] then none else some (String.ofList after)

end Companion.Path
