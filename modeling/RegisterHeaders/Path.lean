/-!
# Paths

Paths as they are written: names separated by slashes. `join` puts a name below a directory, and
`steps?` tells where a path leads from the directory that it begins at.
-/

namespace RegisterHeaders.Path

/-- Whether a path begins at the root, not at the working directory. -/
def isAbsolute (path : String) : Bool :=
  path.toList.head? = some '/'

/-- The path of `name` in a directory. An absolute name stands for itself, and the empty directory
adds nothing; an empty name makes the directory end in a slash. -/
def join (directory name : String) : String :=
  if isAbsolute name then name
  else if directory = "" || directory.toList.getLast? = some '/' then directory ++ name
  else directory ++ "/" ++ name

/-- Where a name in a path leads. -/
inductive Step where
  /-- To the directory that the path has come to. -/
  | stay
  /-- To the directory which that directory is in, or to the root from the root. -/
  | back
  /-- To what has the name in that directory. -/
  | down (name : String)
  deriving Repr, DecidableEq

/-- The step of a name, which may be empty. -/
def Step.ofName (name : String) : Step :=
  if name = "" || name = "." then stay else if name = ".." then back else down name

/-- Whether a name is short enough for a file: it has at most 255 bytes. -/
def isValidName (name : String) : Bool :=
  name.utf8ByteSize ≤ 255

/-- The steps of a path from the directory that it begins at. The empty path, paths of more than
4095 bytes and paths with a zero byte lead nowhere. -/
def steps? (path : String) : Option (List Step) :=
  if path ≠ "" && path.utf8ByteSize ≤ 4095 && !path.toList.contains '\x00' then
    some ((path.toList.splitOn '/').map fun name => Step.ofName (String.ofList name))
  else none

end RegisterHeaders.Path
