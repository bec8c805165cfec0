/-!
# File systems

What a run does with files. Every operation takes a path as it is written and tells whether it
succeeded; a failed operation is no exception.
-/

namespace RegisterHeaders

/-- The operations on files that are available in `m`. -/
class FileSystem (m : Type → Type) where
  /-- The text of a file, `none` if there is no such file or it is no text. -/
  readFile? : String → m (Option String)
  /-- Whether a path leads to a file or a directory. -/
  pathExists : String → m Bool
  /-- Creates a directory and those that it is in, unless they exist. -/
  createDirectories : String → m Bool
  /-- Writes a text to a file, in place of what it holds. -/
  writeFile : String → String → m Bool

end RegisterHeaders
