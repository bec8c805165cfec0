import RegisterHeaders.Unicode.WhiteSpace

/-!
# Word wrap

`wrap width text` breaks a text into lines of at most `width` bytes between words. Words are never
split, so a line with a single long word may be wider. A text without words is one empty line.
-/

namespace RegisterHeaders.Text

/-- The words of a text: its maximal runs of characters that are not white space. -/
def words (text : String) : List String :=
  ((text.toList.splitOnP Unicode.isWhiteSpace).filter (· ≠ [])).map String.ofList

/-- The lines that begin with the text `line` and go on with the given words, each put on the
current line if it fits there. -/
def fill (width : Nat) (line : String) : List String → List String
  | [] => [line]
  | word :: rest =>
    if line.isEmpty then fill width word rest
    else if line.utf8ByteSize + 1 + word.utf8ByteSize ≤ width then
      fill width (line ++ " " ++ word) rest
    else line :: fill width word rest

/-- The lines of a text, as many words on each as fit into `width` bytes. -/
def wrap (width : Nat) (text : String) : List String :=
  fill width "" (words text)

end RegisterHeaders.Text
