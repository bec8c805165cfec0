import RegisterHeaders.Unicode.Cased
import RegisterHeaders.Unicode.CaseMapping

/-!
# Case mappings of texts

A text is mapped character by character, with one exception: a capital sigma at the end of a word
becomes `ς`, any other one `σ`.
-/

namespace RegisterHeaders.Unicode

/-- Whether the first character that is not case-ignorable is cased. -/
def startsCased (text : List Char) : Bool :=
  (text.dropWhile isCaseIgnorable).head?.any isCased

/-- The lower-case form of the characters of a text that follow `before`, which is given from its
last character to its first. -/
def lowerAfter (before : List Char) : List Char → List Char
  | [] => []
  | c :: rest =>
    let image := if c = 'Σ' ∧ startsCased before ∧ ¬ startsCased rest then ['ς'] else lower c
    image ++ lowerAfter (c :: before) rest

/-- The lower-case form of a text. -/
def lowercase (text : String) : String :=
  String.ofList (lowerAfter [] text.toList)

/-- The upper-case form of a text. -/
def uppercase (text : String) : String :=
  String.ofList (text.toList.flatMap upper)

end RegisterHeaders.Unicode
