/-!
# Characters of XML

The classes of characters that the grammar of XML distinguishes, and references to characters.
-/

namespace RegisterHeaders.Xml

/-- White space between markup. -/
def isSpace (c : Char) : Bool :=
  c == ' ' || c == '\t' || c == '\n' || c == '\r'

/-- The characters that a document may contain. -/
def isDocumentChar (c : Char) : Bool :=
  isSpace c || (0x20 ≤ c.toNat && c.toNat ≠ 0xFFFE && c.toNat ≠ 0xFFFF)

/-- The characters that a name may begin with, the colon apart. -/
def isNameStart (c : Char) : Bool :=
  let n := c.toNat
  c.isAlpha || c == '_' || (0xC0 ≤ n && n ≤ 0x2FF && n ≠ 0xD7 && n ≠ 0xF7) ||
    (0x370 ≤ n && n ≤ 0x1FFF && n ≠ 0x37E) || n == 0x200C || n == 0x200D ||
    (0x2070 ≤ n && n ≤ 0x218F) || (0x2C00 ≤ n && n ≤ 0x2FEF) || (0x3001 ≤ n && n ≤ 0xD7FF) ||
    (0xF900 ≤ n && n ≤ 0xFDCF) || (0xFDF0 ≤ n && n ≤ 0xFFFD) || (0x10000 ≤ n && n ≤ 0xEFFFF)

/-- The characters that a name may go on with, the colon apart. -/
def isNameChar (c : Char) : Bool :=
  let n := c.toNat
  isNameStart c || c.isDigit || c == '-' || c == '.' || n == 0xB7 ||
    (0x300 ≤ n && n ≤ 0x36F) || n == 0x203F || n == 0x2040

/-- The rest of a text after the white space at its start. -/
def skipSpace (text : List Char) : List Char :=
  text.dropWhile isSpace

/-- The parts of a text before and after the first occurrence of `stop`. -/
def cut (stop : List Char) : List Char → Option (List Char × List Char)
  | [] => none
  | c :: rest =>
    if stop.isPrefixOf (c :: rest) then some ([], (c :: rest).drop stop.length)
    else (cut stop rest).map fun (before, after) => (c :: before, after)

/-- The rest of a text after `start`, if it begins so. -/
def expect (start text : List Char) : Option (List Char) :=
  if start.isPrefixOf text then some (text.drop start.length) else none

/-! ## References -/

/-- The value of a digit in the given base. -/
def digit? (base : Nat) (c : Char) : Option Nat :=
  let n :=
    if c.isDigit then c.toNat - '0'.toNat
    else if 'a' ≤ c ∧ c ≤ 'f' then c.toNat - 'a'.toNat + 10
    else if 'A' ≤ c ∧ c ≤ 'F' then c.toNat - 'A'.toNat + 10
    else base
  if n < base then some n else none

/-- The number that a nonempty run of digits in the given base stands for. -/
def number? (base : Nat) (digits : List Char) : Option Nat :=
  if digits.isEmpty then none
  else digits.foldlM (fun n c => (digit? base c).map fun d => n * base + d) 0

/-- The character that a number refers to; a number that is no character is replaced by U+FFFD. -/
def charOfNumber (n : Nat) : Option Char :=
  if n < UInt32.size then
    let c := if n.isValidChar then Char.ofNat n else Char.ofNat 0xFFFD
    if isDocumentChar c then some c else none
  else none

/-- The character that is referred to by what stands between `&` and `;`. -/
def reference? : List Char → Option Char
  | '#' :: 'x' :: digits => (number? 16 digits).bind charOfNumber
  | '#' :: digits => (number? 10 digits).bind charOfNumber
  | name =>
    match String.ofList name with
    | "lt" => some '<'
    | "gt" => some '>'
    | "amp" => some '&'
    | "quot" => some '"'
    | "apos" => some '\x27'
    | _ => none

/-- A character of a text whose references have been decoded. -/
inductive Decoded where
  /-- A character that stands for itself. -/
  | literal (c : Char)
  /-- A character that is referred to. -/
  | referenced (c : Char)
  deriving Repr, DecidableEq

/-- Decodes the references in a text; fails on what is no reference. The first argument is the
reference that is being read, reversed. -/
def decodeFrom? : Option (List Char) → List Char → Option (List Decoded)
  | none, [] => some []
  | some _, [] => none
  | none, '&' :: rest => decodeFrom? (some []) rest
  | none, c :: rest => (decodeFrom? none rest).map (.literal c :: ·)
  | some name, ';' :: rest => do
    let c ← reference? name.reverse
    return .referenced c :: (← decodeFrom? none rest)
  | some name, c :: rest => decodeFrom? (some (c :: name)) rest

/-- Decodes the references in a text; fails on what is no reference. -/
def decode? (text : List Char) : Option (List Decoded) :=
  decodeFrom? none text

/-! ## Line breaks -/

/-- Adds a literal character to what has been read of a text, which is given from the last character
to the first. A carriage return becomes `\n`, with a line feed after it, as soon as the character
after it is added; `last` tells that none will be. -/
def addLiteral (before : List Char) (c : Char) (last : Bool) : List Char :=
  let written := if c = '\r' ∧ last then '\n' else c
  match before with
  | '\r' :: before => if c = '\n' then '\n' :: before else written :: '\n' :: before
  | _ => written :: before

/-- The characters of a text, added to `before`, from the last to the first. Characters that are
referred to are added as they are, and so is a character that follows one of them, as `asIs`
tells. -/
def joinBreaks (before : List Char) (asIs : Bool) : List Decoded → List Char
  | [] => before
  | .referenced c :: rest => joinBreaks (c :: before) true rest
  | .literal c :: rest =>
    joinBreaks (if asIs then c :: before else addLiteral before c rest.isEmpty) false rest

/-- The characters of a CDATA section. -/
def literalText (text : List Char) : List Char :=
  (joinBreaks [] false (text.map .literal)).reverse

/-- The characters of character data, with its references decoded. -/
def characterData? (text : List Char) : Option (List Char) :=
  (decode? text).map fun decoded => (joinBreaks [] false decoded).reverse

/-- The characters of the value of an attribute. White space becomes blanks, and a carriage return
with a line feed one blank. -/
def blankSpace : List Decoded → List Char
  | [] => []
  | .referenced c :: rest => c :: blankSpace rest
  | .literal c :: rest =>
    if c = '\r' ∧ rest.head? = some (.literal '\n') then blankSpace rest
    else (if isSpace c then ' ' else c) :: blankSpace rest

/-- The value of an attribute, with its references decoded. -/
def attributeValue? (text : List Char) : Option (List Char) :=
  (decode? text).map blankSpace

end RegisterHeaders.Xml
