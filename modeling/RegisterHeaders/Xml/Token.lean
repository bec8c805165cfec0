import RegisterHeaders.Xml.Char

/-!
# Tokens of XML

A document is a sequence of tags, runs of character data, comments and processing instructions.
`tokens?` reads them; whether tags match and what stands outside the root element is decided where
the tree is built. Document types are not supported.
-/

namespace RegisterHeaders.Xml

/-- A name, which may have a namespace label before a colon. -/
structure Name where
  /-- The label, empty if there is none. -/
  label : String
  localName : String
  deriving Repr, DecidableEq

/-- An attribute with its value as it is written. -/
structure Attribute where
  name : Name
  value : List Char
  deriving Repr, DecidableEq

/-- A token of a document. -/
inductive Token where
  /-- A start tag; `closed` tells whether it is the whole element. -/
  | opening (name : Name) (attributes : List Attribute) (closed : Bool)
  | closing (name : Name)
  /-- Character data as it is written. -/
  | text (characters : List Char)
  /-- The content of a CDATA section as it is written. -/
  | cdata (characters : List Char)
  /-- A comment or a processing instruction. -/
  | other
  deriving Repr, DecidableEq

/-- The name at the start of a text, and what follows it. -/
def name? (text : List Char) : Option (Name × List Char) := do
  let (written, rest) := text.span fun c => isNameChar c || c == ':'
  let (label, localName) ← match written.splitOn ':' with
    | [localName] => some ([], localName)
    | [label, localName] => some (label, localName)
    | _ => none
  guard (label.head?.all isNameStart && localName.head?.any isNameStart)
  return (⟨String.ofList label, String.ofList localName⟩, rest)

/-- The attribute at the start of a text, and what follows it. -/
def attribute? (text : List Char) : Option (Attribute × List Char) := do
  let (name, rest) ← name? text
  match skipSpace (← expect ['='] (skipSpace rest)) with
  | quote :: rest =>
    guard (quote = '"' || quote = '\x27')
    let (value, rest) := rest.span fun c => c ≠ quote && c ≠ '<'
    guard (value.all isDocumentChar)
    return (⟨name, value⟩, ← expect [quote] rest)
  | [] => none

/-- The attributes of a start tag up to its end, whether it is the whole element, and what follows
it. At most `fuel - 1` attributes are read. -/
def attributes? : Nat → List Char → Option (List Attribute × Bool × List Char)
  | 0, _ => none
  | fuel + 1, text =>
    match skipSpace text with
    | '>' :: rest => some ([], false, rest)
    | '/' :: rest => (expect ['>'] rest).map fun rest => ([], true, rest)
    | start => do
      guard (text.head?.any isSpace)
      let (a, rest) ← attribute? start
      let (as, closed, rest) ← attributes? fuel rest
      return (a :: as, closed, rest)

/-- A comment, after `<!--`. -/
def comment? (text : List Char) : Option (Token × List Char) := do
  let (content, rest) ← cut "-->".toList text
  guard (content.all isDocumentChar && content.getLast? ≠ some '-' &&
    (cut "--".toList content).isNone)
  return (.other, rest)

/-- A processing instruction, after `<?`. -/
def instruction? (text : List Char) : Option (Token × List Char) := do
  guard (text.head?.any fun c => isNameStart c || c == ':')
  let (content, rest) ← cut "?>".toList text
  guard (content.all isDocumentChar)
  return (.other, rest)

/-- A CDATA section, after `<![CDATA[`. -/
def cdata? (text : List Char) : Option (Token × List Char) := do
  let (content, rest) ← cut "]]>".toList text
  guard (content.all isDocumentChar)
  return (.cdata content, rest)

/-- The token that begins with `<`, and what follows it. -/
def markup? (text : List Char) : Option (Token × List Char) :=
  match text with
  | '<' :: '!' :: '-' :: '-' :: rest => comment? rest
  | '<' :: '!' :: rest => (expect "[CDATA[".toList rest).bind cdata?
  | '<' :: '?' :: rest =>
    if "xml ".toList.isPrefixOf rest then none else instruction? rest
  | '<' :: '/' :: rest => do
    let (name, rest) ← name? rest
    return (.closing name, ← expect ['>'] (skipSpace rest))
  | '<' :: rest => do
    let (name, rest) ← name? rest
    let (attributes, closed, rest) ← attributes? (rest.length + 1) rest
    return (.opening name attributes closed, rest)
  | _ => none

/-- The tokens of a text after the tokens `before`, which are given from the last to the first. At
most `fuel` tokens are read. -/
def tokensFrom : Nat → List Token → List Char → Option (List Token)
  | _, before, [] => some before.reverse
  | 0, _, _ :: _ => none
  | fuel + 1, before, '<' :: rest =>
    match markup? ('<' :: rest) with
    | some (token, rest) => tokensFrom fuel (token :: before) rest
    | none => none
  | fuel + 1, before, text =>
    let (characters, rest) := text.span (· ≠ '<')
    if characters.all isDocumentChar && (cut "]]>".toList characters).isNone then
      tokensFrom fuel (.text characters :: before) rest
    else none

/-- What follows an attribute of the XML declaration: white space, or the end of the declaration. -/
def afterAttribute? (text : List Char) : Option (List Char) :=
  if text.head?.all isSpace || "?>".toList.isPrefixOf text then some (skipSpace text) else none

/-- What follows the XML declaration, if the text begins with one. -/
def afterDeclaration? (text : List Char) : Option (List Char) :=
  match expect "<?xml ".toList text with
  | none => some text
  | some rest => do
    let rest := skipSpace rest
    guard ("version".toList.isPrefixOf rest)
    let rest ← afterAttribute? (← attribute? rest).2
    let rest ←
      if "encoding".toList.isPrefixOf rest then afterAttribute? (← attribute? rest).2 else some rest
    let rest ←
      if "standalone".toList.isPrefixOf rest then (attribute? rest).map (·.2) else some rest
    expect "?>".toList (skipSpace rest)

/-- A text without the byte-order mark at its start. -/
def dropMark (text : List Char) : List Char :=
  if text.head? = some (Char.ofNat 0xFEFF) then text.tail else text

/-- The tokens of a document. Up to two byte-order marks at its start are skipped: one belongs to
the file and one to the document. -/
def tokens? (document : String) : Option (List Token) := do
  let rest ← afterDeclaration? (dropMark (dropMark document.toList))
  tokensFrom rest.length [] rest

end RegisterHeaders.Xml
