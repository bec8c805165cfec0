import RegisterHeaders.Xml.Token

/-!
# Trees of XML

A well-formed document is a tree of elements. `parse?` builds it from the tokens of the document
with the stack of the elements that are open. It checks that tags match, that there is one root
element, that namespace labels are declared and that no element has an attribute twice.
Neighbouring character data and CDATA sections are one text.
-/

namespace RegisterHeaders.Xml

/-- A node of a document. Elements and attributes have the local part of their names; attributes
have their label too. -/
inductive Node where
  | element (name : String) (attributes : List (Name × String)) (children : List Node)
  | text (characters : String)
  /-- A comment or a processing instruction. -/
  | other
  deriving Repr

/-- The namespaces that labels stand for; the default namespace has the empty label. -/
abbrev Namespaces := List (String × String)

/-- The namespace of the label `xml`, which needs no declaration. -/
def xmlNamespace : String := "http://www.w3.org/XML/1998/namespace"

/-- The namespace of declarations, which must not be declared. -/
def xmlnsNamespace : String := "http://www.w3.org/2000/xmlns/"

/-- The namespaces that a list of attributes declares, and the other attributes. A declaration of
the label `xml` adds nothing, so no element can have that label. -/
def declarations? : List (Name × String) → Option (Namespaces × List (Name × String))
  | [] => some ([], [])
  | (name, value) :: rest => do
    let (declared, attributes) ← declarations? rest
    if name.label = "xmlns" then
      guard (value ≠ xmlnsNamespace ∧ (name.localName = "xml" ↔ value = xmlNamespace) ∧
        (declared.lookup name.localName).isNone)
      return if name.localName = "xml" then (declared, attributes)
        else ((name.localName, value) :: declared, attributes)
    else if name.localName = "xmlns" then
      guard (value ≠ xmlNamespace ∧ value ≠ xmlnsNamespace)
      return (("", value) :: declared, attributes)
    else return (declared, (name, value) :: attributes)

/-- The namespace of an attribute, `none` if its name has no label; fails if its label is not
declared. -/
def attributeNamespace? (namespaces : Namespaces) (name : Name) : Option (Option String) :=
  if name.label = "" then some none
  else if name.label = "xml" then some (some xmlNamespace)
  else (namespaces.lookup name.label).map some

/-- The attributes of a start tag and the namespaces that hold in its element. -/
def resolve? (outer : Namespaces) (name : Name) (attributes : List Attribute) :
    Option (List (Name × String) × Namespaces) := do
  let attributes ← attributes.mapM fun a =>
    (attributeValue? a.value).map fun value => (a.name, String.ofList value)
  let (declared, attributes) ← declarations? attributes
  let namespaces := declared ++ outer
  guard (name.label ≠ "xmlns" ∧ (name.label = "" ∨ (namespaces.lookup name.label).isSome))
  let names ← attributes.mapM fun (n, _) =>
    (attributeNamespace? namespaces n).map fun ns => (ns, n.localName)
  guard names.Nodup
  return (attributes, namespaces)

/-- An element that is open: its start tag and the children read so far, from last to first. -/
structure Open where
  name : Name
  attributes : List (Name × String)
  namespaces : Namespaces
  children : List Node

/-- The element with the children read so far. -/
def Open.close (e : Open) : Node :=
  .element e.name.localName e.attributes e.children.reverse

/-- Adds a text to the children read so far. -/
def addText (children : List Node) (characters : List Char) : List Node :=
  match children with
  | .text before :: rest => .text (before ++ String.ofList characters) :: rest
  | _ => .text (String.ofList characters) :: children

/-- How far the reading of a document has come. -/
inductive Progress where
  /-- The root element has not begun. -/
  | prolog
  /-- The elements around the place of reading, innermost first. -/
  | inside (innermost : Open) (outer : List Open)
  /-- The root element has ended. -/
  | done (root : Node)

/-- What follows when a node is complete. -/
def Progress.add (node : Node) : List Open → Progress
  | [] => done node
  | e :: outer => inside { e with children := node :: e.children } outer

/-- Takes one token. -/
def Progress.step (p : Progress) (token : Token) : Option Progress :=
  match p, token with
  | inside e outer, .opening name attributes closed => do
    let (attributes, namespaces) ← resolve? e.namespaces name attributes
    let inner : Open := ⟨name, attributes, namespaces, []⟩
    return if closed then add inner.close (e :: outer) else inside inner (e :: outer)
  | inside e outer, .closing name => if name = e.name then some (add e.close outer) else none
  | inside e outer, .text characters => do
    let characters ← characterData? characters
    return inside { e with children := addText e.children characters } outer
  | inside e outer, .cdata characters =>
    some (inside { e with children := addText e.children (literalText characters) } outer)
  | inside e outer, .other => some (inside { e with children := .other :: e.children } outer)
  | prolog, .opening name attributes closed => do
    let (attributes, namespaces) ← resolve? [] name attributes
    let root : Open := ⟨name, attributes, namespaces, []⟩
    return if closed then done root.close else inside root []
  | p, .other => some p
  | p, .text characters => if characters.all isSpace then some p else none
  | _, _ => none

/-- The root element of a document, if the document is well-formed. -/
def parse? (document : String) : Option Node := do
  match ← (← tokens? document).foldlM Progress.step .prolog with
  | .done root => some root
  | _ => none

/-! ## Access -/

namespace Node

/-- The children of an element. -/
def children : Node → List Node
  | element _ _ children => children
  | _ => []

/-- Whether a node is an element. -/
def isElement : Node → Bool
  | element .. => true
  | _ => false

/-- Whether a node is an element of the given name. -/
def hasName (name : String) : Node → Bool
  | element n _ _ => n = name
  | _ => false

/-- The first child element of the given name. -/
def child? (node : Node) (name : String) : Option Node :=
  node.children.find? (·.hasName name)

/-- The value of the attribute of the given name that has no label. -/
def attribute? (node : Node) (name : String) : Option String :=
  match node with
  | element _ attributes _ => attributes.lookup ⟨"", name⟩
  | _ => none

/-- The text at the start of an element, `none` if it starts with something else. -/
def text? (node : Node) : Option String :=
  match node.children with
  | text characters :: _ => some characters
  | _ => none

end Node

end RegisterHeaders.Xml
