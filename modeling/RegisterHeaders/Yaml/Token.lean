import RegisterHeaders.Yaml.Scalar

/-!
# Tokens of YAML

`tokens?` reads a text as a sequence of tokens. Indentation becomes tokens that open and close block
collections. What turns out to be the key of a mapping when a colon follows it gets a key token in
front of it after the fact: the place where such a key may begin is remembered, one for every level
of flow collections. A key stands on one line and is at most 1024 octets long. Tags are read as
octets, so a percent sign and the number after it are the octet of that number.
-/

namespace RegisterHeaders.Yaml

/-- A token. -/
inductive Token where
  | version (major minor : Nat)
  | tagHandle (handle : String) (expansion : String)
  | documentStart
  | documentEnd
  | blockSequence
  | blockMapping
  | blockEnd
  | flowSequence
  | flowSequenceEnd
  | flowMapping
  | flowMappingEnd
  | blockEntry
  | flowEntry
  | key
  | value
  | alias (name : String)
  | anchor (name : String)
  | tag (handle suffix : String)
  | scalar (style : Style) (text : String)
  deriving Repr, DecidableEq

/-- A place where a key may begin. -/
structure KeyPlace where
  /-- Whether what begins there has to be a key. -/
  required : Bool
  /-- The number of tokens before it. -/
  position : Nat
  line : Nat
  column : Nat
  /-- The number of octets in front of it on its line. -/
  octets : Nat
  deriving Repr

/-- How far the reading of tokens has come. -/
structure Scan where
  cursor : Cursor
  tokens : Array Token
  /-- The column of the innermost block collection, `none` outside all of them. -/
  indent : Option Nat
  /-- The columns of the collections around it, innermost first. -/
  outer : List (Option Nat)
  /-- The place where a key may have begun on this level. -/
  place : Option KeyPlace
  /-- The same for the levels around it, innermost first; there is one for every open flow
  collection. -/
  outerPlaces : List (Option KeyPlace)
  /-- Whether a key may begin at the cursor. -/
  keyAllowed : Bool

namespace Scan

/-- The state at the start of a text. -/
def start (text : List Char) : Scan :=
  ⟨.start text, #[], none, [], none, [], true⟩

/-- Whether the cursor is in a flow collection. -/
def inFlow (s : Scan) : Bool :=
  !s.outerPlaces.isEmpty

/-- Adds a token. -/
def emit (s : Scan) (t : Token) : Scan :=
  { s with tokens := s.tokens.push t }

/-- Adds a token of the given number of characters at the cursor. -/
def emitAt (s : Scan) (t : Token) (length : Nat) : Scan :=
  { s.emit t with cursor := s.cursor.skip length }

/-! ## Indentation -/

/-- Opens a block collection at the given column, if it is deeper than the innermost one; its token
is put at the given position. -/
def openBlock (s : Scan) (column position : Nat) (t : Token) : Scan :=
  if s.inFlow || s.indent.any (column ≤ ·) then s
  else
    { s with
      indent := some column
      outer := s.indent :: s.outer
      tokens := s.tokens.insertIdxIfInBounds position t }

/-- Closes the block collections that are deeper than the given column, all of them if it is
`none`. The first argument has the columns around the innermost collection. -/
def closeBlocks (column : Option Nat) : List (Option Nat) → Scan → Scan
  | [], s => s
  | around :: outer, s =>
    if s.indent.any fun i => column.all (· < i) then
      closeBlocks column outer { s.emit .blockEnd with indent := around, outer }
    else s

/-- Closes the block collections that end at the cursor. -/
def unindent (s : Scan) (column : Option Nat) : Scan :=
  if s.inFlow then s else closeBlocks column s.outer s

/-! ## Keys -/

/-- Whether a key that began at the place cannot go on to the cursor. -/
def isStale (s : Scan) (p : KeyPlace) : Bool :=
  p.line < s.cursor.line || p.octets + 1024 < s.cursor.octets

/-- Forgets a place if it is stale; fails if a key was required there. -/
def refresh? (s : Scan) : Option KeyPlace → Option (Option KeyPlace)
  | none => some none
  | some p => if s.isStale p then (if p.required then none else some none) else some (some p)

/-- Forgets the stale places of all levels. -/
def refreshPlaces? (s : Scan) : Option Scan := do
  let place ← s.refresh? s.place
  let outerPlaces ← s.outerPlaces.mapM s.refresh?
  return { s with place, outerPlaces }

/-- Forgets the place of this level; fails if a key was required there. -/
def dropPlace? (s : Scan) : Option Scan :=
  if s.place.any (·.required) then none else some { s with place := none }

/-- Remembers the cursor as a place where a key may begin, and lets none begin after it. -/
def beginKey? (s : Scan) : Option Scan :=
  if s.keyAllowed then do
    let required := !s.inFlow && s.indent = some s.cursor.column
    let s ← s.dropPlace?
    let c := s.cursor
    let place := some ⟨required, s.tokens.size, c.line, c.column, c.octets⟩
    return { s with place, keyAllowed := false }
  else some s

/-! ## White space -/

/-- Skips white space and comments before a token, and a byte-order mark at the start of a line. A
tab may stand only where no key can begin. The first argument bounds the number of lines. -/
def skipSpace : Nat → Scan → Scan
  | 0, s => s
  | fuel + 1, s =>
    let c := s.cursor
    let c := if c.column = 0 ∧ c.head? = some byteOrderMark then c.next else c
    let c := c.skipWhile fun x => x == ' ' || (x == '\t' && (s.inFlow || !s.keyAllowed))
    let c := c.skipComment
    if c.head?.any isBreak then
      skipSpace fuel { s with cursor := c.next, keyAllowed := s.keyAllowed || !s.inFlow }
    else { s with cursor := c }

/-! ## Directives, anchors and tags -/

/-- A number of at most nine digits. -/
def versionNumber? (c : Cursor) : Option (Nat × Cursor) :=
  let (digits, c) := c.span Char.isDigit
  if digits.length ≤ 9 then (Xml.number? 10 digits).map fun n => (n, c) else none

/-- The rest of a version directive. -/
def versionDirective? (c : Cursor) : Option (Token × Cursor) := do
  let (major, c) ← versionNumber? (c.skipWhile isBlank)
  guard (c.head? = some '.')
  let (minor, c) ← versionNumber? c.next
  return (.version major minor, c)

/-- A tag handle: word characters between exclamation marks, of which the last may be missing. -/
def tagHandle? (c : Cursor) : Option (List Char × Cursor) :=
  if c.head? = some '!' then
    let (word, c) := c.next.span isWordChar
    if c.head? = some '!' then some ('!' :: word ++ ['!'], c.next) else some ('!' :: word, c)
  else none

/-- Whether a character may stand in a tag; `verbatim` tells whether the tag is in angle
brackets. -/
def isTagChar (verbatim : Bool) (c : Char) : Bool :=
  isWordChar c || ";/?:@&=+$.!~*\x27()%".toList.contains c ||
    (verbatim && ",[]".toList.contains c)

/-- The length of the UTF-8 sequence that begins with the given byte. -/
def sequenceLength? (n : Nat) : Option Nat :=
  if n < 0x80 then some 1
  else if 0xC0 ≤ n ∧ n < 0xE0 then some 2
  else if 0xE0 ≤ n ∧ n < 0xF0 then some 3
  else if 0xF0 ≤ n ∧ n < 0xF8 then some 4
  else none

/-- The octets of a tag in which percent signs code UTF-8 sequences, each as the character of its
number; `due` is the number of octets that the current sequence still needs. -/
def tagOctets? : Nat → List Char → Option (List Char)
  | due, [] => if due = 0 then some [] else none
  | due, '%' :: a :: b :: rest => do
    let n ← Xml.number? 16 [a, b]
    let due ←
      if due = 0 then (sequenceLength? n).map (· - 1)
      else if 0x80 ≤ n ∧ n < 0xC0 then some (due - 1)
      else none
    return Char.ofNat n :: (← tagOctets? due rest)
  | due, c :: rest => if due = 0 ∧ c ≠ '%' then (tagOctets? 0 rest).map (c :: ·) else none

/-- The run of tag characters at the cursor, not empty if it is `required`. What follows an octet of
zero does not count. -/
def tagText? (verbatim required : Bool) (c : Cursor) : Option (List Char × Cursor) := do
  let (text, c) := c.span (isTagChar verbatim)
  guard (!required || !text.isEmpty)
  let octets ← tagOctets? 0 text
  return (octets.takeWhile (·.toNat ≠ 0), c)

/-- The rest of a directive that declares a tag handle. -/
def handleDirective? (c : Cursor) : Option (Token × Cursor) := do
  let (handle, c) ← tagHandle? (c.skipWhile isBlank)
  guard (handle = ['!'] ∨ handle.length ≥ 2 ∧ handle.getLast? = some '!')
  guard (c.head?.any isBlank)
  let (expansion, c) ← tagText? true true (c.skipWhile isBlank)
  guard (c.spaceAt 0)
  return (.tagHandle (String.ofList handle) (String.ofList expansion), c)

/-- The directive at the cursor. -/
def directive? (c : Cursor) : Option (Token × Cursor) := do
  let (name, c) := c.next.span isWordChar
  guard (!name.isEmpty && c.spaceAt 0)
  let (token, c) ← match String.ofList name with
    | "YAML" => versionDirective? c
    | "TAG" => handleDirective? c
    | _ => none
  let c ← c.endOfLine?
  return (token, c.next)

/-- The name of an anchor or alias after its indicator. -/
def anchorName? (c : Cursor) : Option (String × Cursor) := do
  let (name, c) := c.next.span isWordChar
  guard (!name.isEmpty && c.head?.all fun x => isSpace x || "?:,]\x7d%@\x60".toList.contains x)
  return (String.ofList name, c)

/-- The tag at the cursor, in parts: a handle, which is empty for a complete tag, and a suffix. -/
def tagParts? (c : Cursor) : Option (List Char × List Char × Cursor) :=
  if c.rest[1]? = some '<' then do
    let (suffix, c) ← tagText? true true (c.skip 2)
    guard (c.head? = some '>')
    return ([], suffix, c.next)
  else do
    let (handle, c) ← tagHandle? c
    if handle.length ≥ 2 ∧ handle.getLast? = some '!' then
      let (suffix, c) ← tagText? false true c
      return (handle, suffix, c)
    else
      let (text, c) ← tagText? false false c
      let suffix := handle.tail ++ text
      return if suffix.isEmpty then ([], ['!'], c) else (['!'], suffix, c)

/-- The tag at the cursor. -/
def tag? (inFlow : Bool) (c : Cursor) : Option (Token × Cursor) := do
  let (handle, suffix, c) ← tagParts? c
  guard (c.spaceAt 0 || (inFlow && c.head? = some ','))
  return (.tag (String.ofList handle) (String.ofList suffix), c)

/-! ## Reading tokens -/

/-- Whether a plain scalar can begin at the cursor. -/
def beginsPlain (s : Scan) : Bool :=
  match s.cursor.rest with
  | [] => false
  | '-' :: rest => !rest.head?.any isBlank
  | c :: rest =>
    if c == '?' || c == ':' then !s.inFlow && !rest.head?.all isSpace
    else !isSpace c && !",[]\x7b\x7d#&*!|>\x27\"%@\x60".toList.contains c

/-- Reads a directive or a marker between documents. -/
def betweenDocuments? (s : Scan) (token : Token) (after : Cursor) : Option Scan := do
  let s ← (s.unindent none).dropPlace?
  return { s.emit token with cursor := after, keyAllowed := false }

/-- Reads the start of a flow collection. -/
def openFlow? (s : Scan) (token : Token) : Option Scan := do
  let s ← s.beginKey?
  return { s.emitAt token 1 with
    place := none, outerPlaces := s.place :: s.outerPlaces, keyAllowed := true }

/-- Reads the end of a flow collection. -/
def closeFlow? (s : Scan) (token : Token) : Option Scan := do
  let s := { ← s.dropPlace? with keyAllowed := false }
  match s.outerPlaces with
  | place :: outerPlaces => return { s.emitAt token 1 with place, outerPlaces }
  | [] => return s.emitAt token 1

/-- Reads an indicator of a key or an entry, which may begin a block collection. -/
def openEntry? (s : Scan) (collection token : Token) (keyAllowed : Bool) : Option Scan := do
  guard (s.inFlow || s.keyAllowed)
  let s ← (s.openBlock s.cursor.column s.tokens.size collection).dropPlace?
  return { s.emitAt token 1 with keyAllowed }

/-- Reads the indicator of a value. What began at the remembered place is its key. -/
def value? (s : Scan) : Option Scan :=
  match s.place with
  | some p =>
    let s := { s with tokens := s.tokens.insertIdxIfInBounds p.position .key, place := none }
    let s := s.openBlock p.column p.position .blockMapping
    some { s.emitAt .value 1 with keyAllowed := false }
  | none => do
    guard (s.inFlow || s.keyAllowed)
    let s := s.openBlock s.cursor.column s.tokens.size .blockMapping
    return { s.emitAt .value 1 with keyAllowed := !s.inFlow }

/-- Reads a token that may be a key. -/
def content? (s : Scan) (read : Cursor → Option (Token × Cursor)) : Option Scan := do
  let s ← s.beginKey?
  let (token, cursor) ← read s.cursor
  return { s.emit token with cursor, keyAllowed := false }

/-- Reads a block scalar. -/
def blockScalar? (s : Scan) (style : Style) : Option Scan := do
  let s ← s.dropPlace?
  let (text, cursor) ← block? style s.indent s.cursor
  return { s.emit (.scalar style (String.ofList text)) with cursor, keyAllowed := true }

/-- Reads a plain scalar. A key may begin after it if a line break follows it. -/
def plainScalar? (s : Scan) : Option Scan := do
  guard s.beginsPlain
  let s ← s.beginKey?
  let plain ← plain? s.inFlow ((s.indent.map (· + 1)).getD 0) s.cursor
  return { s.emit (.scalar .plain (String.ofList plain.text)) with
    cursor := plain.cursor, keyAllowed := plain.broken }

/-- Reads the token that begins with the character `x` at the cursor. -/
def token? (s : Scan) (x : Char) : Option Scan :=
  let c := s.cursor
  if c.column = 0 ∧ x = '%' then do
    let (token, after) ← directive? c
    s.betweenDocuments? token after
  else if c.atMarker "---" then s.betweenDocuments? .documentStart (c.skip 3)
  else if c.atMarker "..." then s.betweenDocuments? .documentEnd (c.skip 3)
  else
    match x with
    | '[' => s.openFlow? .flowSequence
    | '\x7b' => s.openFlow? .flowMapping
    | ']' => s.closeFlow? .flowSequenceEnd
    | '\x7d' => s.closeFlow? .flowMappingEnd
    | ',' => do
      let s ← s.dropPlace?
      return { s.emitAt .flowEntry 1 with keyAllowed := true }
    | '*' => s.content? fun c => (anchorName? c).map fun (name, c) => (.alias name, c)
    | '&' => s.content? fun c => (anchorName? c).map fun (name, c) => (.anchor name, c)
    | '!' => s.content? (tag? s.inFlow)
    | '"' | '\x27' =>
      s.content? fun c =>
        (quoted? c).map fun (text, c) => (.scalar .quoted (String.ofList text), c)
    | _ =>
      if x = '-' ∧ c.spaceAt 1 then s.openEntry? .blockSequence .blockEntry true
      else if x = '?' ∧ (s.inFlow ∨ c.spaceAt 1) then
        s.openEntry? .blockMapping .key (!s.inFlow)
      else if x = ':' ∧ (s.inFlow ∨ c.spaceAt 1) then s.value?
      else if x = '|' ∧ !s.inFlow then s.blockScalar? .literal
      else if x = '>' ∧ !s.inFlow then s.blockScalar? .folded
      else s.plainScalar?

/-- The tokens of the rest of a text, which has fewer than `fuel` characters. -/
def run? : Nat → Scan → Option (List Token)
  | 0, _ => none
  | fuel + 1, s => do
    let s ← (s.skipSpace (fuel + 1)).refreshPlaces?
    let s := s.unindent (some s.cursor.column)
    match s.cursor.head? with
    | none => return (← (s.unindent none).dropPlace?).tokens.toList
    | some x => run? fuel (← s.token? x)

end Scan

/-- The tokens of a text. -/
def tokens? (document : String) : Option (List Token) := do
  guard (document.toList.all isPrintable)
  let text := normalizeBreaks document.toList
  (Scan.start text).run? (text.length + 1)

end RegisterHeaders.Yaml
