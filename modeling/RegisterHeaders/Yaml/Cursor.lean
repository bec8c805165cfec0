/-!
# Reading positions in YAML

A cursor is what is left of a text, with the line and column where it begins and the number of
octets before it on that line. Line breaks are normalised before reading, so a break is a single
character.
-/

namespace RegisterHeaders.Yaml

/-! ## Characters -/

/-- The characters that a document may contain. -/
def isPrintable (c : Char) : Bool :=
  let n := c.toNat
  n == 0x09 || n == 0x0A || n == 0x0D || (0x20 ≤ n && n ≤ 0x7E) || n == 0x85 ||
    (0xA0 ≤ n && n ≠ 0xFFFE && n ≠ 0xFFFF)

/-- The byte-order mark. -/
def byteOrderMark : Char := Char.ofNat 0xFEFF

/-- Writes every line break as one character; only the line and paragraph separators of Unicode
stay as they are. -/
def normalizeBreaks : List Char → List Char
  | [] => []
  | '\r' :: '\n' :: rest => '\n' :: normalizeBreaks rest
  | c :: rest =>
    (if c = '\r' ∨ c.toNat = 0x85 then '\n' else c) :: normalizeBreaks rest

/-- The line breaks. -/
def isBreak (c : Char) : Bool :=
  c == '\n' || c.toNat == 0x2028 || c.toNat == 0x2029

/-- The blanks within a line. -/
def isBlank (c : Char) : Bool :=
  c == ' ' || c == '\t'

/-- The characters that end a word. -/
def isSpace (c : Char) : Bool :=
  isBlank c || isBreak c

/-- The characters of anchors and tag handles. -/
def isWordChar (c : Char) : Bool :=
  c.isAlphanum || c == '_' || c == '-'

/-! ## Cursors -/

/-- What is left of a text, and where it begins. -/
structure Cursor where
  rest : List Char
  line : Nat
  column : Nat
  /-- The number of octets in front of it on its line. -/
  octets : Nat
  deriving Repr

namespace Cursor

/-- The cursor at the start of a text. -/
def start (text : List Char) : Cursor :=
  ⟨text, 0, 0, 0⟩

/-- The character under the cursor, `none` at the end. -/
def head? (c : Cursor) : Option Char :=
  c.rest.head?

/-- The cursor after one character. -/
def next (c : Cursor) : Cursor :=
  match c.rest with
  | [] => c
  | x :: rest =>
    if isBreak x then ⟨rest, c.line + 1, 0, 0⟩
    else ⟨rest, c.line, c.column + 1, c.octets + x.utf8Size⟩

/-- The cursor after `n` characters. -/
def skip : Nat → Cursor → Cursor
  | 0, c => c
  | n + 1, c => c.next.skip n

/-- The run of characters under the cursor with a property, and the cursor after it. -/
def span (p : Char → Bool) (c : Cursor) : List Char × Cursor :=
  let run := c.rest.takeWhile p
  (run, c.skip run.length)

/-- The cursor after the run of characters with a property. -/
def skipWhile (p : Char → Bool) (c : Cursor) : Cursor :=
  (c.span p).2

/-- Whether the character `n` places ahead is white space, or the text ends there. -/
def spaceAt (c : Cursor) (n : Nat) : Bool :=
  (c.rest[n]?).all isSpace

/-- Whether the cursor is at a marker that starts or ends a document. -/
def atMarker (marker : String) (c : Cursor) : Bool :=
  c.column == 0 && marker.toList.isPrefixOf c.rest && c.spaceAt 3

/-- Whether the cursor is at either marker. -/
def atDocumentMarker (c : Cursor) : Bool :=
  c.atMarker "---" || c.atMarker "..."

/-- The cursor after a comment, if there is one. -/
def skipComment (c : Cursor) : Cursor :=
  if c.head? = some '#' then c.skipWhile fun x => !isBreak x else c

/-- The cursor at the end of the line, if only blanks and a comment stand before it. -/
def endOfLine? (c : Cursor) : Option Cursor :=
  let c := (c.skipWhile isBlank).skipComment
  if c.head?.all isBreak then some c else none

end Cursor

end RegisterHeaders.Yaml
