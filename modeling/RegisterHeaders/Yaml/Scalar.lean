import RegisterHeaders.Xml.Char
import RegisterHeaders.Yaml.Cursor

/-!
# Scalars of YAML

The forms in which a text is written: plain, quoted, and as a block of lines. White space with line
breaks in a plain or quoted scalar is folded: one break is a blank, further ones are kept.
-/

namespace RegisterHeaders.Yaml

/-- The form of a scalar. -/
inductive Style where
  | plain
  | quoted
  /-- A block that keeps its line breaks. -/
  | literal
  /-- A block whose line breaks are folded. -/
  | folded
  deriving Repr, DecidableEq

/-- What a run of white space between two words stands for. -/
def foldSpace (run : List Char) : List Char :=
  match run.filter isBreak with
  | [] => run
  | ['\n'] => [' ']
  | '\n' :: more => more
  | breaks => breaks

/-! ## Plain scalars -/

/-- The characters that separate the parts of flow collections. -/
def isFlowMark (c : Char) : Bool :=
  c == ',' || c == '[' || c == ']' || c == '\x7b' || c == '\x7d'

/-- The part of a plain scalar up to white space or a mark that ends the scalar; `flow` tells
whether the scalar is in a flow collection. A colon before a mark of a flow collection is
refused. -/
def plainWord? (flow : Bool) : List Char → Option (List Char)
  | [] => some []
  | c :: rest =>
    if isSpace c then some []
    else if flow && c == ':' && rest.head?.any (fun d => isFlowMark d || d == '?') then none
    else if c == ':' && rest.head?.all isSpace then some []
    else if flow && isFlowMark c then some []
    else (plainWord? flow rest).map (c :: ·)

/-- A plain scalar: its text, the cursor after it and the white space that follows it, and whether
that white space has a line break. -/
structure Plain where
  text : List Char
  cursor : Cursor
  broken : Bool

/-- Whether a tab stands in the indentation of a line of a run of white space: before column
`indent`, after a line break. -/
def tabInIndentation (indent : Nat) (run : List Char) : Bool :=
  ((run.splitOnP isBreak).drop 1).any fun line => (line.take indent).contains '\t'

/-- The rest of a plain scalar after the text `before`, which is given from the last character to
the first, and the white space `gap`. The lines of a scalar outside flow collections are indented by
at least `indent`. -/
def plainFrom? (flow : Bool) (indent : Nat) : Nat → List Char → List Char → Cursor → Option Plain
  | 0, _, _, _ => none
  | fuel + 1, before, gap, c =>
    if c.atDocumentMarker || c.head? = some '#' then
      some ⟨before.reverse, c, gap.any isBreak⟩
    else do
      let word ← plainWord? flow c.rest
      if word.isEmpty then return ⟨before.reverse, c, gap.any isBreak⟩
      else
        let before := word.reverse ++ (foldSpace gap).reverse ++ before
        let c := c.skip word.length
        let (gap, after) := c.span isSpace
        if gap.isEmpty then return ⟨before.reverse, c, false⟩
        guard (!tabInIndentation indent gap)
        if !flow && after.column < indent then
          return ⟨before.reverse, after, gap.any isBreak⟩
        plainFrom? flow indent fuel before gap after

/-- The plain scalar at the cursor. -/
def plain? (flow : Bool) (indent : Nat) (c : Cursor) : Option Plain :=
  plainFrom? flow indent (c.rest.length + 1) [] [] c

/-! ## Quoted scalars -/

/-- The character that a single-character escape stands for. -/
def escaped? (c : Char) : Option Char :=
  match c with
  | '0' => some (Char.ofNat 0)
  | 'a' => some (Char.ofNat 7)
  | 'b' => some (Char.ofNat 8)
  | 't' | '\t' => some '\t'
  | 'n' => some '\n'
  | 'v' => some (Char.ofNat 0x0B)
  | 'f' => some (Char.ofNat 0x0C)
  | 'r' => some '\r'
  | 'e' => some (Char.ofNat 0x1B)
  | ' ' => some ' '
  | '"' => some '"'
  | '/' => some '/'
  | '\\' => some '\\'
  | 'N' => some (Char.ofNat 0x85)
  | '_' => some (Char.ofNat 0xA0)
  | 'L' => some (Char.ofNat 0x2028)
  | 'P' => some (Char.ofNat 0x2029)
  | _ => none

/-- The number of digits of an escape that gives the number of a character. -/
def escapeDigits? (c : Char) : Option Nat :=
  match c with
  | 'x' => some 2
  | 'u' => some 4
  | 'U' => some 8
  | _ => none

/-- The character that an escape after a backslash stands for, and the length of the escape. -/
def escape? : List Char → Option (Char × Nat)
  | [] => none
  | c :: rest =>
    match escapeDigits? c with
    | none => (escaped? c).map fun x => (x, 1)
    | some count => do
      let digits := rest.take count
      guard (digits.length = count)
      let n ← Xml.number? 16 digits
      guard n.isValidChar
      return (Char.ofNat n, count + 1)

/-- The rest of a scalar in double quotes after the text `before`, which is given from the last
character to the first. -/
def doubleQuoted? : Nat → List Char → Cursor → Option (List Char × Cursor)
  | 0, _, _ => none
  | fuel + 1, before, c =>
    if c.atDocumentMarker then none
    else
      match c.rest with
      | [] => none
      | '"' :: _ => some (before.reverse, c.next)
      | '\\' :: rest =>
        if rest.head?.any isBreak then
          let (gap, after) := (c.skip 2).span isSpace
          doubleQuoted? fuel ((gap.filter isBreak).reverse ++ before) after
        else
          match escape? rest with
          | none => none
          | some (x, length) => doubleQuoted? fuel (x :: before) (c.skip (length + 1))
      | x :: _ =>
        if isSpace x then
          let (gap, after) := c.span isSpace
          doubleQuoted? fuel ((foldSpace gap).reverse ++ before) after
        else doubleQuoted? fuel (x :: before) c.next

/-- The rest of a scalar in single quotes after the text `before`, which is given from the last
character to the first. -/
def singleQuoted? : Nat → List Char → Cursor → Option (List Char × Cursor)
  | 0, _, _ => none
  | fuel + 1, before, c =>
    if c.atDocumentMarker then none
    else
      match c.rest with
      | [] => none
      | '\x27' :: '\x27' :: _ => singleQuoted? fuel ('\x27' :: before) (c.skip 2)
      | '\x27' :: _ => some (before.reverse, c.next)
      | x :: _ =>
        if isSpace x then
          let (gap, after) := c.span isSpace
          singleQuoted? fuel ((foldSpace gap).reverse ++ before) after
        else singleQuoted? fuel (x :: before) c.next

/-- The quoted scalar whose opening quote is at the cursor. -/
def quoted? (c : Cursor) : Option (List Char × Cursor) :=
  if c.head? = some '"' then doubleQuoted? c.rest.length [] c.next
  else singleQuoted? c.rest.length [] c.next

/-! ## Block scalars -/

/-- What is done with the line breaks at the end of a block. -/
inductive Chomping where
  | strip
  | clip
  | keep
  deriving Repr, DecidableEq

/-- The chomping that an indicator stands for. -/
def chomping? (c : Char) : Option Chomping :=
  match c with
  | '-' => some .strip
  | '+' => some .keep
  | _ => none

/-- The chomping and the indentation in the indicators of a block; no indentation is zero. -/
def blockIndicators? (c : Cursor) : Option (Chomping × Nat × Cursor) :=
  let digit (c : Cursor) : Option (Nat × Cursor) :=
    match c.head? with
    | some d =>
      if d = '0' then none
      else if d.isDigit then some (d.toNat - '0'.toNat, c.next)
      else some (0, c)
    | none => some (0, c)
  match c.head?.bind chomping? with
  | some chomping => (digit c.next).map fun (n, c) => (chomping, n, c)
  | none =>
    match digit c with
    | none => none
    | some (0, c) => some (.clip, 0, c)
    | some (n, c) =>
      match c.head?.bind chomping? with
      | some chomping => some (chomping, n, c.next)
      | none => some (.clip, n, c)

/-- Skips empty lines and the indentation of the next line, of `indent` blanks or of any number if
that is zero. Gives the breaks of the empty lines and the greatest indentation met. -/
def blockBreaks? (indent : Nat) : Nat → List Char → Nat → Cursor → Option (List Char × Nat × Cursor)
  | 0, _, _, _ => none
  | fuel + 1, breaks, deepest, c =>
    let blanks := c.rest.takeWhile (· == ' ')
    let blanks := if indent = 0 then blanks else blanks.take (indent - c.column)
    let c := c.skip blanks.length
    let deepest := max deepest c.column
    match c.head? with
    | none => some (breaks, deepest, c)
    | some x =>
      if (indent = 0 || c.column < indent) && x == '\t' then none
      else if isBreak x then blockBreaks? indent fuel (breaks ++ [x]) deepest c.next
      else some (breaks, deepest, c)

/-- A block while its lines are read: its text, from the last character to the first, the break
after its last line, the breaks of the empty lines after that, and whether the last line began with
a blank. -/
structure Block where
  reversed : List Char
  lastBreak : List Char
  breaks : List Char
  blankLine : Bool

/-- The rest of the lines of a block that is indented by `indent`. -/
def blockLines? (style : Style) (indent : Nat) : Nat → Block → Cursor → Option (Block × Cursor)
  | 0, _, _ => none
  | fuel + 1, block, c =>
    match c.head? with
    | none => some (block, c)
    | some x =>
      if c.column ≠ indent then some (block, c)
      else
        let lastBreak :=
          if style = .folded ∧ block.lastBreak = ['\n'] ∧ !block.blankLine ∧ !isBlank x then
            if block.breaks.isEmpty then [' '] else []
          else block.lastBreak
        let (line, after) := c.span fun y => !isBreak y
        let reversed :=
          line.reverse ++ block.breaks.reverse ++ lastBreak.reverse ++ block.reversed
        do
          let (breaks, _, next) ← blockBreaks? indent (after.rest.length + 1) [] 0 after.next
          blockLines? style indent fuel ⟨reversed, after.rest.take 1, breaks, isBlank x⟩ next

/-- The block scalar whose indicator is at the cursor, in a collection indented by `outer` columns;
outside all collections there is no indentation. -/
def block? (style : Style) (outer : Option Nat) (c : Cursor) : Option (List Char × Cursor) := do
  let (chomping, increment, c) ← blockIndicators? c.next
  let c := (← c.endOfLine?).next
  let fuel := c.rest.length + 2
  let given := if increment = 0 then 0 else outer.getD 0 + increment
  let (breaks, deepest, c) ← blockBreaks? given fuel [] 0 c
  let least := (outer.map (· + 1)).getD 0
  let indent := if given = 0 then max 1 (max deepest least) else given
  let (block, c) ← blockLines? style indent fuel ⟨[], [], breaks, false⟩ c
  let ending := match chomping with
    | .strip => []
    | .clip => block.lastBreak
    | .keep => block.lastBreak ++ block.breaks
  return (block.reversed.reverse ++ ending, c)

end RegisterHeaders.Yaml
