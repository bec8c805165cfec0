import RegisterHeaders.Yaml.Token

/-!
# Documents of YAML

`document?` builds the tree of a text that holds one document. A missing node is an empty plain
scalar. Anchors are numbered: an anchor gets as its number how many different names came before it.
A name that comes again thus takes the number that the next new name takes too. An alias stands for
the last node in the document with the number that its name has where the alias is.
-/

namespace RegisterHeaders.Yaml

/-- A node of a document. -/
inductive Node where
  | scalar (tag : Option String) (style : Style) (text : String)
  | sequence (items : List Node)
  | mapping (entries : List (Node × Node))
  /-- An alias of a node with the given number. -/
  | alias (number : Nat)
  deriving Repr

/-- The node that stands where a node is missing. -/
def Node.missing : Node :=
  .scalar none .plain ""

/-- What is left to read of a document, and what has been declared. -/
structure Tree where
  tokens : List Token
  /-- The tag handles and what they stand for. -/
  handles : List (String × String)
  /-- The names of anchors with their numbers. -/
  names : List (String × Nat)
  /-- The anchored nodes with their numbers, in the order of their anchors. -/
  anchored : Array (Nat × Node)

/-- Reading a part of a document. -/
abbrev Reading := StateT Tree Option

namespace Reading

/-- The next token, `none` at the end. -/
def peek : Reading (Option Token) :=
  return (← get).tokens.head?

/-- Passes over a token. -/
def skip : Reading Unit :=
  modify fun s => { s with tokens := s.tokens.tail }

/-- Passes over the given token; fails if another one follows. -/
def expect (token : Token) : Reading Unit := do
  guard ((← peek) = some token)
  skip

/-- Passes over the given token, if it follows, and tells whether it does. -/
def accept (token : Token) : Reading Bool := do
  if (← peek) = some token then
    skip
    return true
  else return false

/-- The tag that a handle and a suffix make. -/
def expandTag (handle suffix : String) : Reading String := do
  if handle = "" then return suffix
  else
    let expansion ← ((← get).handles.lookup handle : Option String)
    return expansion ++ suffix

/-- The anchor and the tag before a node, each at most once and in any order. -/
def properties : Reading (Option String × Option String) := do
  let anchor : Reading (Option String) := do
    match ← peek with
    | some (.anchor name) =>
      skip
      return some name
    | _ => return none
  let tag : Reading (Option String) := do
    match ← peek with
    | some (.tag handle suffix) =>
      skip
      return some (← expandTag handle suffix)
    | _ => return none
  match ← anchor with
  | some name => return (some name, ← tag)
  | none =>
    let tag ← tag
    return (← anchor, tag)

/-- Reads a node that may have an anchor. -/
def withAnchor (anchor : Option String) (read : Reading Node) : Reading Node :=
  match anchor with
  | none => read
  | some name => do
    let s ← get
    let number := s.names.length
    set { s with
      names := (name, number) :: s.names.filter (·.1 ≠ name)
      anchored := s.anchored.push (number, .missing) }
    let node ← read
    modify fun t =>
      { t with anchored := t.anchored.setIfInBounds s.anchored.size (number, node) }
    return node

/-- Whether one of the given tokens follows. -/
def atAny (tokens : List Token) : Reading Bool := do
  return (← peek).any tokens.contains

mutual

/-- A node. `block` tells whether it may be a block collection, `entries` whether it may be a list
of entries that are not indented. The first argument bounds the number of steps. -/
def node (fuel : Nat) (block entries : Bool) : Reading Node :=
  match fuel with
  | 0 => failure
  | fuel + 1 => do
    match ← peek with
    | some (.alias name) =>
      skip
      return .alias (← (← get).names.lookup name)
    | _ =>
      let (anchor, tag) ← properties
      withAnchor anchor do
        match ← peek with
        | some (.scalar style text) =>
          skip
          return .scalar tag style text
        | some .flowSequence =>
          skip
          return .sequence (← flowItems fuel true)
        | some .flowMapping =>
          skip
          return .mapping (← flowEntries fuel true)
        | some .blockEntry =>
          if entries then return .sequence (← looseItems fuel)
          else if anchor.isSome || tag.isSome then return .scalar tag .plain ""
          else failure
        | some .blockSequence =>
          guard block
          skip
          return .sequence (← blockItems fuel)
        | some .blockMapping =>
          guard block
          skip
          return .mapping (← blockEntries fuel)
        | _ =>
          if anchor.isSome || tag.isSome then return .scalar tag .plain ""
          else failure

/-- A node, or a missing one if one of the given tokens follows. -/
def nodeBefore (fuel : Nat) (tokens : List Token) (block entries : Bool) : Reading Node :=
  match fuel with
  | 0 => failure
  | fuel + 1 => do
    if ← atAny tokens then return .missing else node fuel block entries

/-- The items of a block sequence, up to its end. -/
def blockItems (fuel : Nat) : Reading (List Node) :=
  match fuel with
  | 0 => failure
  | fuel + 1 => do
    if ← accept .blockEnd then return []
    expect .blockEntry
    let item ← nodeBefore fuel [.blockEntry, .blockEnd] true false
    return item :: (← blockItems fuel)

/-- The items of a sequence that is not indented. -/
def looseItems (fuel : Nat) : Reading (List Node) :=
  match fuel with
  | 0 => failure
  | fuel + 1 => do
    if ← accept .blockEntry then
      let item ← nodeBefore fuel [.blockEntry, .key, .value, .blockEnd] true false
      return item :: (← looseItems fuel)
    else return []

/-- The entries of a block mapping, up to its end. -/
def blockEntries (fuel : Nat) : Reading (List (Node × Node)) :=
  match fuel with
  | 0 => failure
  | fuel + 1 => do
    if ← accept .blockEnd then return []
    let ends : List Token := [.key, .value, .blockEnd]
    expect .key
    let key ← nodeBefore fuel ends true true
    let value ←
      if ← accept .value then nodeBefore fuel ends true true else pure Node.missing
    return (key, value) :: (← blockEntries fuel)

/-- The items of a flow sequence, up to its end. An item may be a mapping of one entry; if its key
is missing, the token in its place is passed over. -/
def flowItems (fuel : Nat) (first : Bool) : Reading (List Node) :=
  match fuel with
  | 0 => failure
  | fuel + 1 => do
    if ← accept .flowSequenceEnd then return []
    if !first then expect .flowEntry
    if ← accept .flowSequenceEnd then return []
    let ends : List Token := [.flowEntry, .flowSequenceEnd]
    let item ←
      if ← accept .key then do
        let key ←
          if ← atAny (.value :: ends) then do
            skip
            pure Node.missing
          else node fuel false false
        let value ←
          if ← accept .value then nodeBefore fuel ends false false else pure Node.missing
        pure (Node.mapping [(key, value)])
      else node fuel false false
    return item :: (← flowItems fuel false)

/-- The entries of a flow mapping, up to its end. -/
def flowEntries (fuel : Nat) (first : Bool) : Reading (List (Node × Node)) :=
  match fuel with
  | 0 => failure
  | fuel + 1 => do
    if ← accept .flowMappingEnd then return []
    if !first then expect .flowEntry
    if ← accept .flowMappingEnd then return []
    let ends : List Token := [.flowEntry, .flowMappingEnd]
    let entry ←
      if ← accept .key then do
        let key ← nodeBefore fuel (.value :: ends) false false
        let value ←
          if ← accept .value then nodeBefore fuel ends false false else pure Node.missing
        pure (key, value)
      else do
        let key ← node fuel false false
        pure (key, Node.missing)
    return entry :: (← flowEntries fuel false)

end

/-- The tag handles that the directives at the start declare, and the tokens after them. The version
must be 1.1 or 1.2, and neither it nor a tag handle may be declared twice; the first argument tells
whether a version has been given. -/
def directives (versioned : Bool) : List Token → Option (List (String × String) × List Token)
  | .version major minor :: rest => do
    guard (!versioned && major = 1 && (minor = 1 || minor = 2))
    directives true rest
  | .tagHandle handle expansion :: rest => do
    let (handles, rest) ← directives versioned rest
    guard (handles.lookup handle).isNone
    return ((handle, expansion) :: handles, rest)
  | rest => some ([], rest)

/-- The content of a document that begins with a marker. -/
def content (fuel : Nat) : Reading Node := do
  match ← peek with
  | none | some (.version ..) | some (.tagHandle ..) | some .documentStart | some .documentEnd =>
    return .missing
  | _ => node fuel true false

/-- The only document, up to the end of the text. -/
def document (fuel : Nat) : Reading Node := do
  let start := (← get).tokens
  let (handles, rest) ← (directives false start : Option _)
  modify fun s => { s with tokens := rest, handles := handles ++ s.handles }
  let root ←
    if ← accept .documentStart then content fuel
    else
      guard (rest.length = start.length)
      node fuel true false
  guard ((← get).tokens.all (· = .documentEnd))
  return root

end Reading

/-- The tag handles that need no declaration. -/
def standardHandles : List (String × String) :=
  [("!", "!"), ("!!", "tag:yaml.org,2002:")]

/-- A document: its root, and the nodes that aliases may stand for with their numbers, the last one
first. -/
structure Document where
  root : Node
  anchored : List (Nat × Node)
  deriving Repr

/-- The node that a node of a document stands for. -/
def Document.follow (d : Document) : Node → Node
  | .alias number => (d.anchored.lookup number).getD (.alias number)
  | node => node

/-- The document in a text, none if the text is empty; fails if the text is no YAML or holds several
documents. -/
def document? (text : String) : Option (Option Document) := do
  match ← tokens? text with
  | [] => return none
  | tokens =>
    let fuel := 3 * tokens.length + 3
    let (root, s) ← (Reading.document fuel).run ⟨tokens, standardHandles, [], #[]⟩
    return some ⟨root, s.anchored.toList.reverse⟩

end RegisterHeaders.Yaml
