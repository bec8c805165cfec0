import RegisterHeaders.Svd.Validity

/-!
# Reading SVD documents

`Document.read` reads the document in an XML text. Of several child elements of one name the first
counts, and their order does not matter; elements that headers do not depend on are passed over if
they are valid. What a valid document must have is checked where the element is read. The first
fault counts: the parts of an element are read one after the other, the elements within it before
the shape of its array, and a list from its first element to its last.
-/

namespace RegisterHeaders.Svd

open Xml (Node)

/-! ## Register properties -/

/-- The size and access of the registers in an element. -/
structure Properties where
  size : Option UInt32
  access : Option Access

/-- The number of bits of a number. -/
def bitCount (n : UInt64) : Nat :=
  if n = 0 then 0 else Nat.log2 n.toNat + 1

/-- The access rights in an element. -/
def readAccess (node : Node) : Read Access :=
  orMalformed ((textOf? node).bind access?)

/-- The properties of the registers in an element. The reset value must fit in with the size. -/
def readProperties (node : Node) : Read Properties := do
  let size ← optional readU32 node "size"
  let access ← optional readAccess node "access"
  checkProtection node
  let reset ← optional readU64 node "resetValue"
  let _ ← optional readU64 node "resetMask"
  check (size.all fun size => reset.all fun reset => bitCount reset ≤ size.toNat)
  return ⟨size, access⟩

/-! ## Enumerated values -/

/-- A value of a block. One without a number must be the default value. -/
def readEnumeratedValue (node : Node) : Read EnumeratedValue := do
  check (node.hasName "enumeratedValue")
  let name ← requiredText node "name"
  let value ← optional readU64 node "value"
  let isDefault := ((childText? node "isDefault").bind truth?).getD false
  check (value.isSome || isDefault)
  return ⟨name, value, optionalText? node "description"⟩

/-- A block of enumerated values. A block that is not taken from another one has values. -/
def readBlock (node : Node) : Read Block := do
  let derivedFrom := node.attribute? "derivedFrom"
  let _ ← optional (checkWord ["read", "write", "read-write"]) node "usage"
  let entries := node.children.filter fun n =>
    n.isElement && ["name", "headerEnumName", "usage"].all fun name => !n.hasName name
  let values ← entries.mapM readEnumeratedValue
  check (derivedFrom.isSome || values ≠ [])
  return ⟨optionalText? node "name", derivedFrom, values⟩

/-! ## Arrays -/

/-- The indexes from one label to another: numbers, or letters of one case. -/
def rangeLabels? (first last : String) : Option (List String) :=
  let number? (label : String) : Option Nat := (digits? 10 label.toList).filter (· < UInt32.size)
  match number? first, number? last with
  | some a, some b => some ((List.range' a (b + 1 - a)).map Nat.repr)
  | _, _ =>
    match first.toList, last.toList with
    | [a], [b] =>
      if a.isLower ∧ b.isLower ∨ a.isUpper ∧ b.isUpper then
        some ((List.range' a.toNat (b.toNat + 1 - a.toNat)).map fun n => (Char.ofNat n).toString)
      else none
    | _, _ => none

/-- The indexes that a text lists. -/
def indexLabels? (text : String) : Option (List String) :=
  match text.toList.span (· ≠ '-') with
  | (_, []) => some ((text.toList.splitOn ',').map String.ofList)
  | (first, _ :: last) => rangeLabels? (String.ofList first) (String.ofList last)

/-- Whether a name has a place for the index of an array element. -/
def hasPlaceholder (name : String) : Bool :=
  (Xml.cut "%s".toList name.toList).isSome

/-- Checks the values that describe the indexes of an array. -/
def checkIndexValues (node : Node) : Read Unit := do
  let entries := node.children.filter fun n => n.isElement && !n.hasName "headerEnumName"
  let _ ← entries.mapM readEnumeratedValue

/-- The shape of an element of the given name, which is an array if it has an increment. -/
def readArray (node : Node) (name : String) : Read (Option ArrayShape) :=
  match node.child? "dimIncrement" with
  | none => return none
  | some increment => do
    check (hasPlaceholder name)
    let count ← required readU32 node "dim"
    let increment ← readU32 increment
    let _ ← optional checkIndexValues node "dimArrayIndex"
    match node.child? "dimIndex" with
    | none => return some ⟨count, increment, []⟩
    | some index =>
      let indexes ← orMalformed ((textOf? index).bind indexLabels?)
      check (indexes ≠ [] && indexes.length = count.toNat)
      return some ⟨count, increment, indexes⟩

/-! ## Fields -/

/-- The offset and width of the bits from `lsb` to `msb`. -/
def bitsBetween (msb lsb : UInt32) : Read (UInt32 × UInt32) := do
  check (lsb ≤ msb)
  let width ← (Checked.addOffset (msb - lsb) 1).mapError .overflow
  return (lsb, width)

/-- The range that a text such as `[7:0]` stands for. -/
def bitsOfText (text : String) : Read (UInt32 × UInt32) := do
  let number? (digits : List Char) : Option UInt32 :=
    ((digits? 10 digits).filter (· < UInt32.size)).map Nat.toUInt32
  match text.toList with
  | '[' :: rest =>
    check (rest.getLast? = some ']')
    match (rest.dropLast.splitOn ':').map number? with
    | some msb :: some lsb :: _ => bitsBetween msb lsb
    | _ => .error .malformed
  | _ => .error .malformed

/-- The offset and width of a field. -/
def readBits (node : Node) : Read (UInt32 × UInt32) :=
  match node.child? "bitRange" with
  | some range => do bitsOfText (← orMalformed range.text?)
  | none =>
    match node.child? "lsb", node.child? "msb" with
    | some lsb, some msb => do bitsBetween (← readU32 msb) (← readU32 lsb)
    | _, _ =>
      match node.child? "bitOffset", node.child? "bitWidth" with
      | some offset, some width => return (← readU32 offset, ← readU32 width)
      | _, _ => .error .malformed

/-- Whether the numbers of a block are less than `2 ^ width`; widths of 64 and more hold any. -/
def Block.fits (width : UInt32) (block : Block) : Bool :=
  width.toNat ≥ 64 || block.values.all fun v => v.value.all fun n => n.toNat < 1 <<< width.toNat

/-- Whether a range is one of numbers less than `2 ^ width`; widths of 64 and more hold any
range. -/
def WriteRange.fits (width : UInt32) (range : WriteRange) : Bool :=
  width.toNat ≥ 64 ||
    (range.minimum ≤ range.maximum && range.maximum.toNat < 1 <<< width.toNat)

/-- A field. -/
def readField (node : Node) : Read Field := do
  check (node.hasName "field")
  let (bitOffset, bitWidth) ← readBits node
  let name ← requiredText node "name"
  let access ← optional readAccess node "access"
  checkModifiedWriteValues node
  let range ← readWriteRange node
  checkReadAction node
  let blocks ← (node.children.filter (·.hasName "enumeratedValues")).mapM readBlock
  check (bitWidth ≠ 0 && blocks.all (Block.fits bitWidth) && range.all (WriteRange.fits bitWidth))
  let array ← readArray node name
  return {
    name
    array
    derivedFrom := node.attribute? "derivedFrom"
    access
    bitOffset
    bitWidth
    description := optionalText? node "description"
    blocks }

/-! ## Registers and peripherals -/

/-- A register. Its description may be empty. -/
def readRegister (node : Node) : Read Register := do
  let name ← requiredText node "name"
  let addressOffset ← required readU32 node "addressOffset"
  let properties ← readProperties node
  checkDataType node
  checkModifiedWriteValues node
  let _ ← readWriteRange node
  checkReadAction node
  let fields ← optional (fun n => (n.children.filter (·.isElement)).mapM readField) node "fields"
  let array ← readArray node name
  return {
    name
    array
    derivedFrom := node.attribute? "derivedFrom"
    addressOffset
    size := properties.size
    access := properties.access
    description := childText? node "description"
    fields }

/-- What a cluster says about the registers in it, the shape of its array apart. -/
def readCluster (node : Node) : Read Cluster := do
  let name ← requiredText node "name"
  let addressOffset ← required readU32 node "addressOffset"
  let { size, access } ← readProperties node
  return { name, array := none, addressOffset, size, access }

mutual

/-- The entry that a node is, if it is a register or a cluster. No other element may stand there if
`only` holds. -/
def readEntry (only : Bool) : Node → Read (Option Entry)
  | .element name attributes children =>
    if name = "register" then do
      return some (.register (← readRegister (.element name attributes children)))
    else if name = "cluster" then do
      let cluster ← readCluster (.element name attributes children)
      let entries ← readEntries false children
      let array ← readArray (.element name attributes children) cluster.name
      return some (.cluster { cluster with array } entries)
    else do
      check (!only)
      return none
  | _ => return none

/-- The registers and clusters among a list of nodes, which holds no other elements if `only`
holds. -/
def readEntries (only : Bool) : List Node → Read (List Entry)
  | [] => return []
  | node :: rest => do
    let entry ← readEntry only node
    return entry.toList ++ (← readEntries only rest)

end

/-- A peripheral. -/
def readPeripheral (node : Node) : Read Peripheral := do
  check (node.hasName "peripheral")
  let name ← requiredText node "name"
  let baseAddress ← required readU64 node "baseAddress"
  let properties ← readProperties node
  (node.children.filter (·.hasName "addressBlock")).forM checkAddressBlock
  (node.children.filter (·.hasName "interrupt")).forM checkInterrupt
  let registers ← optional (readEntries true ·.children) node "registers"
  let array ← readArray node name
  return {
    name
    array
    derivedFrom := node.attribute? "derivedFrom"
    baseAddress
    size := properties.size
    access := properties.access
    description := optionalText? node "description"
    registers }

/-- The document in a root element. -/
def readDevice (root : Node) : Read Document := do
  check (root.hasName "device")
  let name ← requiredText root "name"
  let _ ← optional checkCpu root "cpu"
  let properties ← readProperties root
  let list ← orMalformed (root.child? "peripherals")
  let peripherals ← (list.children.filter (·.isElement)).mapM readPeripheral
  let _ ← optional readU32 root "addressUnitBits"
  let _ ← optional readU32 root "width"
  check (peripherals.length ≠ 0)
  return {
    name
    description := optionalText? root "description"
    size := properties.size
    access := properties.access
    peripherals }

/-- The document in an XML text. -/
def Document.read (text : String) : Read Document := do
  readDevice (← orMalformed (Xml.parse? text))

end RegisterHeaders.Svd
