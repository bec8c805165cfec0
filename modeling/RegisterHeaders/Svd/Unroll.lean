import RegisterHeaders.Overflow
import RegisterHeaders.Svd.Document

/-!
# Unrolling arrays and flattening clusters

`unroll` turns the elements of a document into the single elements they stand for. The elements of
an array follow each other at its increment and have their indexes in their names. A cluster
disappears: its name becomes a part of the names of its registers, its offset is added to theirs,
and its size and access hold for those that give none. Positions are computed with overflow checks.
-/

namespace RegisterHeaders.Svd

/-! ## Names of array elements -/

/-- Replaces every `[%s]` by the index. -/
def replaceBracketed (index : List Char) : List Char → List Char
  | '[' :: '%' :: 's' :: ']' :: rest => index ++ replaceBracketed index rest
  | c :: rest => c :: replaceBracketed index rest
  | [] => []

/-- Replaces every `%s` by the index. -/
def replacePlain (index : List Char) : List Char → List Char
  | '%' :: 's' :: rest => index ++ replacePlain index rest
  | c :: rest => c :: replacePlain index rest
  | [] => []

/-- The name of the element of an array with the given index. -/
def elementName (name index : String) : String :=
  String.ofList (replacePlain index.toList (replaceBracketed index.toList name.toList))

/-- The indexes of the elements of an array. -/
def ArrayShape.labels (shape : ArrayShape) : List String :=
  (List.range shape.count.toNat).map fun i => shape.indexes[i]?.getD i.repr

/-- An element of an array: its name and its distance from the first element in increments. -/
structure Instance where
  name : String
  position : Nat
  /-- The distance from one element to the next. -/
  increment : UInt32
  deriving Repr, DecidableEq

/-- The elements that an element of the given name and shape stands for. -/
def instances (name : String) : Option ArrayShape → List Instance
  | none => [⟨name, 0, 0⟩]
  | some shape => shape.labels.zipIdx.map fun (label, i) =>
    ⟨elementName name label, i, shape.increment⟩

/-- The address of an element of an array that starts at `start`. The distance from the start is
less than `2 ^ 64`. -/
def Instance.address (i : Instance) (start : UInt64) : Except Overflow UInt64 :=
  Checked.addAddress start (i.position.toUInt64 * i.increment.toUInt64)

/-- The bit offset of an element of an array that starts at `start`. -/
def Instance.bitOffset (i : Instance) (start : UInt32) : Except Overflow UInt32 := do
  Checked.addOffset start (← Checked.mulOffset i.position.toUInt32 i.increment)

/-! ## Single elements -/

/-- A single field. -/
structure SingleField where
  name : String
  bitOffset : UInt32
  /-- The field of the document that it stems from. -/
  field : Field
  deriving Repr, DecidableEq

/-- A single register outside all clusters. -/
structure SingleRegister where
  name : String
  derivedFrom : Option String
  addressOffset : UInt64
  size : Option UInt32
  access : Option Access
  description : Option String
  fields : Option (List SingleField)
  deriving Repr, DecidableEq

/-- A single peripheral. -/
structure SinglePeripheral where
  name : String
  baseAddress : UInt64
  registers : Option (List SingleRegister)
  /-- The peripheral of the document that it stems from. -/
  peripheral : Peripheral
  deriving Repr

/-- The single fields of a field. -/
def Field.unroll (f : Field) : Except Overflow (List SingleField) :=
  (instances f.name f.array).mapM fun i => return ⟨i.name, ← i.bitOffset f.bitOffset, f⟩

/-- The single fields of a field list. -/
def unrollFields (fields : List Field) : Except Overflow (List SingleField) :=
  return (← fields.mapM Field.unroll).flatten

/-- What surrounds an entry of a register list. -/
structure Surroundings where
  /-- The address offset of the innermost cluster. -/
  offset : UInt64
  /-- The names of the clusters, each followed by an underscore. -/
  path : String
  size : Option UInt32
  access : Option Access
  deriving Repr, DecidableEq

/-- The surroundings outside all clusters. -/
def Surroundings.outside : Surroundings :=
  ⟨0, "", none, none⟩

/-- Whether an entry is a register, or register array, of the given name. -/
def Entry.isRegisterNamed (name : String) : Entry → Bool
  | .register r => r.name = name
  | .cluster _ _ => false

/-- A reference written in a cluster, as it reads outside: a name of a register among the entries
`siblings` of the cluster gets the names of the clusters, as that register does. -/
def Surroundings.reference (outer : Surroundings) (siblings : List Entry) (name : String) :
    String :=
  if outer.path ≠ "" ∧ '.' ∉ name.toList ∧ siblings.any (·.isRegisterNamed name) then
    outer.path ++ name
  else name

/-- The single registers of a register among the entries `siblings`. -/
def Register.unroll (outer : Surroundings) (siblings : List Entry) (r : Register) :
    Except Overflow (List SingleRegister) :=
  (instances r.name r.array).mapM fun i => do
    let start ← Checked.addAddress outer.offset r.addressOffset.toUInt64
    let addressOffset ← i.address start
    let fields ← r.fields.mapM unrollFields
    return {
      name := outer.path ++ i.name
      derivedFrom := r.derivedFrom.map (outer.reference siblings)
      addressOffset
      size := r.size.or outer.size
      access := r.access.or outer.access
      description := r.description
      fields }

/-- What surrounds the entries of one element of a cluster. -/
def Cluster.surroundings (outer : Surroundings) (c : Cluster) (i : Instance) :
    Except Overflow Surroundings := do
  let start ← Checked.addAddress outer.offset c.addressOffset.toUInt64
  return {
    offset := ← i.address start
    path := outer.path ++ i.name ++ "_"
    size := c.size.or outer.size
    access := c.access.or outer.access }

mutual

/-- The single registers of an entry among the entries `siblings`. -/
def Entry.unroll (outer : Surroundings) (siblings : List Entry) :
    Entry → Except Overflow (List SingleRegister)
  | .register r => r.unroll outer siblings
  | .cluster c entries => do
    let elements ← (instances c.name c.array).mapM fun i => do
      let inner ← c.surroundings outer i
      unrollEntries inner entries entries
    return elements.flatten

/-- The single registers of a list of entries among the entries `siblings`. -/
def unrollEntries (outer : Surroundings) (siblings : List Entry) :
    List Entry → Except Overflow (List SingleRegister)
  | [] => return []
  | entry :: rest => do
    let first ← entry.unroll outer siblings
    return first ++ (← unrollEntries outer siblings rest)

end

/-- The single registers of a register list. -/
def unrollRegisters (entries : List Entry) : Except Overflow (List SingleRegister) :=
  unrollEntries .outside entries entries

/-- The single peripherals of a peripheral. -/
def Peripheral.unroll (p : Peripheral) : Except Overflow (List SinglePeripheral) :=
  (instances p.name p.array).mapM fun i => do
    let baseAddress ← i.address p.baseAddress
    return ⟨i.name, baseAddress, ← p.registers.mapM unrollRegisters, p⟩

/-- The single peripherals of a document. -/
def Document.unroll (doc : Document) : Except Overflow (List SinglePeripheral) :=
  return (← doc.peripherals.mapM Peripheral.unroll).flatten

end RegisterHeaders.Svd
