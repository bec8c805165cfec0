import RegisterHeaders.Access

/-!
# SVD documents

The content of a CMSIS-SVD document as far as register headers depend on it. An element with an
array shape stands for several elements, whose names are made of its name and their indexes.
Registers may be grouped in clusters, at any depth.
-/

namespace RegisterHeaders.Svd

/-- How many elements an array has, and how far they are apart. -/
structure ArrayShape where
  count : UInt32
  increment : UInt32
  /-- The indexes in the names of the first elements; the others are numbered. -/
  indexes : List String
  deriving Repr, DecidableEq

/-- A value of a block of enumerated values; a default value has no number. -/
structure EnumeratedValue where
  name : String
  value : Option UInt64
  description : Option String
  deriving Repr, DecidableEq

/-- A block of enumerated values, possibly taken from another block. -/
structure Block where
  name : Option String
  derivedFrom : Option String
  values : List EnumeratedValue
  deriving Repr, DecidableEq

/-- A bit field. -/
structure Field where
  name : String
  array : Option ArrayShape
  derivedFrom : Option String
  access : Option Access
  bitOffset : UInt32
  bitWidth : UInt32
  description : Option String
  blocks : List Block
  deriving Repr, DecidableEq

/-- A register. -/
structure Register where
  name : String
  array : Option ArrayShape
  derivedFrom : Option String
  addressOffset : UInt32
  size : Option UInt32
  access : Option Access
  description : Option String
  fields : Option (List Field)
  deriving Repr, DecidableEq

/-- What a cluster says about the registers in it. -/
structure Cluster where
  name : String
  array : Option ArrayShape
  addressOffset : UInt32
  size : Option UInt32
  access : Option Access
  deriving Repr, DecidableEq

/-- An entry of a register list: a register, or a cluster with its entries. -/
inductive Entry where
  | register (register : Register)
  | cluster (cluster : Cluster) (entries : List Entry)
  deriving Repr

/-- A peripheral. -/
structure Peripheral where
  name : String
  array : Option ArrayShape
  derivedFrom : Option String
  baseAddress : UInt64
  size : Option UInt32
  access : Option Access
  description : Option String
  registers : Option (List Entry)
  deriving Repr

/-- A document, which describes one device. -/
structure Document where
  name : String
  description : Option String
  size : Option UInt32
  access : Option Access
  peripherals : List Peripheral
  deriving Repr

mutual

/-- The registers of an entry, depth first. -/
def Entry.allRegisters : Entry → List Register
  | .register r => [r]
  | .cluster _ entries => allRegistersOf entries

/-- The registers of a list of entries, depth first. -/
def allRegistersOf : List Entry → List Register
  | [] => []
  | entry :: rest => entry.allRegisters ++ allRegistersOf rest

end

/-- The access rights that a document can give, by their names. -/
def access? (text : String) : Option Access :=
  match text with
  | "read-only" => some .readOnly
  | "write-only" => some .writeOnly
  | "read-write" => some .readWrite
  | "writeOnce" => some .writeOnce
  | "read-writeOnce" => some .readWriteOnce
  | _ => none

end RegisterHeaders.Svd
