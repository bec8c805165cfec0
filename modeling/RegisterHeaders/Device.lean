import RegisterHeaders.Access

/-!
# Devices

The register model that headers are generated from. Every attribute is known and nothing refers to
another element any more.
-/

namespace RegisterHeaders

/-- A named value of a field. -/
structure EnumValue where
  name : String
  value : UInt64
  description : Option String
  deriving Repr, DecidableEq

/-- A bit field of a register. -/
structure Field where
  name : String
  access : Access
  bitOffset : UInt32
  bitWidth : UInt32
  description : Option String
  /-- The named values, if any are declared. -/
  enumeratedValues : Option (List EnumValue)
  deriving Repr, DecidableEq

/-- A register of a peripheral. -/
structure Register where
  name : String
  /-- The base address of the peripheral plus the offset. -/
  address : UInt64
  offset : UInt64
  access : Access
  /-- The width in bits. -/
  width : UInt32
  description : Option String
  fields : List Field
  deriving Repr, DecidableEq

/-- A peripheral of a device. -/
structure Peripheral where
  name : String
  baseAddress : UInt64
  access : Access
  width : UInt32
  description : Option String
  registers : List Register
  deriving Repr, DecidableEq

/-- A device with all its peripherals. -/
structure Device where
  name : String
  description : Option String
  access : Access
  width : UInt32
  peripherals : List Peripheral
  deriving Repr, DecidableEq

end RegisterHeaders
