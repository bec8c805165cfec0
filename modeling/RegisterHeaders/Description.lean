import RegisterHeaders.Access
import RegisterHeaders.Device

/-!
# Descriptions

A description is a device as its author writes it. An attribute that is not written is `none`, and
an element may derive from another one, named by `derivedFrom`, whose attributes it takes unless it
has its own: `inherit` takes the attributes of one base.
-/

namespace RegisterHeaders.Description

/-- A described bit field. -/
structure Field where
  name : String
  derivedFrom : Option String
  access : Option Access
  bitOffset : Option UInt32
  bitWidth : Option UInt32
  description : Option String
  enumeratedValues : Option (List EnumValue)
  deriving Repr, DecidableEq

/-- A described register. -/
structure Register where
  name : String
  derivedFrom : Option String
  addressOffset : Option UInt64
  access : Option Access
  width : Option UInt32
  description : Option String
  /-- The fields, `none` if the register has no field list of its own. -/
  fields : Option (List Field)
  deriving Repr, DecidableEq

/-- A described peripheral. -/
structure Peripheral where
  name : String
  derivedFrom : Option String
  baseAddress : Option UInt64
  access : Option Access
  width : Option UInt32
  description : Option String
  /-- The registers, `none` if the peripheral has no register list of its own. -/
  registers : Option (List Register)
  deriving Repr, DecidableEq

/-- A described device. -/
structure Device where
  name : String
  description : Option String
  access : Option Access
  width : Option UInt32
  peripherals : List Peripheral
  deriving Repr, DecidableEq

/-- The field with the attributes it does not set taken from `base`. -/
def Field.inherit (own base : Field) : Field :=
  { own with
    access := own.access.or base.access
    bitOffset := own.bitOffset.or base.bitOffset
    bitWidth := own.bitWidth.or base.bitWidth
    description := own.description.or base.description
    enumeratedValues := own.enumeratedValues.or base.enumeratedValues }

/-- The register with the attributes it does not set taken from `base`. The field list is not an
attribute. -/
def Register.inherit (own base : Register) : Register :=
  { own with
    addressOffset := own.addressOffset.or base.addressOffset
    access := own.access.or base.access
    width := own.width.or base.width
    description := own.description.or base.description }

/-- The peripheral with the attributes it does not set taken from `base`. The register list is not
an attribute. -/
def Peripheral.inherit (own base : Peripheral) : Peripheral :=
  { own with
    baseAddress := own.baseAddress.or base.baseAddress
    access := own.access.or base.access
    width := own.width.or base.width
    description := own.description.or base.description }

namespace Device

/-- The number of registers declared in the device. -/
def registerCount (d : Device) : Nat :=
  (d.peripherals.flatMap fun p => p.registers.getD []).length

/-- The number of fields declared in the device. -/
def fieldCount (d : Device) : Nat :=
  (d.peripherals.flatMap fun p =>
    (p.registers.getD []).flatMap fun r => r.fields.getD []).length

end Device

end RegisterHeaders.Description
