import RegisterHeaders.Derivation.Chain

/-!
# Resolving a description

`resolve` turns a description into the model it means. An attribute of an element is its own or that
of its nearest base which sets it; access and width that no base sets are those of the resolved
element around it, or read-write behaviour and 32 bits for the device. The lists of registers and
fields are the element's own or those of its nearest base that has one, and they keep the place
where they are declared: references in them are relative to it.
-/

namespace RegisterHeaders.Derivation

/-- The width of the registers of a device that does not give one. -/
def defaultWidth : UInt32 := 32

/-- The value of an attribute that the element called `name` must have. -/
def require {α : Type} (kind : ElementKind) (name : String) (lacking : Attribute) :
    Option α → Except Error α
  | some value => .ok value
  | none => .error (.missing kind name lacking)

/-- The model of a field in a register of the given access. -/
def resolveField (d : Description.Device) (access : Access) (f : FieldAt) :
    Except Error Field := do
  let merged ← flattenField d f
  let bitOffset ← require .field f.element.name .bitOffset merged.bitOffset
  let bitWidth ← require .field f.element.name .bitWidth merged.bitWidth
  return {
    name := f.element.name
    access := merged.access.getD access
    bitOffset
    bitWidth
    description := merged.description
    enumeratedValues := merged.enumeratedValues }

/-- The address of a register at the given offset. -/
def registerAddress (baseAddress offset : UInt64) : Except Error UInt64 :=
  (Checked.addAddress baseAddress offset).mapError .overflow

/-- The model of a register in a peripheral of the given base address, access and width. -/
def resolveRegister (d : Description.Device) (baseAddress : UInt64) (access : Access)
    (width : UInt32) (r : RegisterAt) : Except Error Register := do
  let merged ← flattenRegister d r
  let offset ← require .register r.element.name .addressOffset merged.addressOffset
  let address ← registerAddress baseAddress offset
  let access := merged.access.getD access
  let fields := (fieldList d r).elim [] FieldScope.placed
  let fields ← fields.mapM (resolveField d access)
  return {
    name := r.element.name
    address
    offset
    access
    width := merged.width.getD width
    description := merged.description
    fields }

/-- The model of a peripheral in a device of the given access and width. -/
def resolvePeripheral (d : Description.Device) (access : Access) (width : UInt32)
    (p : PeripheralAt) : Except Error Peripheral := do
  let merged ← flattenPeripheral d p
  let baseAddress ← require .peripheral p.element.name .baseAddress merged.baseAddress
  let access := merged.access.getD access
  let width := merged.width.getD width
  let registers := (registerList d p).elim [] RegisterScope.placed
  let registers ← registers.mapM (resolveRegister d baseAddress access width)
  return {
    name := p.element.name
    baseAddress
    access
    width
    description := merged.description
    registers }

/-- The model of a device. The first error in document order is the outcome if there is one. -/
def resolve (d : Description.Device) : Except Error Device := do
  let access := d.access.getD .unspecified
  let width := d.width.getD defaultWidth
  let peripherals ← (placedPeripherals d).mapM (resolvePeripheral d access width)
  return { name := d.name, description := d.description, access, width, peripherals }

end RegisterHeaders.Derivation
