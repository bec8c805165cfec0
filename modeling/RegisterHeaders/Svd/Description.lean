import RegisterHeaders.Description
import RegisterHeaders.Svd.EnumeratedValues
import RegisterHeaders.Svd.Unroll
import RegisterHeaders.Unicode.WhiteSpace

/-!
# The description in a document

`Document.describe` makes the description of the device of a document, with its arrays unrolled, its
clusters flattened and its references to enumerated values looked up. The references that name
nothing are warnings, one for every single field they are written in.
-/

namespace RegisterHeaders.Svd

/-- The described field of a single field. -/
def SingleField.describe (doc : Document) (f : SingleField) : Description.Field where
  name := f.name
  derivedFrom := f.field.derivedFrom
  access := f.field.access
  bitOffset := some f.bitOffset
  bitWidth := some f.field.bitWidth
  description := f.field.description
  enumeratedValues := doc.enumeratedValues f.field

/-- The described register of a single register. -/
def SingleRegister.describe (doc : Document) (r : SingleRegister) : Description.Register where
  name := r.name
  derivedFrom := r.derivedFrom
  addressOffset := some r.addressOffset
  access := r.access
  width := r.size
  description := r.description
  fields := r.fields.map fun fields => fields.map (·.describe doc)

/-- The described peripheral of a single peripheral. -/
def SinglePeripheral.describe (doc : Document) (p : SinglePeripheral) :
    Description.Peripheral where
  name := p.name
  derivedFrom := p.peripheral.derivedFrom
  baseAddress := some p.baseAddress
  access := p.peripheral.access
  width := p.peripheral.size
  description := p.peripheral.description
  registers := p.registers.map fun registers => registers.map (·.describe doc)

/-- The description of the device, which is unset if it has no text. -/
def Document.deviceDescription (doc : Document) : Option String :=
  (doc.description.map Unicode.trim).filter (· ≠ "")

/-- The references to blocks that name nothing, in the order of the single fields. -/
def Document.unfoundReferences (doc : Document) (peripherals : List SinglePeripheral) :
    List String :=
  peripherals.flatMap fun p =>
    (p.registers.getD []).flatMap fun r =>
      (r.fields.getD []).flatMap fun f => doc.unfound f.field

/-- The warning about a reference to a block that names nothing. -/
def unfoundMessage (reference : String) : String :=
  "enumeratedValues " ++ reference ++ " not found, ignored"

/-- What a document says: a description, and the references to blocks that name nothing. -/
structure Described where
  device : Description.Device
  unfound : List String
  deriving Repr, DecidableEq

/-- The description in a document. -/
def Document.describe (doc : Document) : Except Overflow Described := do
  let peripherals ← doc.unroll
  let device : Description.Device := {
    name := doc.name
    description := doc.deviceDescription
    access := doc.access
    width := doc.size
    peripherals := peripherals.map (·.describe doc) }
  return ⟨device, doc.unfoundReferences peripherals⟩

end RegisterHeaders.Svd
