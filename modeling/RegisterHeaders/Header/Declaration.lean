import RegisterHeaders.Group.Basic
import RegisterHeaders.Group.Registry

/-!
# What the headers of a peripheral declare

The registers header declares one structure per register, with an alias per field, and a packed
alias of the register that accepts the marker of one group. The enumerations header defines the
groups and placeholders that these need and that no earlier peripheral of the run has defined.
`declarePeripheral` lists both; the texts are made from the lists.

Fields request their groups in document order. The marker of a register is chosen after its fields
have made their requests: it is that of the first field whose group is defined by then, be it the
field's own or one that another register of the same letters has defined, or else a placeholder.
-/

namespace RegisterHeaders.Header

/-- The alias of a field in the structure of its register. -/
structure FieldAlias where
  name : String
  bitOffset : UInt32
  bitWidth : UInt32
  access : Access
  /-- The identifier that the names of the field make. -/
  identifier : String
  /-- Whether the field has the group of that identifier, or is a bare range of bits. -/
  enumerated : Bool
  deriving Repr, DecidableEq

/-- The structure of a register and its packed alias. -/
structure RegisterStruct where
  name : String
  address : UInt64
  width : UInt32
  access : Access
  aliases : List FieldAlias
  /-- The identifier of the group whose marker the packed alias accepts. -/
  marker : String
  deriving Repr, DecidableEq

/-- A declaration of an enumerations header. -/
inductive Declaration where
  /-- The marker of a group and its constants. -/
  | group (id : String) (values : Group.Values)
  /-- The marker of a placeholder. -/
  | placeholder (id : String)
  deriving Repr, DecidableEq

/-- The identifier that a declaration defines. -/
def Declaration.id : Declaration → String
  | group id _ => id
  | placeholder id => id

/-- What a run has defined so far, and what of it the current peripheral declares. -/
structure State where
  registry : Group.Registry
  declared : List Declaration

/-- Declares what `declaration` defines unless it is defined already. -/
def State.request (s : State) (declaration : Declaration) : State :=
  match s.registry.materialize declaration.id with
  | (.define, registry) => ⟨registry, s.declared ++ [declaration]⟩
  | (.referenceOnly, registry) => ⟨registry, s.declared⟩

/-- The name of the alias of a field. An alias must not have the name of the structure around it. -/
def aliasName (register field : String) : String :=
  let name := Identifier.camelCase field
  if name = Identifier.camelCase register then name ++ "Field" else name

/-- The alias of a field. -/
def fieldAlias (maxWidth : UInt32) (peripheral : String) (register : Register) (field : Field) :
    FieldAlias where
  name := aliasName register.name field.name
  bitOffset := field.bitOffset
  bitWidth := field.bitWidth
  access := field.access
  identifier := Group.identifier peripheral register.name field.name
  enumerated := (field.groupValues maxWidth).isSome

/-- Requests the group of a field, if it has one. -/
def requestGroup (maxWidth : UInt32) (peripheral : String) (register : Register) (s : State)
    (field : Field) : State :=
  match field.groupValues maxWidth with
  | some values => s.request (.group (Group.identifier peripheral register.name field.name) values)
  | none => s

/-- The group of the first field that has one, or whose names make the identifier of one. -/
def knownGroup (registry : Group.Registry) (aliases : List FieldAlias) : Option String :=
  (aliases.find? fun a => a.enumerated || registry.contains a.identifier).map (·.identifier)

/-- The structure of a register and what is declared after it. -/
def declareRegister (maxWidth : UInt32) (peripheral : String) (s : State) (register : Register) :
    RegisterStruct × State :=
  let aliases := register.fields.map (fieldAlias maxWidth peripheral register)
  let s := register.fields.foldl (requestGroup maxWidth peripheral register) s
  let placeholder := Group.placeholder peripheral register.name
  let marker := knownGroup s.registry aliases
  let struct : RegisterStruct := {
    name := Identifier.camelCase register.name
    address := register.address
    width := register.width
    access := register.access
    aliases
    marker := marker.getD placeholder }
  (struct, if marker.isSome then s else s.request (.placeholder placeholder))

/-- The structures of a list of registers and what is declared after them. -/
def declareRegisters (maxWidth : UInt32) (peripheral : String) (s : State) :
    List Register → List RegisterStruct × State
  | [] => ([], s)
  | register :: rest =>
    let (struct, s) := declareRegister maxWidth peripheral s register
    let (structs, s) := declareRegisters maxWidth peripheral s rest
    (struct :: structs, s)

/-- What the headers of one peripheral declare. -/
structure PeripheralDeclarations where
  structs : List RegisterStruct
  declared : List Declaration
  deriving Repr, DecidableEq

/-- What the headers of a peripheral declare, and what is defined after it. -/
def declarePeripheral (maxWidth : UInt32) (registry : Group.Registry) (peripheral : Peripheral) :
    PeripheralDeclarations × Group.Registry :=
  let (structs, s) := declareRegisters maxWidth peripheral.name ⟨registry, []⟩ peripheral.registers
  (⟨structs, s.declared⟩, s.registry)

end RegisterHeaders.Header
