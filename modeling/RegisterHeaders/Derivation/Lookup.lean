import RegisterHeaders.Description

/-!
# References between elements

Where a reference points. An element is known by its place in the description, so two elements of
one name stay apart: a peripheral by its position, a register by the peripheral whose list holds it
and its position there, a field likewise. A reference is relative to the list that holds the element
it is written in.

A list that an element does not have is found along its derivation. The walks that look for it
take a bounded number of steps; a derivation that runs in a circle has no list.
-/

namespace RegisterHeaders.Derivation

/-! ## Elements and their places -/

/-- A peripheral at its place in the device. -/
structure PeripheralAt where
  index : Nat
  element : Description.Peripheral
  deriving Repr, DecidableEq

/-- The register list declared by the peripheral at position `peripheral`. -/
structure RegisterScope where
  peripheral : Nat
  registers : List Description.Register
  deriving Repr, DecidableEq

/-- A register at its place in a register list. -/
structure RegisterAt where
  scope : RegisterScope
  index : Nat
  element : Description.Register
  deriving Repr, DecidableEq

/-- The field list declared by the register at position `register` of a register list. -/
structure FieldScope where
  registers : RegisterScope
  register : Nat
  fields : List Description.Field
  deriving Repr, DecidableEq

/-- A field at its place in a field list. -/
structure FieldAt where
  scope : FieldScope
  index : Nat
  element : Description.Field
  deriving Repr, DecidableEq

/-- The place of a register: the peripheral that declares it and its position there. -/
def RegisterAt.place (r : RegisterAt) : Nat × Nat :=
  (r.scope.peripheral, r.index)

/-- The place of a field: the place of the register that declares it and its position there. -/
def FieldAt.place (f : FieldAt) : Nat × Nat × Nat :=
  (f.scope.registers.peripheral, f.scope.register, f.index)

/-- The peripherals of a device at their places. -/
def placedPeripherals (d : Description.Device) : List PeripheralAt :=
  d.peripherals.zipIdx.map fun (p, i) => ⟨i, p⟩

/-- The registers of a list at their places. -/
def RegisterScope.placed (scope : RegisterScope) : List RegisterAt :=
  scope.registers.zipIdx.map fun (r, i) => ⟨scope, i, r⟩

/-- The fields of a list at their places. -/
def FieldScope.placed (scope : FieldScope) : List FieldAt :=
  scope.fields.zipIdx.map fun (f, i) => ⟨scope, i, f⟩

/-! ## Paths -/

/-- The parts of a path before and after its first dot. -/
def splitFirst (path : String) : Option (String × String) :=
  match path.toList.span (· ≠ '.') with
  | (_, []) => none
  | (owner, _ :: rest) => some (String.ofList owner, String.ofList rest)

/-- The parts of a path before and after its last dot. -/
def splitLast (path : String) : Option (String × String) :=
  match path.toList.reverse.span (· ≠ '.') with
  | (_, []) => none
  | (last, _ :: owner) => some (String.ofList owner.reverse, String.ofList last.reverse)

/-- The name of a register in a register list where its clusters are part of its name. -/
def flatName (path : String) : String :=
  String.ofList (path.toList.map fun c => if c = '.' then '_' else c)

/-! ## Lookup -/

/-- The first peripheral of the given name. -/
def findPeripheral (d : Description.Device) (name : String) : Option PeripheralAt :=
  (placedPeripherals d).find? (·.element.name = name)

/-- The first register of the given name in a register list. -/
def findRegister (scope : RegisterScope) (name : String) : Option RegisterAt :=
  scope.placed.find? (·.element.name = name)

/-- The first field of the given name in a field list. -/
def findField (scope : FieldScope) (name : String) : Option FieldAt :=
  scope.placed.find? (·.element.name = name)

/-- The register list of the first peripheral that has one among `p` and the next `steps - 1`
peripherals it derives from. -/
def registerListWithin (d : Description.Device) : Nat → PeripheralAt → Option RegisterScope
  | 0, _ => none
  | steps + 1, p =>
    match p.element.registers with
    | some registers => some ⟨p.index, registers⟩
    | none => do
      let name ← p.element.derivedFrom
      let base ← findPeripheral d name
      registerListWithin d steps base

/-- The register list of a peripheral, its own or else the one it derives. -/
def registerList (d : Description.Device) (p : PeripheralAt) : Option RegisterScope :=
  registerListWithin d (d.peripherals.length + 1) p

/-- The register that `path` refers to in a register list. What precedes the first dot of the path
is a peripheral, if there is one of that name, and the rest is a register of that peripheral;
otherwise the path is a register of the list itself. Other dots separate clusters. -/
def lookupRegister (d : Description.Device) (scope : RegisterScope) (path : String) :
    Option RegisterAt :=
  match splitFirst path with
  | none => findRegister scope (flatName path)
  | some (owner, rest) =>
    match findPeripheral d owner with
    | none => findRegister scope (flatName path)
    | some p => do
      let registers ← registerList d p
      findRegister registers (flatName rest)

/-- The field list of the first register that has one among `r` and the next `steps - 1` registers
it derives from. -/
def fieldListWithin (d : Description.Device) : Nat → RegisterAt → Option FieldScope
  | 0, _ => none
  | steps + 1, r =>
    match r.element.fields with
    | some fields => some ⟨r.scope, r.index, fields⟩
    | none => do
      let path ← r.element.derivedFrom
      let base ← lookupRegister d r.scope path
      fieldListWithin d steps base

/-- The field list of a register, its own or else the one it derives. -/
def fieldList (d : Description.Device) (r : RegisterAt) : Option FieldScope :=
  fieldListWithin d (d.registerCount + 1) r

/-- The field that `path` refers to in a field list: what precedes the last dot of the path is a
register, if there is a dot, and the rest is a field. -/
def lookupField (d : Description.Device) (scope : FieldScope) (path : String) : Option FieldAt :=
  match splitLast path with
  | none => findField scope path
  | some (owner, name) => do
    let r ← lookupRegister d scope.registers owner
    let fields ← fieldList d r
    findField fields name

end RegisterHeaders.Derivation
