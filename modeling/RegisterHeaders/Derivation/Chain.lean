import RegisterHeaders.Derivation.Error
import RegisterHeaders.Derivation.Lookup

/-!
# Derivation chains

The bases of an element are the element it derives from, the one that this one derives from, and so
on up to an element without a base. `Links` says how the elements of one kind refer to each other;
`Links.bases` follows the references, and fails where one dangles or leads back to an element that
was visited before.
-/

namespace RegisterHeaders.Derivation

/-- How the elements of one kind refer to each other. -/
structure Links (α : Type) (ι : Type) where
  kind : ElementKind
  /-- Where an element stands; no two elements stand at one place. -/
  place : α → ι
  name : α → String
  reference : α → Option String
  /-- The element that a reference written in the given element points to. -/
  find : α → String → Option α

namespace Links

variable {α ι : Type}

/-- The element that `a` derives from, if it derives from one. -/
def base (links : Links α ι) (a : α) : Except Error (Option α) :=
  match links.reference a with
  | none => .ok none
  | some path =>
    match links.find a path with
    | none => .error (.unresolved links.kind (links.name a) path)
    | some b => .ok (some b)

/-- The error of a derivation that comes back from the end of `trail` to `a`. -/
def circular (links : Links α ι) (trail : List α) (a : α) : Error :=
  .cycle links.kind ((trail ++ [a]).map links.name)

/-- The bases of the element `a` at the end of `trail`, the elements visited so far, where at most
`unvisited` elements of the kind are not on the trail. If there are none, the base is on it. -/
def basesFrom [DecidableEq ι] (links : Links α ι) (unvisited : Nat) (trail : List α) (a : α) :
    Except Error (List α) :=
  match links.base a with
  | .error e => .error e
  | .ok none => .ok []
  | .ok (some b) =>
    if links.place b ∈ trail.map links.place then .error (links.circular trail b)
    else
      match unvisited with
      | 0 => .error (links.circular trail b)
      | n + 1 =>
        match links.basesFrom n (trail ++ [b]) b with
        | .error e => .error e
        | .ok rest => .ok (b :: rest)

/-- The bases of an element, nearest first, where `count` bounds the number of elements. -/
@[macro_inline] def bases [DecidableEq ι] (links : Links α ι) (count : Nat) (a : α) :
    Except Error (List α) :=
  match links.reference a with
  | none => .ok []
  | some _ => links.basesFrom count [a] a

end Links

/-- Peripherals refer to each other by name. -/
def peripheralLinks (d : Description.Device) : Links PeripheralAt Nat where
  kind := .peripheral
  place := PeripheralAt.index
  name p := p.element.name
  reference p := p.element.derivedFrom
  find _ name := findPeripheral d name

/-- Registers refer to each other relative to the list that holds them. -/
def registerLinks (d : Description.Device) : Links RegisterAt (Nat × Nat) where
  kind := .register
  place := RegisterAt.place
  name r := r.element.name
  reference r := r.element.derivedFrom
  find r path := lookupRegister d r.scope path

/-- Fields refer to each other relative to the list that holds them. -/
def fieldLinks (d : Description.Device) : Links FieldAt (Nat × Nat × Nat) where
  kind := .field
  place := FieldAt.place
  name f := f.element.name
  reference f := f.element.derivedFrom
  find f path := lookupField d f.scope path

/-- The attributes of a peripheral, its own or else those of its nearest base that sets them. -/
def flattenPeripheral (d : Description.Device) (p : PeripheralAt) :
    Except Error Description.Peripheral := do
  let bases ← (peripheralLinks d).bases d.peripherals.length p
  return bases.foldl (fun own base => own.inherit base.element) p.element

/-- The attributes of a register, its own or else those of its nearest base that sets them. -/
def flattenRegister (d : Description.Device) (r : RegisterAt) :
    Except Error Description.Register := do
  let bases ← (registerLinks d).bases d.registerCount r
  return bases.foldl (fun own base => own.inherit base.element) r.element

/-- The attributes of a field, its own or else those of its nearest base that sets them. -/
def flattenField (d : Description.Device) (f : FieldAt) : Except Error Description.Field := do
  let bases ← (fieldLinks d).bases d.fieldCount f
  return bases.foldl (fun own base => own.inherit base.element) f.element

end RegisterHeaders.Derivation
