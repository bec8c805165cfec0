import RegisterHeaders.Group.WidthConflict
import RegisterHeaders.Header.Text

/-!
# Generating the headers of a device

`generate` makes the headers of all peripherals of a device, or of those of one name. The groups of
the run are shared by the peripherals. Width conflicts are warnings, or in strict mode an error.
-/

namespace RegisterHeaders

/-- Why no headers are generated. -/
inductive GenerationError where
  /-- Fields of one group differ in width and the options are strict. -/
  | widthConflict (conflict : Group.WidthConflict)
  /-- The number of constants of a group does not fit. -/
  | overflow (cause : Overflow)
  deriving Repr, DecidableEq

/-- The diagnostic text of an error. -/
def GenerationError.message : GenerationError → String
  | widthConflict conflict => conflict.message
  | overflow cause => cause.message

/-- The headers of a run, in document order, and the warnings it gives. -/
structure Generated where
  headers : List Header.Headers
  warnings : List Group.WidthConflict
  deriving Repr, DecidableEq

/-- Whether two names are equal but for the case of the letters `A` to `Z`. -/
def sameName (a b : String) : Bool :=
  a.toList.map Char.toLower = b.toList.map Char.toLower

/-- The peripherals that a filter selects. -/
def Device.selected (device : Device) (filter : Option String) : List Peripheral :=
  match filter with
  | none => device.peripherals
  | some name => device.peripherals.filter fun p => sameName p.name name

/-- The headers of a list of peripherals of the device called `device`. -/
def headersOf (options : Options) (device : String) (registry : Group.Registry) :
    List Peripheral → Except Overflow (List Header.Headers)
  | [] => return []
  | p :: rest => do
    let (headers, registry) ← Header.peripheralHeaders options device registry p
    return headers :: (← headersOf options device registry rest)

/-- The headers of the peripherals of a device that the filter selects. -/
def generate (device : Device) (options : Options) (filter : Option String) :
    Except GenerationError Generated :=
  let peripherals := device.selected filter
  let conflicts := Group.conflicts options.narrowFieldMaxWidth peripherals
  match options.strictEnumWidths, conflicts with
  | true, conflict :: _ => .error (.widthConflict conflict)
  | _, _ =>
    match headersOf options device.name .empty peripherals with
    | .ok headers => .ok ⟨headers, conflicts⟩
    | .error cause => .error (.overflow cause)

end RegisterHeaders
