import RegisterHeaders.Derivation.Resolve
import RegisterHeaders.Generation
import RegisterHeaders.Svd.Description
import RegisterHeaders.Svd.Reader

/-!
# Jobs and their plans

A job asks for the headers of the device in an SVD file. What it will write, its plan, depends on
the text of that file alone: `Job.plan` is decided before any file is created or changed.
-/

namespace RegisterHeaders

/-- A request for the headers of a device. -/
structure Job where
  /-- The path of the SVD file. -/
  document : String
  /-- The path of the directory that the directory of the device is created in. -/
  output : String
  options : Options
  /-- The name of the only peripheral to write headers for. -/
  filter : Option String
  deriving Repr, DecidableEq

namespace Job

/-- What a job warns about. -/
inductive Warning where
  /-- A reference to a block of enumerated values names nothing. -/
  | unfoundValues (reference : String)
  /-- Fields of one group differ in width. -/
  | widthConflict (conflict : Group.WidthConflict)
  deriving Repr, DecidableEq

/-- The diagnostic text of a warning. -/
def Warning.message : Warning → String
  | unfoundValues reference => Svd.unfoundMessage reference
  | widthConflict conflict => conflict.message

/-- Why a job fails. -/
inductive Failure where
  /-- The SVD file cannot be read. -/
  | unreadable (path : String)
  /-- The SVD file is no valid document. -/
  | malformed (path : String)
  /-- The description of the device has no model. -/
  | unresolved (device : String) (cause : Derivation.Error)
  /-- Fields of one group differ in width and the options are strict. -/
  | widthConflict (conflict : Group.WidthConflict)
  /-- The filter selects no peripheral. -/
  | noPeripheral (name device : String)
  /-- A directory cannot be created. -/
  | notCreated (path : String)
  /-- A file cannot be written. -/
  | notWritten (path : String)
  /-- A number does not fit. -/
  | overflow (cause : Overflow)
  deriving Repr, DecidableEq

/-- The diagnostic text of a failure. -/
def Failure.message : Failure → String
  | unreadable path => "Failed to read " ++ path
  | malformed path => "Failed to parse " ++ path
  | unresolved device _ => "Failed to resolve device " ++ device
  | widthConflict conflict => conflict.message
  | noPeripheral name device => "no peripheral named " ++ name ++ " in " ++ device
  | notCreated path => "Failed to create " ++ path
  | notWritten path => "Failed to write " ++ path
  | overflow cause => cause.message

/-- The failure of a job whose SVD file is not read as a document. -/
def Failure.ofRead (path : String) : Svd.ReadError → Failure
  | .malformed => malformed path
  | .overflow cause => overflow cause

/-- The failure of a job whose device is not resolved. -/
def Failure.ofDerivation (device : String) : Derivation.Error → Failure
  | .overflow cause => overflow cause
  | cause => unresolved device cause

/-- The failure of a job for whose device no headers are generated. -/
def Failure.ofGeneration : GenerationError → Failure
  | .widthConflict conflict => widthConflict conflict
  | .overflow cause => overflow cause

/-- What a job writes: the headers of the device of the given name. -/
structure Plan where
  device : String
  headers : List Header.Headers
  deriving Repr, DecidableEq

/-- The plan for the device of a description. Fails if the filter selects none of its
peripherals. -/
def planFor (job : Job) (described : Svd.Described) : List Warning × Except Failure Plan :=
  let unfound := described.unfound.map Warning.unfoundValues
  match Derivation.resolve described.device with
  | .error cause => (unfound, .error (.ofDerivation described.device.name cause))
  | .ok device =>
    match generate device job.options job.filter with
    | .error cause => (unfound, .error (.ofGeneration cause))
    | .ok generated =>
      let warnings := unfound ++ generated.warnings.map Warning.widthConflict
      match job.filter, generated.headers with
      | some name, [] => (warnings, .error (.noPeripheral name device.name))
      | _, headers => (warnings, .ok ⟨device.name, headers⟩)

/-- The plan of a job whose SVD file has the given text, and the warnings given on the way. -/
def plan (job : Job) (text : String) : List Warning × Except Failure Plan :=
  match Svd.Document.read text with
  | .error cause => ([], .error (.ofRead job.document cause))
  | .ok document =>
    match document.describe with
    | .error cause => ([], .error (.overflow cause))
    | .ok described => job.planFor described

end Job

end RegisterHeaders
