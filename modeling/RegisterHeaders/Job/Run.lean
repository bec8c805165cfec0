import RegisterHeaders.FileSystem
import RegisterHeaders.Job.Plan
import RegisterHeaders.Path

/-!
# Running jobs

A run of a job reads the SVD file, makes the plan and carries it out: it creates the directory of
the device and writes the two headers of one peripheral after the other. Registers headers are
always written; enumerations headers may have been edited, so those that exist are kept unless the
options say to overwrite them. What is written before a failure stays.
-/

namespace RegisterHeaders.Job

/-- The directory of the enumerations headers in the directory of a device. -/
def enumerationsDirectory : String :=
  "BitsField"

/-- The paths of the two headers of a peripheral. -/
structure Output where
  registers : String
  enumerations : String
  /-- Whether the enumerations header existed and was not written. -/
  kept : Bool
  deriving Repr, DecidableEq

/-- What a job has written. -/
structure Summary where
  /-- The directory of the device. -/
  directory : String
  outputs : List Output
  deriving Repr, DecidableEq

/-- The registers headers, which are all written. -/
def Summary.registers (summary : Summary) : List String :=
  summary.outputs.map (·.registers)

/-- The enumerations headers that are written. -/
def Summary.enumerations (summary : Summary) : List String :=
  (summary.outputs.filter fun o => !o.kept).map (·.enumerations)

/-- The enumerations headers that existed and are kept. -/
def Summary.kept (summary : Summary) : List String :=
  (summary.outputs.filter (·.kept)).map (·.enumerations)

/-- What a run of a job gives. -/
structure Report where
  warnings : List Warning
  outcome : Except Failure Summary

section

variable {m : Type → Type} [Monad m] [FileSystem m]

/-- Writes the headers of a peripheral to the directory of its device. -/
def writeHeaders (overwrite : Bool) (directory : String) (headers : Header.Headers) :
    m (Except Failure Output) := do
  let registers := Path.join directory headers.registersFile
  let enumerations :=
    Path.join (Path.join directory enumerationsDirectory) headers.enumerationsFile
  if ← FileSystem.writeFile registers headers.registers then
    let kept ← if overwrite then pure false else FileSystem.pathExists enumerations
    if kept then return .ok { registers, enumerations, kept }
    else if ← FileSystem.writeFile enumerations headers.enumerations then
      return .ok { registers, enumerations, kept }
    else return .error (.notWritten enumerations)
  else return .error (.notWritten registers)

/-- Writes the headers of peripherals one after the other. -/
def writeAll (overwrite : Bool) (directory : String) :
    List Header.Headers → m (Except Failure (List Output))
  | [] => return .ok []
  | headers :: rest => do
    match ← writeHeaders overwrite directory headers with
    | .error failure => return .error failure
    | .ok output => return (← writeAll overwrite directory rest).map (output :: ·)

/-- Carries out the plan of a job. -/
def carryOut (job : Job) (plan : Plan) : m (Except Failure Summary) := do
  let directory := Path.join job.output (Identifier.camelCase plan.device)
  let enumerations := Path.join directory enumerationsDirectory
  if ← FileSystem.createDirectories enumerations then
    let outputs ← writeAll job.options.overwriteEnumerations directory plan.headers
    return outputs.map fun outputs => ⟨directory, outputs⟩
  else return .error (.notCreated enumerations)

/-- Runs a job. -/
def run (job : Job) : m Report := do
  match ← FileSystem.readFile? job.document with
  | none => return ⟨[], .error (.unreadable job.document)⟩
  | some text =>
    match job.plan text with
    | (warnings, .error failure) => return ⟨warnings, .error failure⟩
    | (warnings, .ok plan) => return ⟨warnings, ← carryOut job plan⟩

end

end RegisterHeaders.Job
