import RegisterHeaders.CommandLine.Arguments
import RegisterHeaders.Job.Run
import RegisterHeaders.OptionsFile

/-!
# The program

The program reads its arguments, then the options, and runs the job that they describe. Its exit
code tells success, a failure and bad usage apart.
-/

namespace RegisterHeaders.CommandLine

/-- How a run of the program ends. -/
inductive Outcome where
  /-- The arguments name no job. -/
  | stopped (reason : Stop)
  /-- The options cannot be read from their file. -/
  | badOptions (path : String)
  /-- The job has been run. -/
  | ran (invocation : Invocation) (report : Job.Report)

/-- The exit code of the program. -/
def Outcome.exitCode : Outcome → UInt32
  | stopped (.badUsage _) => 2
  | stopped _ => 0
  | badOptions _ => 1
  | ran _ report =>
    match report.outcome with
    | .ok _ => 0
    | .error (.overflow _) => 101
    | .error _ => 1

/-- The diagnostic text about a file without valid options. -/
def badOptionsMessage (path : String) : String :=
  "Failed to load config " ++ path

/-- The diagnostic text of a failure. -/
def Outcome.diagnostic? : Outcome → Option String
  | stopped _ => none
  | badOptions path => some (badOptionsMessage path)
  | ran _ report =>
    match report.outcome with
    | .ok _ => none
    | .error (.overflow _) => none
    | .error failure => some failure.message

/-- The first line of the diagnostic text. -/
def Outcome.headline? (outcome : Outcome) : Option String :=
  outcome.diagnostic?.map fun text => String.ofList (text.toList.takeWhile (· ≠ '\n'))

/-- The job of an invocation. Its flags turn options on, never off. -/
def Invocation.job (invocation : Invocation) (options : Options) : Job where
  document := invocation.input
  output := invocation.outputDirectory
  options := { options with
    overwriteEnumerations := options.overwriteEnumerations || .overwrite ∈ invocation.flags
    strictEnumWidths := options.strictEnumWidths || .strict ∈ invocation.flags }
  filter := invocation.peripheral

section

variable {m : Type → Type} [Monad m] [FileSystem m]

/-- The options in a file, or the defaults if there is none; fails with the path of the file. -/
def loadOptions : Option String → m (Except String Options)
  | none => return .ok {}
  | some path => do
    match (← FileSystem.readFile? path).bind OptionsFile.parse? with
    | some options => return .ok options
    | none => return .error path

/-- Runs the program. -/
def run (arguments : List String) : m Outcome := do
  match Invocation.ofArguments arguments with
  | .error reason => return .stopped reason
  | .ok invocation =>
    match ← loadOptions invocation.optionsFile with
    | .error path => return .badOptions path
    | .ok options => return .ran invocation (← (invocation.job options).run)

end

end RegisterHeaders.CommandLine
