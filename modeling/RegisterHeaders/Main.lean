import RegisterHeaders.CommandLine.Outcome

/-!
# The command line

Runs the program on the files of the machine and prints what happened.
-/

namespace RegisterHeaders

instance : FileSystem IO where
  readFile? path := do
    try return some (← IO.FS.readFile path) catch _ => return none
  pathExists path := do
    try
      let _ ← IO.FS.Handle.mk path .read
      return true
    catch _ => return false
  createDirectories path := do
    try
      IO.FS.createDirAll path
      return true
    catch _ => return false
  writeFile path text := do
    try
      IO.FS.writeFile path text
      return true
    catch _ => return false

namespace CommandLine

/-- The first line of the help. -/
def usage : String :=
  "Usage: registerheaders [OPTIONS] <INPUT>"

/-- What the program prints if it is asked for help. -/
def helpText : String :=
  String.intercalate "\n" [
    "Generate C++ register and bit-field headers from SVD files",
    "",
    usage,
    "",
    "Arguments:",
    "  <INPUT>  Input SVD file",
    "",
    "Options:",
    "  -p, --peripheral <PERIPHERAL>  Generate code only for the specified peripheral",
    "  -o, --overwrite                Overwrite existing enumerations header files",
    "      --output-dir <OUTPUT_DIR>  Directory receiving the device directory [default: .]",
    "      --config <CONFIG>          YAML file with generator options",
    "      --strict                   Fail when fields sharing an enumeration differ in width",
    "  -v, --verbose                  Print the paths of the headers",
    "  -h, --help                     Print help",
    "  -V, --version                  Print version"]

/-- Prints what a job has written. -/
def printSummary (verbose : Bool) (summary : Job.Summary) : IO Unit := do
  if verbose then
    for path in summary.registers ++ summary.enumerations do
      IO.eprintln ("INFO " ++ path ++ " written")
    for path in summary.kept do
      IO.eprintln ("INFO " ++ path ++ " exists, kept")
  IO.eprintln ("INFO " ++ summary.registers.length.repr ++ " register headers, " ++
    summary.enumerations.length.repr ++ " enumeration headers written to " ++ summary.directory)

/-- Prints why a job has failed. -/
def printFailure (failure : Job.Failure) : IO Unit := do
  IO.eprintln ("Error: " ++ failure.message)
  match failure with
  | .unresolved _ cause => IO.eprintln ("\nCaused by:\n    " ++ cause.message)
  | _ => return

/-- Prints how the program has ended. -/
def printOutcome : Outcome → IO Unit
  | .stopped .help => IO.println helpText
  | .stopped .version => IO.println "registerheaders 0.1.0"
  | .stopped (.badUsage error) =>
    IO.eprintln ("error: " ++ error.message ++ "\n\n" ++ usage)
  | .badOptions path => IO.eprintln ("Error: " ++ badOptionsMessage path)
  | .ran invocation report => do
    for warning in report.warnings do
      IO.eprintln ("WARN " ++ warning.message)
    match report.outcome with
    | .ok summary => printSummary (.verbose ∈ invocation.flags) summary
    | .error failure => printFailure failure

end CommandLine

end RegisterHeaders

def main (arguments : List String) : IO UInt32 := do
  let outcome ← RegisterHeaders.CommandLine.run (m := IO) arguments
  RegisterHeaders.CommandLine.printOutcome outcome
  return outcome.exitCode
