/-!
# Command line arguments

The arguments of the program are an input file and options, in any order. An option is written long
(`--peripheral X`, `--peripheral=X`) or short (`-p X`, `-pX`, `-p=X`); short options may share one
dash, and `--` ends the options. The arguments are read from left to right, and the first that is
wrong, or asks for help, decides.
-/

namespace RegisterHeaders.CommandLine

/-! ## Options -/

/-- The options that are on or off. -/
inductive Flag where
  | overwrite
  | strict
  | verbose
  deriving Repr, DecidableEq

/-- The options that have a value. -/
inductive Setting where
  | peripheral
  | outputDirectory
  | optionsFile
  deriving Repr, DecidableEq

/-- The options of the program. -/
inductive CommandOption where
  | flag (flag : Flag)
  | setting (setting : Setting)
  | help
  | version
  deriving Repr, DecidableEq

/-- The option of a long name. -/
def CommandOption.ofName? : String → Option CommandOption
  | "overwrite" => some (.flag .overwrite)
  | "strict" => some (.flag .strict)
  | "verbose" => some (.flag .verbose)
  | "peripheral" => some (.setting .peripheral)
  | "output-dir" => some (.setting .outputDirectory)
  | "config" => some (.setting .optionsFile)
  | "help" => some .help
  | "version" => some .version
  | _ => none

/-- The option of a letter. -/
def CommandOption.ofLetter? : Char → Option CommandOption
  | 'o' => some (.flag .overwrite)
  | 'v' => some (.flag .verbose)
  | 'p' => some (.setting .peripheral)
  | 'h' => some .help
  | 'V' => some .version
  | _ => none

/-- The long name of an option. -/
def CommandOption.name : CommandOption → String
  | .flag .overwrite => "overwrite"
  | .flag .strict => "strict"
  | .flag .verbose => "verbose"
  | .setting .peripheral => "peripheral"
  | .setting .outputDirectory => "output-dir"
  | .setting .optionsFile => "config"
  | .help => "help"
  | .version => "version"

theorem CommandOption.ofName?_name (o : CommandOption) : ofName? o.name = some o := by
  rcases o with f | s | _ | _
  · cases f <;> rfl
  · cases s <;> rfl
  · rfl
  · rfl

/-! ## Bad usage -/

/-- What is wrong with the arguments. -/
inductive UsageError where
  /-- There is no option of this name. -/
  | unknownOption (name : String)
  /-- A setting has no value. -/
  | missingValue (setting : Setting)
  /-- A flag has a value. -/
  | unexpectedValue (option : CommandOption)
  /-- An option is given twice. -/
  | repeated (option : CommandOption)
  /-- The path of a setting is empty. -/
  | emptyValue (setting : Setting)
  /-- The path of the input is empty. -/
  | emptyInput
  /-- There is a second input. -/
  | extraInput (path : String)
  /-- There is no input. -/
  | missingInput
  deriving Repr, DecidableEq

/-- The diagnostic text of bad usage. -/
def UsageError.message : UsageError → String
  | unknownOption name => "unexpected argument " ++ name
  | missingValue setting => "--" ++ (CommandOption.setting setting).name ++ " needs a value"
  | unexpectedValue option => "--" ++ option.name ++ " takes no value"
  | repeated option => "--" ++ option.name ++ " cannot be given twice"
  | emptyValue setting => "the value of --" ++ (CommandOption.setting setting).name ++ " is empty"
  | emptyInput => "the input file has no name"
  | extraInput path => "unexpected argument " ++ path
  | missingInput => "no input file is given"

/-- Why the arguments name no job. -/
inductive Stop where
  | help
  | version
  | badUsage (error : UsageError)
  deriving Repr, DecidableEq

/-! ## Reading arguments -/

/-- What the arguments read so far give. -/
structure Given where
  input : Option String := none
  settings : List (Setting × String) := []
  flags : List Flag := []
  /-- The setting whose value the next argument is. -/
  pending : Option Setting := none
  /-- Whether the options have ended. -/
  ended : Bool := false
  deriving Repr, DecidableEq

namespace Given

/-- Takes an argument for the input. -/
def addInput (given : Given) (path : String) : Except Stop Given :=
  if given.input.isSome then .error (.badUsage (.extraInput path))
  else if path = "" then .error (.badUsage .emptyInput)
  else .ok { given with input := some path }

/-- Takes the value of a setting. Only the name of a peripheral may be empty. -/
def addSetting (given : Given) (setting : Setting) (value : String) : Except Stop Given :=
  if value = "" ∧ setting ≠ .peripheral then .error (.badUsage (.emptyValue setting))
  else if setting ∈ given.settings.map Prod.fst then
    .error (.badUsage (.repeated (.setting setting)))
  else .ok { given with settings := given.settings ++ [(setting, value)], pending := none }

/-- Takes an option that has no value attached. -/
def addOption (given : Given) : CommandOption → Except Stop Given
  | .flag flag =>
    if flag ∈ given.flags then .error (.badUsage (.repeated (.flag flag)))
    else .ok { given with flags := given.flags ++ [flag] }
  | .setting setting => .ok { given with pending := some setting }
  | .help => .error .help
  | .version => .error .version

/-- Takes a long option, written without its dashes. -/
def addLong (given : Given) (written : List Char) : Except Stop Given :=
  let name := String.ofList (written.takeWhile (· ≠ '='))
  match CommandOption.ofName? name, written.dropWhile (· ≠ '=') with
  | none, _ => .error (.badUsage (.unknownOption ("--" ++ name)))
  | some option, [] => given.addOption option
  | some (.setting setting), _ :: value => given.addSetting setting (String.ofList value)
  | some option, _ :: _ => .error (.badUsage (.unexpectedValue option))

/-- Takes the letters of short options that share a dash. What follows the letter of a setting is
its value, which an equals sign may precede. -/
def addLetters (given : Given) : List Char → Except Stop Given
  | [] => .ok given
  | letter :: rest =>
    match CommandOption.ofLetter? letter, rest with
    | none, _ => .error (.badUsage (.unknownOption ("-" ++ letter.toString)))
    | some (.setting setting), '=' :: value => given.addSetting setting (String.ofList value)
    | some (.setting setting), c :: value => given.addSetting setting (String.ofList (c :: value))
    | some option, rest => do (← given.addOption option).addLetters rest

/-- Fails if the value of a setting is still to come. -/
def checkComplete (given : Given) : Except Stop Given :=
  match given.pending with
  | some setting => .error (.badUsage (.missingValue setting))
  | none => .ok given

/-- Takes the next argument. A single dash is no option. -/
def add (given : Given) (argument : String) : Except Stop Given :=
  if given.ended then given.addInput argument
  else
    match argument.toList with
    | ['-', '-'] => return { (← given.checkComplete) with ended := true }
    | '-' :: '-' :: written => do (← given.checkComplete).addLong written
    | '-' :: c :: letters => do (← given.checkComplete).addLetters (c :: letters)
    | _ =>
      match given.pending with
      | some setting => given.addSetting setting argument
      | none => given.addInput argument

/-- The value of a setting. -/
def setting? (given : Given) (setting : Setting) : Option String :=
  given.settings.lookup setting

end Given

/-! ## Invocations -/

/-- What the program is asked to do. -/
structure Invocation where
  /-- The path of the SVD file. -/
  input : String
  peripheral : Option String
  outputDirectory : String
  /-- The path of the file with options. -/
  optionsFile : Option String
  flags : List Flag
  deriving Repr, DecidableEq

/-- The invocation that arguments spell. The output directory is the working directory unless it is
given. -/
def Invocation.ofArguments (arguments : List String) : Except Stop Invocation := do
  let given ← (← arguments.foldlM Given.add {}).checkComplete
  match given.input with
  | none => .error (.badUsage .missingInput)
  | some input =>
    return {
      input
      peripheral := given.setting? .peripheral
      outputDirectory := (given.setting? .outputDirectory).getD "."
      optionsFile := given.setting? .optionsFile
      flags := given.flags }

end RegisterHeaders.CommandLine
