import RegisterHeaders.Unicode.Alphabetic
import RegisterHeaders.Unicode.Lowercase

/-!
# Identifiers

The names of a device description become names of generated types and files: `camelCase` for types
and aliases, `letters` for what identifies an enumeration group, `fileStem` for files.
-/

namespace RegisterHeaders.Identifier

/-- Title-cases the runs of letters and drops the underscores; `inWord` tells whether the
characters follow a letter. -/
def camelChars (inWord : Bool) : List Char → List Char
  | [] => []
  | c :: rest =>
    if Unicode.isAlphabetic c then
      (if inWord then Unicode.lower c else Unicode.upper c) ++ camelChars true rest
    else if c = '_' then camelChars false rest
    else c :: camelChars false rest

/-- The name with every run of letters title-cased and without underscores: `TIMER_EX` becomes
`TimerEx` and `I2C1` stays as it is. -/
def camelCase (name : String) : String :=
  String.ofList (camelChars false name.toList)

/-- The letters and underscores of a name. Names that differ only in digits and punctuation have
the same letters. -/
def letters (name : String) : String :=
  String.ofList (name.toList.filter fun c => Unicode.isAlphabetic c || c = '_')

/-- What the names of the files of a peripheral begin with: its name in lower case, without
underscores. -/
def fileStem (name : String) : String :=
  String.ofList ((Unicode.lowercase name).toList.filter (· ≠ '_'))

end RegisterHeaders.Identifier
