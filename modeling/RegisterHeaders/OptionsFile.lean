import RegisterHeaders.Options
import RegisterHeaders.Yaml.Node

/-!
# Options files

Options can be written as a YAML mapping. Options that are not written have their defaults, and keys
that name no option are passed over, with their values; no option may be written twice. Keys and
the values of options may be aliases.
-/

namespace RegisterHeaders.OptionsFile

open Yaml (Node Style)

/-! ## Values -/

/-- The text of a scalar that is not quoted: a plain scalar, or a literal block with the given
tag. -/
def plainText? (tag : String) : Node → Option String
  | .scalar _ .plain text => some text
  | .scalar t .literal text => if t = some ("tag:yaml.org,2002:" ++ tag) then some text else none
  | _ => none

/-- The number that digits of the given base stand for. -/
def digits? (base : Nat) (digits : List Char) : Option Nat :=
  Xml.number? base digits

/-- The number that a text stands for: decimal without leading zeros, hexadecimal, octal or binary,
after an optional plus sign. -/
def numberOfText? (text : String) : Option Nat :=
  let unsigned := match text.toList with
    | '+' :: rest => rest
    | rest => rest
  match unsigned with
  | '0' :: 'x' :: digits => digits? 16 digits
  | '0' :: 'o' :: digits => digits? 8 digits
  | '0' :: 'b' :: digits => digits? 2 digits
  | ['0'] => some 0
  | '0' :: _ => none
  | digits => digits? 10 digits

/-- The number in a node, which must be less than `bound`. -/
def number? (bound : Nat) (node : Node) : Option Nat :=
  ((plainText? "int" node).bind numberOfText?).filter (· < bound)

/-- The truth value in a node. -/
def truth? (node : Node) : Option Bool :=
  match plainText? "bool" node with
  | some "true" | some "True" | some "TRUE" => some true
  | some "false" | some "False" | some "FALSE" => some false
  | _ => none

/-! ## Mappings -/

/-- The text of a key. -/
def keyText? : Node → Option String
  | .scalar _ _ text => some text
  | _ => none

/-- The value of an option in a list of entries, or its default; fails if there are several. -/
def option? {α : Type} (entries : List (String × Node)) (key : String) (read : Node → Option α)
    (default : α) : Option α :=
  match entries.filter (·.1 = key) with
  | [] => some default
  | [(_, node)] => read node
  | _ => none

/-- The options that a list of entries gives. -/
def ofEntries? (entries : List (String × Node)) : Option Options := do
  let defaults : Options := {}
  return {
    narrowFieldMaxWidth := ← option? entries "narrow_field_max_width"
      (fun n => (number? UInt32.size n).map Nat.toUInt32) defaults.narrowFieldMaxWidth
    bannerWidth := ← option? entries "banner_width"
      (fun n => (number? UInt64.size n).map Nat.toUInt64) defaults.bannerWidth
    strictEnumWidths := ← option? entries "strict_enum_widths" truth? defaults.strictEnumWidths
    overwriteEnumerations := ← option? entries "overwrite_enumerations" truth?
      defaults.overwriteEnumerations }

/-- The options in a text, if it is YAML and holds a mapping or nothing. -/
def parse? (text : String) : Option Options := do
  match ← Yaml.document? text with
  | none => return {}
  | some d =>
    match d.root with
    | .scalar _ .plain "" => return {}
    | .mapping entries =>
      ofEntries? <| ← entries.mapM fun (key, value) =>
        (keyText? (d.follow key)).map fun key => (key, d.follow value)
    | _ => none

end RegisterHeaders.OptionsFile
