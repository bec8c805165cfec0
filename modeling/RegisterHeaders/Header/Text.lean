import RegisterHeaders.Header.Declaration
import RegisterHeaders.Options
import RegisterHeaders.Text.Banner

/-!
# The texts of the headers

Both headers of a peripheral are banners followed by guarded C++ declarations. They are made line by
line from what the headers declare.
-/

namespace RegisterHeaders.Header

open Text

/-- A number in hexadecimal, with capital digits. -/
def hexadecimal (n : UInt64) : String :=
  "0x" ++ String.ofList ((Nat.toDigits 16 n.toNat).map Char.toUpper)

/-! ## The enumerations header -/

/-- The line of a constant in its group. -/
def constantLine (c : Group.Constant) : String :=
  "  using " ++ c.name ++ " = BitsField<Reg, offset, size, AccessMode, BaseType, " ++
    c.value.repr ++ "U> ;"

/-- The lines of a marker type. -/
def markerLines (id : String) : List String :=
  ["struct " ++ Group.markerName id ++ " \x7b\x7d ;", ""]

/-- The lines of a group with the given constants. -/
def groupLines (id : String) (constants : List Group.Constant) : List String :=
  markerLines id ++
    ["template <typename Reg, size_t offset, size_t size, typename AccessMode, typename BaseType>",
      "struct " ++ id ++ ": public RegisterField<Reg, offset, size, AccessMode>", "\x7b"] ++
    constants.map constantLine ++ ["\x7d ;", ""]

/-- The lines of a declaration. -/
def Declaration.lines : Declaration → Except Overflow (List String)
  | group id values => return groupLines id (← values.constants)
  | placeholder id => return markerLines id

/-! ## The registers header -/

/-- The line of the alias of a field; `owner` is the qualified name of the register structure. -/
def FieldAlias.line (owner : String) (a : FieldAlias) : String :=
  let range := owner ++ ", " ++ a.bitOffset.toNat.repr ++ ", " ++ a.bitWidth.toNat.repr ++ ", " ++
    a.access.modeType
  if a.enumerated then
    "    using " ++ a.name ++ " = " ++ a.identifier ++ "<" ++ range ++ ", " ++
      Group.markerName a.identifier ++ "> ;"
  else "    using " ++ a.name ++ " = RegisterField<" ++ range ++ "> ;"

/-- The template arguments that describe a register. -/
def RegisterStruct.arguments (r : RegisterStruct) : String :=
  hexadecimal r.address ++ ", " ++ r.width.toNat.repr ++ ", " ++ r.access.modeType

/-- The lines of the structure of a register and of its packed alias; `peripheral` is the name of
the structure around them. -/
def RegisterStruct.lines (peripheral : String) (r : RegisterStruct) : List String :=
  ["  struct " ++ r.name ++ " : public RegisterBase<" ++ r.arguments ++ ">", "  \x7b"] ++
    r.aliases.map (FieldAlias.line (peripheral ++ "::" ++ r.name)) ++
    ["  \x7d ;", "", "  template<typename... T>",
      "  using " ++ r.name ++ "Pack = Register<" ++ r.arguments ++ ", " ++
        Group.markerName r.marker ++ ", T...> ;", ""]

/-- The lines of the structure of a peripheral. -/
def structLines (peripheral : String) (structs : List RegisterStruct) : List String :=
  ["struct " ++ peripheral, "\x7b"] ++ structs.flatMap (RegisterStruct.lines peripheral) ++
    ["\x7d ;", ""]

/-! ## Files -/

/-- The description of a registers header in its banner: that of the peripheral, as a sentence, and
the name of the device. -/
def registersDetails (device : String) (description : Option String) : String :=
  let origin := "This header file is auto-generated for " ++ device ++ " device."
  match description with
  | none => origin
  | some text =>
    let sentence := (text.toList.reverse.dropWhile fun c => c = '.' || c = ' ').reverse
    String.ofList sentence ++ ". " ++ origin

/-- The description of an enumerations header in its banner. -/
def enumerationsDetails (device peripheral : String) : String :=
  "Enumerations related with " ++ peripheral ++
    " peripheral. This header file is auto-generated for " ++ device ++ " device."

/-- The lines of a file: its banner and its content, guarded against a second inclusion. -/
def fileLines (file details : String) (width : Nat) (guard : String) (content : List String) :
    List String :=
  bannerLines file details width ++
    ["", "#if !defined(" ++ guard ++ ")", "#define " ++ guard, ""] ++ content ++
    ["#endif //#if !defined(" ++ guard ++ ")"]

/-- The name of the registers header of a peripheral. -/
def registersFile (peripheral : String) : String :=
  Identifier.fileStem peripheral ++ "registers.hpp"

/-- The name of the enumerations header of a peripheral. -/
def enumerationsFile (peripheral : String) : String :=
  Identifier.fileStem peripheral ++ "bitsfield.hpp"

/-- The symbol that guards a header of a peripheral. -/
def guardName (peripheral ending : String) : String :=
  Unicode.uppercase (Identifier.fileStem peripheral) ++ ending

/-- The text of the registers header of a peripheral. -/
def registersText (options : Options) (device : String) (p : Peripheral)
    (structs : List RegisterStruct) : String :=
  unlines <| fileLines (registersFile p.name) (registersDetails device p.description)
    options.bannerWidth.toNat (guardName p.name "REGISTERS_HPP") <|
      ["#include \"" ++ enumerationsFile p.name ++ "\"  //for Bits Fields defs",
        "#include \"registerbase.hpp\"   //for RegisterBase",
        "#include \"register.hpp\"       //for Register",
        "#include \"accessmode.hpp\"     //for ReadMode, WriteMode, ReadWriteMode", ""] ++
      structLines (Identifier.camelCase p.name) structs

/-- The text of the enumerations header of a peripheral. -/
def enumerationsText (options : Options) (device : String) (p : Peripheral)
    (declared : List Declaration) : Except Overflow String := do
  let declarations ← declared.mapM Declaration.lines
  return unlines <| fileLines (enumerationsFile p.name) (enumerationsDetails device p.name)
    options.bannerWidth.toNat (guardName p.name "ENUMS_HPP") <|
      ["#include \"bitsfield.hpp\"     //for BitsField", ""] ++ declarations.flatten

/-- The two headers of a peripheral: their file names and texts. -/
structure Headers where
  peripheral : String
  registersFile : String
  registers : String
  enumerationsFile : String
  enumerations : String
  deriving Repr, DecidableEq

/-- The headers of a peripheral of the device called `device`, and what is defined after them. -/
def peripheralHeaders (options : Options) (device : String) (registry : Group.Registry)
    (p : Peripheral) : Except Overflow (Headers × Group.Registry) := do
  let (declarations, registry) := declarePeripheral options.narrowFieldMaxWidth registry p
  let enumerations ← enumerationsText options device p declarations.declared
  let headers : Headers := {
    peripheral := p.name
    registersFile := registersFile p.name
    registers := registersText options device p declarations.structs
    enumerationsFile := enumerationsFile p.name
    enumerations }
  return (headers, registry)

end RegisterHeaders.Header
