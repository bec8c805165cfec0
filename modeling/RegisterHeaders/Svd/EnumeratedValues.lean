import RegisterHeaders.Device
import RegisterHeaders.Svd.Document

/-!
# Enumerated values of a field

A block of enumerated values may name another block of the document, whose values it stands for.
Such a reference ends with the name of the block; what precedes it are names of the elements that
hold the block, as they are written in the document.
-/

namespace RegisterHeaders.Svd

/-- The blocks of the document in document order, each with the names of the peripheral, the
register and the field that hold it. -/
def Document.blocks (doc : Document) : List (List String × Block) :=
  doc.peripherals.flatMap fun p =>
    (allRegistersOf (p.registers.getD [])).flatMap fun r =>
      (r.fields.getD []).flatMap fun f =>
        f.blocks.map fun block => ([p.name, r.name, f.name], block)

/-- The first block that a reference names. -/
def Document.findBlock (doc : Document) (reference : String) : Option Block :=
  let parts := (reference.toList.splitOn '.').map String.ofList
  let owners := parts.dropLast
  (doc.blocks.find? fun (holders, block) =>
    owners.isSuffixOf holders && block.name = parts.getLast?).map (·.2)

/-- The block that a block of a field stands for. -/
def Document.source (doc : Document) (block : Block) : Option Block :=
  match block.derivedFrom with
  | none => some block
  | some reference => doc.findBlock reference

/-- The references in the blocks of a field that name no block. -/
def Document.unfound (doc : Document) (f : Field) : List String :=
  f.blocks.filterMap fun block =>
    block.derivedFrom.filter fun reference => (doc.findBlock reference).isNone

/-- An enumerated value with a number. -/
def EnumeratedValue.literal (v : EnumeratedValue) : Option EnumValue :=
  v.value.map fun value => ⟨v.name, value, v.description⟩

/-- The values with numbers of the blocks of a field. -/
def Document.literals (doc : Document) (f : Field) : List EnumValue :=
  ((f.blocks.filterMap doc.source).flatMap (·.values)).filterMap EnumeratedValue.literal

/-- The enumerated values of a field, `none` if it has no value with a number. -/
def Document.enumeratedValues (doc : Document) (f : Field) : Option (List EnumValue) :=
  match doc.literals f with
  | [] => none
  | values => some values

end RegisterHeaders.Svd
