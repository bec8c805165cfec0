import RegisterHeaders.Device
import RegisterHeaders.Identifier
import RegisterHeaders.Overflow

/-!
# Enumeration groups

A group is the set of named constants of a field. Its identifier is made of the letters of the
names of the field, its register and its peripheral; fields with the same identifier share the
group. The constants are the enumerated values of the field, or one per number if the field has none
and is narrow. A group comes with a marker type; a register none of whose fields has a group gets a
placeholder, which is a marker alone.
-/

namespace RegisterHeaders.Group

/-- The identifier of the group of a field. -/
def identifier (peripheral register field : String) : String :=
  Identifier.letters (Identifier.camelCase peripheral ++ Identifier.camelCase register ++
    Identifier.camelCase field ++ "Values")

/-- The identifier of the placeholder of a register. -/
def placeholder (peripheral register : String) : String :=
  Identifier.letters (Identifier.camelCase peripheral ++ Identifier.camelCase register ++ "Values")

/-- The name of the marker type of a group. -/
def markerName (id : String) : String :=
  id ++ "Base"

/-- Where the constants of a group come from. -/
inductive Values where
  /-- The enumerated values of a field. -/
  | explicit (values : List EnumValue)
  /-- The numbers that `width` bits can hold. -/
  | synthesized (width : UInt32)
  deriving Repr, DecidableEq

/-- The greatest width of a field whose constants are synthesized, whatever the options say. -/
def widestSynthesized : UInt32 := 16

/-- A named constant of a group. -/
structure Constant where
  name : String
  value : Nat
  deriving Repr, DecidableEq

/-- The constants of a group. The number of constants of a synthesized group is computed as a 64-bit
word, which fails from 64 bits on. -/
def Values.constants : Values → Except Overflow (List Constant)
  | explicit values => .ok (values.map fun v => ⟨Identifier.camelCase v.name, v.value.toNat⟩)
  | synthesized width =>
    if width.toNat < 64 then
      .ok ((List.range (1 <<< width.toNat)).map fun n => ⟨"Value" ++ n.repr, n⟩)
    else .error .shiftLeft

end RegisterHeaders.Group

namespace RegisterHeaders

/-- The values of the group of a field: the enumerated ones if the field declares any, else the
numbers it can hold if it has at most `maxWidth` bits. A wider field has no group. -/
def Field.groupValues (maxWidth : UInt32) (field : Field) : Option Group.Values :=
  match field.enumeratedValues with
  | some values => some (.explicit values)
  | none =>
    if field.bitWidth ≤ maxWidth ∧ field.bitWidth ≤ Group.widestSynthesized then
      some (.synthesized field.bitWidth)
    else none

theorem Field.groupValues_eq_some_iff {maxWidth : UInt32} {field : Field} {values : Group.Values} :
    field.groupValues maxWidth = some values ↔
      (∃ list, field.enumeratedValues = some list ∧ values = .explicit list) ∨
      (field.enumeratedValues = none ∧
        (field.bitWidth ≤ maxWidth ∧ field.bitWidth ≤ Group.widestSynthesized) ∧
        values = .synthesized field.bitWidth) := by
  rw [groupValues]
  cases field.enumeratedValues with
  | none => simp [eq_comm]
  | some list => simp [eq_comm]

end RegisterHeaders
