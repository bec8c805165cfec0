import RegisterHeaders.Svd.Content

/-!
# Validity of SVD elements

Headers do not depend on the processor, the address blocks and interrupts of a peripheral, or on the
effects of reading and writing. A document is malformed all the same if one of these elements is
there and is not valid.
-/

namespace RegisterHeaders.Svd

open Xml (Node)

/-- Checks who may access the registers in an element. -/
def checkProtection (node : Node) : Read Unit := do
  let _ ← optional (checkWord ["s", "n", "p"]) node "protection"

/-- The features that a processor may be said to have or not. -/
def cpuFeatures : List String :=
  ["fpuDP", "dspPresent", "icachePresent", "dcachePresent", "itcmPresent", "dtcmPresent",
    "vtorPresent"]

/-- Checks the processor of a device. -/
def checkCpu (node : Node) : Read Unit := do
  let _ ← requiredText node "name"
  let _ ← requiredText node "revision"
  required (checkWord ["little", "big", "selectable", "other"]) node "endian"
  let _ ← required readU32 node "nvicPrioBits"
  let _ ← required readTruth node "vendorSystickConfig"
  cpuFeatures.forM fun feature => do
    let _ ← optional readTruth node feature
  let _ ← optional readU32 node "deviceNumInterrupts"
  let _ ← optional readU32 node "sauNumRegions"

/-- Checks an address block of a peripheral. -/
def checkAddressBlock (node : Node) : Read Unit := do
  let _ ← required readU32 node "offset"
  let _ ← required readU32 node "size"
  required (checkWord ["registers", "buffer", "reserved"]) node "usage"
  checkProtection node

/-- Checks an interrupt of a peripheral. -/
def checkInterrupt (node : Node) : Read Unit := do
  let _ ← requiredText node "name"
  let _ ← required readU32 node "value"

/-- The types of integers in C. -/
def integerTypes : List String :=
  ["uint8_t", "uint16_t", "uint32_t", "uint64_t", "int8_t", "int16_t", "int32_t", "int64_t"]

/-- Checks the type of a register, which is an integer or a pointer to one. -/
def checkDataType (node : Node) : Read Unit := do
  let words := integerTypes ++ integerTypes.map (· ++ " *")
  let _ ← optional (checkWord words) node "dataType"

/-- Checks what writing does to a register or field. -/
def checkModifiedWriteValues (node : Node) : Read Unit := do
  let words := ["oneToClear", "oneToSet", "oneToToggle", "zeroToClear", "zeroToSet", "zeroToToggle",
    "clear", "set", "modify"]
  let _ ← optional (checkWord words) node "modifiedWriteValues"

/-- Checks what reading does to a register or field. -/
def checkReadAction (node : Node) : Read Unit := do
  let _ ← optional (checkWord ["clear", "set", "modify", "modifyExternal"]) node "readAction"

/-! ## Write constraints -/

/-- The values that may be written. -/
structure WriteRange where
  minimum : UInt64
  maximum : UInt64
  deriving Repr, DecidableEq

/-- What may be written to a register or field: the value that was read, an enumerated value, or the
values of a range. A constraint is exactly one of these. -/
def readWriteConstraint (node : Node) : Read (Option WriteRange) :=
  match node.children.filter (·.isElement) with
  | [kind] =>
    if kind.hasName "range" then do
      let minimum ← required readU64 kind "minimum"
      let maximum ← required readU64 kind "maximum"
      return some ⟨minimum, maximum⟩
    else do
      check (kind.hasName "writeAsRead" || kind.hasName "useEnumeratedValues")
      let _ ← readTruth kind
      return none
  | _ => .error .malformed

/-- The range of the values that may be written to a register or field, if it has one. -/
def readWriteRange (node : Node) : Read (Option WriteRange) := do
  return (← optional readWriteConstraint node "writeConstraint").join

end RegisterHeaders.Svd
