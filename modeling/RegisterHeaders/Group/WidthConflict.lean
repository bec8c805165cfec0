import RegisterHeaders.Group.Basic

/-!
# Width conflicts

Fields that share a group should have the same width, since the first of them defines its constants.
`conflicts` lists the fields whose width differs from that of the first field of their group, in
document order.
-/

namespace RegisterHeaders.Group

/-- A field as a user of its group. -/
structure Use where
  group : String
  /-- The names of the peripheral, the register and the field, separated by dots. -/
  path : String
  width : UInt32
  deriving Repr, DecidableEq

/-- The uses of groups in a list of peripherals, in document order. -/
def uses (maxWidth : UInt32) (peripherals : List Peripheral) : List Use :=
  peripherals.flatMap fun p =>
    p.registers.flatMap fun r =>
      (r.fields.filter fun f => (f.groupValues maxWidth).isSome).map fun f =>
        { group := identifier p.name r.name f.name
          path := p.name ++ "." ++ r.name ++ "." ++ f.name
          width := f.bitWidth }

/-- Two uses of one group with different widths; `first` is the first use of the group. -/
structure WidthConflict where
  group : String
  first : String
  firstWidth : UInt32
  other : String
  otherWidth : UInt32
  deriving Repr, DecidableEq

/-- The diagnostic text of a conflict. -/
def WidthConflict.message (c : WidthConflict) : String :=
  "enumeration " ++ c.group ++ " is defined by " ++ c.first ++ " with " ++
    c.firstWidth.toNat.repr ++ " bits but also used by " ++ c.other ++ " with " ++
    c.otherWidth.toNat.repr ++ " bits"

/-- The conflicts of the given uses, where `firsts` has the first use of every group used before. -/
def conflictsAfter (firsts : List Use) : List Use → List WidthConflict
  | [] => []
  | use :: rest =>
    match firsts.find? (·.group = use.group) with
    | none => conflictsAfter (use :: firsts) rest
    | some first =>
      if first.width = use.width then conflictsAfter firsts rest
      else
        ⟨use.group, first.path, first.width, use.path, use.width⟩ :: conflictsAfter firsts rest

/-- The width conflicts of a list of peripherals, in document order. -/
def conflicts (maxWidth : UInt32) (peripherals : List Peripheral) : List WidthConflict :=
  conflictsAfter [] (uses maxWidth peripherals)

end RegisterHeaders.Group
