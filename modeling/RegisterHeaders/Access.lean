/-!
# Access rights

The access rights that a description gives to a register or field, and the access mode that a
generated type has for them.
-/

namespace RegisterHeaders

/-- The access rights of a peripheral, register or field. -/
inductive Access where
  | readOnly
  | writeOnly
  | readWrite
  | writeOnce
  | readWriteOnce
  | unspecified
  deriving Repr, DecidableEq

namespace Access

/-- The access rights that code is generated for: unspecified rights are read and write. -/
def effective : Access → Access
  | unspecified => readWrite
  | access => access

/-- The name of the access mode type of a generated register or field. -/
def modeType (access : Access) : String :=
  match access.effective with
  | readOnly => "ReadMode"
  | writeOnly | writeOnce => "WriteMode"
  | readWrite | readWriteOnce | unspecified => "ReadWriteMode"

end Access

end RegisterHeaders
