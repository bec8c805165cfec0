/-!
# Checked arithmetic

Addresses are 64-bit and bit offsets 32-bit numbers. An operation whose exact result does not fit
is an error, never a wrapped number.
-/

namespace RegisterHeaders

/-- The operation whose result does not fit. -/
inductive Overflow where
  | add
  | multiply
  | shiftLeft
  deriving Repr, DecidableEq

/-- The diagnostic text of an overflow. -/
def Overflow.message : Overflow → String
  | add => "attempt to add with overflow"
  | multiply => "attempt to multiply with overflow"
  | shiftLeft => "attempt to shift left with overflow"

namespace Checked

/-- The sum of two addresses. -/
def addAddress (a b : UInt64) : Except Overflow UInt64 :=
  if a.toNat + b.toNat < UInt64.size then .ok (a + b) else .error .add

/-- The sum of two bit offsets. -/
def addOffset (a b : UInt32) : Except Overflow UInt32 :=
  if a.toNat + b.toNat < UInt32.size then .ok (a + b) else .error .add

/-- The product of two bit offsets. -/
def mulOffset (a b : UInt32) : Except Overflow UInt32 :=
  if a.toNat * b.toNat < UInt32.size then .ok (a * b) else .error .multiply

end Checked

end RegisterHeaders
