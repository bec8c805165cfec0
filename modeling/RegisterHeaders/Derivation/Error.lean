import RegisterHeaders.Overflow

/-!
# Errors of derivation

What can be wrong with a description whose derivations are resolved, and the text that says so.
-/

namespace RegisterHeaders.Derivation

/-- The kinds of elements that derive from each other. -/
inductive ElementKind where
  | peripheral
  | register
  | field
  deriving Repr, DecidableEq

/-- The name of a kind in diagnostics. -/
def ElementKind.text : ElementKind → String
  | peripheral => "peripheral"
  | register => "register"
  | field => "field"

/-- The attributes that must be set somewhere along a derivation. -/
inductive Attribute where
  | baseAddress
  | addressOffset
  | bitOffset
  | bitWidth
  deriving Repr, DecidableEq

/-- The name of an attribute in diagnostics. -/
def Attribute.text : Attribute → String
  | baseAddress => "baseAddress"
  | addressOffset => "addressOffset"
  | bitOffset => "bitOffset"
  | bitWidth => "bitWidth"

/-- Why a description has no model. -/
inductive Error where
  /-- The element called `name` derives from `base`, which names no element of its kind. -/
  | unresolved (kind : ElementKind) (name base : String)
  /-- A derivation comes back to an element it has visited; `chain` has the names of the visited
  elements in order, and that of the revisited one at its end. -/
  | cycle (kind : ElementKind) (chain : List String)
  /-- The attribute `lacking` is set neither by the element called `name` nor by one it derives
  from. -/
  | missing (kind : ElementKind) (name : String) (lacking : Attribute)
  /-- The address of a register does not fit. -/
  | overflow (cause : Overflow)
  deriving Repr, DecidableEq

/-- The diagnostic text of an error. -/
def Error.message : Error → String
  | unresolved kind name base =>
    kind.text ++ " " ++ name ++ " derives from unknown " ++ kind.text ++ " " ++ base
  | cycle kind chain =>
    "circular derivation of " ++ kind.text ++ ": " ++ String.intercalate " -> " chain
  | missing kind name lacking =>
    kind.text ++ " " ++ name ++ " is missing required attribute " ++ lacking.text
  | overflow cause => cause.message

end RegisterHeaders.Derivation
