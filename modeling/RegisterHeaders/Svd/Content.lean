import RegisterHeaders.Access
import RegisterHeaders.Overflow
import RegisterHeaders.Svd.Document
import RegisterHeaders.Unicode.WhiteSpace
import RegisterHeaders.Xml.Node

/-!
# Content of SVD elements

What an element holds is a text, a number, a truth value or one of a few words. White space around
it does not count. Numbers are decimal, hexadecimal after `0x` or binary after `#` or `0b`.
-/

namespace RegisterHeaders.Svd

open Xml (Node)

/-- Why a text is not read as a document. -/
inductive ReadError where
  /-- The text is no well-formed XML or no valid SVD. -/
  | malformed
  /-- The width of a bit range does not fit. -/
  | overflow (cause : Overflow)
  deriving Repr, DecidableEq

/-- The outcome of reading. -/
abbrev Read := Except ReadError

/-- The given value; a missing one is malformed. -/
def orMalformed {α : Type} : Option α → Read α
  | some a => .ok a
  | none => .error .malformed

/-- Fails unless the condition holds. -/
def check (condition : Bool) : Read Unit :=
  if condition then .ok () else .error .malformed

/-! ## Texts and numbers -/

/-- The text of an element without the white space around it. -/
def textOf? (node : Node) : Option String :=
  node.text?.map Unicode.trim

/-- The number that digits of the given base stand for, which may follow a plus sign. -/
def digits? (base : Nat) (text : List Char) : Option Nat :=
  match text with
  | '+' :: digits => Xml.number? base digits
  | digits => Xml.number? base digits

/-- The number that a text stands for. Binary digits may be `x`, for a bit that does not matter. -/
def number? (text : String) : Option Nat :=
  let zero (bits : List Char) : List Char := bits.map fun c => if c = 'x' then '0' else c
  match text.toList with
  | '0' :: 'x' :: digits => digits? 16 digits
  | '0' :: 'X' :: digits => digits? 16 digits
  | '#' :: bits => digits? 2 (zero (bits.map Char.toLower))
  | '0' :: 'b' :: bits => digits? 2 (zero bits)
  | digits => digits? 10 digits

/-- The 32-bit number in an element. -/
def readU32 (node : Node) : Read UInt32 := do
  let n ← orMalformed ((textOf? node).bind number?)
  check (n < UInt32.size)
  return n.toUInt32

/-- The 64-bit number in an element. -/
def readU64 (node : Node) : Read UInt64 := do
  let n ← orMalformed ((textOf? node).bind number?)
  check (n < UInt64.size)
  return n.toUInt64

/-! ## Truth values and words -/

/-- The truth value that a text stands for. -/
def truth? (text : String) : Option Bool :=
  match text with
  | "true" | "1" => some true
  | "false" | "0" => some false
  | _ => none

/-- The truth value in an element. -/
def readTruth (node : Node) : Read Bool :=
  orMalformed ((textOf? node).bind truth?)

/-- Fails unless the text of an element is one of the given words. -/
def checkWord (words : List String) (node : Node) : Read Unit :=
  check (words.any fun word => textOf? node = some word)

/-! ## Child elements -/

/-- What a child element holds that must be there. -/
def required {α : Type} (read : Node → Read α) (node : Node) (name : String) : Read α := do
  read (← orMalformed (node.child? name))

/-- What a child element holds, `none` if it is missing. -/
def optional {α : Type} (read : Node → Read α) (node : Node) (name : String) : Read (Option α) :=
  (node.child? name).mapM read

/-- The text of a child element, `none` if it is missing or has no text. -/
def childText? (node : Node) (name : String) : Option String :=
  (node.child? name).bind textOf?

/-- The text of a child element that must have one. -/
def requiredText (node : Node) (name : String) : Read String :=
  orMalformed (childText? node name)

/-- The text of a child element, `none` if it is missing or empty. -/
def optionalText? (node : Node) (name : String) : Option String :=
  (childText? node name).filter (· ≠ "")

end RegisterHeaders.Svd
