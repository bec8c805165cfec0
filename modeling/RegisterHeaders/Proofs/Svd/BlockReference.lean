import Mathlib.Data.List.Basic
import RegisterHeaders.Proofs.Steps
import RegisterHeaders.Svd.Description

/-!
# References between blocks

A block of enumerated values may stand for another block, and that one for a third. A field gets the
values that are written in the block that its own block names: this block is looked up, but what it
stands for itself is not. So the values at the end of several references are at the place of the
field's block if there is just one reference, and, as blocks that stand for others have no values of
their own, only then (`referenced_values_kept_iff`). The others are lost without a warning, since
all references name a block.
-/

namespace RegisterHeaders.Svd

variable {doc : Document} {f : Field} {block next last : Block} {n : Nat}

/-! ## The values of a field -/

/-- The values with numbers that are written in a block. -/
def Block.literals (block : Block) : List EnumValue :=
  block.values.filterMap EnumeratedValue.literal

/-- The values with numbers that a field gets for some of its blocks. -/
def Document.literalsOf (doc : Document) (blocks : List Block) : List EnumValue :=
  (blocks.filterMap doc.source).flatMap Block.literals

theorem Document.literalsOf_append (doc : Document) (first rest : List Block) :
    doc.literalsOf (first ++ rest) = doc.literalsOf first ++ doc.literalsOf rest := by
  simp [literalsOf]

theorem Document.literalsOf_cons (h : doc.source block = some next) (rest : List Block) :
    doc.literalsOf (block :: rest) = next.literals ++ doc.literalsOf rest := by
  simp [literalsOf, h]

theorem Document.enumeratedValues_eq (doc : Document) (f : Field) :
    doc.enumeratedValues f =
      if doc.literalsOf f.blocks = [] then none else some (doc.literalsOf f.blocks) := by
  have values : doc.literals f = doc.literalsOf f.blocks := by
    rw [literals, List.filterMap_flatMap]
    rfl
  rw [enumeratedValues, ← values]
  cases doc.literals f <;> rfl

theorem Document.getD_enumeratedValues (doc : Document) (f : Field) :
    (doc.enumeratedValues f).getD [] = doc.literalsOf f.blocks := by
  rw [enumeratedValues_eq]
  split
  · next empty => rw [empty]; rfl
  · rfl

/-! ## Following references -/

/-- The block that a block is taken from. -/
def Document.target (doc : Document) (block : Block) : Option Block :=
  block.derivedFrom.bind doc.findBlock

/-- Following `n` references leads from one block to another. -/
inductive Document.Leads (doc : Document) : Nat → Block → Block → Prop where
  | refl (block : Block) : Leads doc 0 block block
  | step {n : Nat} {block next last : Block} (here : doc.target block = some next)
      (rest : Leads doc n next last) : Leads doc (n + 1) block last

theorem Document.source_of_target (h : doc.target block = some next) :
    doc.source block = some next := by
  obtain ⟨reference, derived, found⟩ := Option.bind_eq_some_iff.1 h
  rw [source, derived]
  exact found

/-- A reference to a block that exists is not reported. -/
theorem Document.notMem_unfound (h : doc.target block = some next) :
    ∀ reference ∈ block.derivedFrom, reference ∉ doc.unfound f := by
  intro reference derived reported
  obtain ⟨other, -, missing⟩ := List.mem_filterMap.1 reported
  have missing := (Option.filter_eq_some_iff.1 missing).2
  rw [target, Option.mem_def.1 derived, Option.bind_some] at h
  simp [h] at missing

theorem Document.derived_of_target (h : doc.target block = some next) :
    block.derivedFrom.isSome = true := by
  obtain ⟨reference, derived, -⟩ := Option.bind_eq_some_iff.1 h
  rw [derived]
  rfl

/-- A block that is taken from another one leads to a block that is not by a first reference, and
from there by those that are left. -/
theorem Document.Leads.exists_target (h : doc.Leads n block last)
    (derived : block.derivedFrom.isSome = true) (plain : last.derivedFrom = none) :
    ∃ m next, n = m + 1 ∧ doc.target block = some next ∧ doc.Leads m next last := by
  cases h with
  | refl =>
    rw [plain] at derived
    cases derived
  | step here rest => exact ⟨_, _, rfl, here, rest⟩

/-- Suppose that following references from a block of a field, which is taken from another one,
leads after `n` references to a block that is not and that has values with numbers. The field has
the values of the block that the first reference names in the place of its own block, and the
references of this block are not reported. If there is just one reference, these are the values that
it leads to. If there are more, and the block that the first one names has no values of its own,
they are not there. -/
theorem referenced_values_kept_iff {before after : List Block}
    (position : f.blocks = before ++ block :: after) (derived : block.derivedFrom.isSome = true)
    (leads : doc.Leads n block last) (plain : last.derivedFrom = none)
    (valued : last.literals ≠ []) :
    ∃ next, doc.target block = some next ∧
      (doc.enumeratedValues f).getD [] =
        doc.literalsOf before ++ next.literals ++ doc.literalsOf after ∧
      (∀ reference ∈ block.derivedFrom, reference ∉ doc.unfound f) ∧
      (n = 1 → next = last) ∧
      ((next.derivedFrom.isSome = true → next.literals = []) →
        ((∀ v ∈ last.literals, v ∈ next.literals) ↔ n = 1)) := by
  obtain ⟨m, next, rfl, here, rest⟩ := leads.exists_target derived plain
  have direct : m + 1 = 1 → next = last := by
    intro one
    obtain rfl : m = 0 := by omega
    cases rest
    rfl
  refine ⟨next, here, ?_, Document.notMem_unfound here, direct, ?_⟩
  · rw [Document.getD_enumeratedValues, position, Document.literalsOf_append,
      Document.literalsOf_cons (Document.source_of_target here), List.append_assoc]
  · intro bare
    constructor
    · intro kept
      cases rest with
      | refl => rfl
      | step beyond =>
        -- the first reference names a block that is taken from a further one
        obtain ⟨v, hv⟩ := List.exists_mem_of_ne_nil _ valued
        have found := kept v hv
        rw [bare (Document.derived_of_target beyond)] at found
        cases found
    · intro one v hv
      rwa [direct one]

/-- A field of one bit with one block of enumerated values. -/
def switchField (name : String) (bitOffset : UInt32) (block : Block) : Field where
  name
  array := none
  derivedFrom := none
  access := none
  bitOffset
  bitWidth := 1
  description := none
  blocks := [block]

/-- A block with a value of its own. -/
def baseBlock : Block :=
  ⟨some "base", none, [⟨"ON", some 1, none⟩]⟩

/-- A block that is taken from the one with the value. -/
def nearBlock : Block :=
  ⟨some "near", some "base", []⟩

/-- A block that is taken from the one before. -/
def farBlock : Block :=
  ⟨some "far", some "near", []⟩

/-- A document with a field for each of these blocks. -/
def switchDocument : Document where
  name := "D"
  description := none
  size := none
  access := none
  peripherals := [{
    name := "P", array := none, derivedFrom := none, baseAddress := 0, size := none, access := none
    description := none
    registers := some [.register {
      name := "R", array := none, derivedFrom := none, addressOffset := 0, size := none
      access := none, description := none
      fields := some [
        switchField "BASE" 0 baseBlock,
        switchField "NEAR" 1 nearBlock,
        switchField "FAR" 2 farBlock] }] }]

theorem switchDocument_near : switchDocument.target nearBlock = some baseBlock := by
  decide +kernel

theorem switchDocument_far : switchDocument.target farBlock = some nearBlock := by
  decide +kernel

/-- The field `NEAR` has the values that its block refers to. -/
theorem switchDocument_keeps_near :
    switchDocument.Leads 1 nearBlock baseBlock ∧ baseBlock.derivedFrom = none ∧
    baseBlock.literals = [⟨"ON", 1, none⟩] ∧
    ∃ next, switchDocument.target nearBlock = some next ∧ next = baseBlock ∧
      (switchDocument.enumeratedValues (switchField "NEAR" 1 nearBlock)).getD [] =
        next.literals := by
  have leads : switchDocument.Leads 1 nearBlock baseBlock :=
    .step switchDocument_near (.refl _)
  have literals : baseBlock.literals = [⟨"ON", 1, none⟩] := rfl
  have position : (switchField "NEAR" 1 nearBlock).blocks = [] ++ nearBlock :: [] := rfl
  obtain ⟨next, here, values, -, direct, -⟩ :=
    referenced_values_kept_iff position rfl leads rfl (by simp [literals])
  exact ⟨leads, rfl, literals, next, here, direct rfl, by simpa [Document.literalsOf] using values⟩

/-- The references of the field `FAR` lead to the same values, but it has none, and no reference is
reported. -/
theorem switchDocument_loses_far :
    switchDocument.Leads 2 farBlock baseBlock ∧ baseBlock.derivedFrom = none ∧
    baseBlock.literals = [⟨"ON", 1, none⟩] ∧
    ∃ described, switchDocument.describe = .ok described ∧ described.unfound = [] ∧
      (described.device.peripherals.flatMap fun p => (p.registers.getD []).flatMap fun r =>
        (r.fields.getD []).map fun f => (f.name, f.enumeratedValues)) =
        [("BASE", some [⟨"ON", 1, none⟩]), ("NEAR", some [⟨"ON", 1, none⟩]), ("FAR", none)] := by
  have leads : switchDocument.Leads 2 farBlock baseBlock :=
    .step switchDocument_far (.step switchDocument_near (.refl _))
  exact ⟨leads, rfl, rfl, Steps.exists_ok_of_decide (by decide +kernel)⟩

end RegisterHeaders.Svd
