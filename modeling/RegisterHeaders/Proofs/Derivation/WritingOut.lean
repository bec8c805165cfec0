import Mathlib.Data.List.Find
import RegisterHeaders.Proofs.Derivation.Contents

/-!
# Writing out a peripheral

A peripheral that derives from others can be written out in its place: with the attributes and the
registers that its derivation gives it, and without the reference (`writeOut`). References to it, or
to its registers and fields, then end at the copy, and references in the copy are relative to the
copy. The model stays the same.

The copy cuts the derivation chains that pass through the peripheral short, but what they set
together is what they set before (`SameValues`); so the names of peripherals lead to the same
registers, which is what the meaning of registers and fields depends on.
-/

namespace RegisterHeaders.Derivation

open Steps

variable {d : Description.Device} {p q : PeripheralAt} {m : Device}

/-- A peripheral with given attributes and the registers that `p` ends up with, deriving from
nothing. -/
def writtenOut (d : Description.Device) (p : PeripheralAt) (merged : Description.Peripheral) :
    Description.Peripheral :=
  { merged with derivedFrom := none, registers := (registerList d p).map (·.registers) }

/-- The description with another peripheral at position `i`. -/
def setPeripheral (d : Description.Device) (i : Nat) (new : Description.Peripheral) :
    Description.Device :=
  { d with peripherals := d.peripherals.set i new }

/-- The description with the peripheral `p` written out in its place. -/
def writeOut (d : Description.Device) (p : PeripheralAt) : Except Error Description.Device := do
  let merged ← flattenPeripheral d p
  return setPeripheral d p.index (writtenOut d p merged)

/-! ## Replacing a peripheral -/

/-- What stands in the place of `q` when the peripheral at position `i` is replaced. -/
def PeripheralAt.replaced (i : Nat) (new : Description.Peripheral) (q : PeripheralAt) :
    PeripheralAt :=
  if q.index = i then ⟨i, new⟩ else q

section Replace

variable {i : Nat} {new : Description.Peripheral}

theorem replaced_of_index (h : q.index = i) : q.replaced i new = ⟨i, new⟩ :=
  if_pos h

theorem replaced_of_ne (h : q.index ≠ i) : q.replaced i new = q :=
  if_neg h

theorem placedPeripherals_setPeripheral :
    placedPeripherals (setPeripheral d i new) =
      (placedPeripherals d).map (PeripheralAt.replaced i new) := by
  apply List.ext_getElem?
  intro j
  simp only [placedPeripherals, setPeripheral, List.getElem?_map, List.getElem?_zipIdx,
    List.getElem?_set, Nat.zero_add, Option.map_map]
  by_cases h : i = j
  · subst h
    cases hj : d.peripherals[i]? with
    | none =>
      have := List.getElem?_eq_none_iff.1 hj
      simp [Nat.not_lt.2 this]
    | some q =>
      obtain ⟨hi, -⟩ := List.getElem?_eq_some_iff.1 hj
      simp [hi, replaced_of_index]
  · simp only [if_neg h]
    congr 1
    funext q
    exact (replaced_of_ne (Ne.symm h)).symm

theorem mem_placedPeripherals_setPeripheral (hq : q ∈ placedPeripherals d) :
    q.replaced i new ∈ placedPeripherals (setPeripheral d i new) := by
  rw [placedPeripherals_setPeripheral]
  exact List.mem_map_of_mem hq

theorem findPeripheral_setPeripheral (hp : p ∈ placedPeripherals d)
    (hname : new.name = p.element.name) (name : String) :
    findPeripheral (setPeripheral d p.index new) name =
      (findPeripheral d name).map (PeripheralAt.replaced p.index new) := by
  rw [findPeripheral, placedPeripherals_setPeripheral, List.find?_map, findPeripheral]
  congr 1
  apply List.find?_congr
  intro q hq
  by_cases h : q.index = p.index
  · obtain rfl := peripheral_eq_of_index hq hp h
    simp [PeripheralAt.replaced, hname]
  · simp [PeripheralAt.replaced, h]

end Replace

/-! ## Chains through the copy -/

/-- Two chains of peripherals set the same attributes and have the same registers. -/
structure SameValues (chain chain' : List PeripheralAt) : Prop where
  baseAddress : chain.findSome? (·.element.baseAddress) = chain'.findSome? (·.element.baseAddress)
  access : chain.findSome? (·.element.access) = chain'.findSome? (·.element.access)
  width : chain.findSome? (·.element.width) = chain'.findSome? (·.element.width)
  description : chain.findSome? (·.element.description) = chain'.findSome? (·.element.description)
  registers : chain.findSome? (·.element.registers) = chain'.findSome? (·.element.registers)

theorem SameValues.refl (chain : List PeripheralAt) : SameValues chain chain :=
  ⟨rfl, rfl, rfl, rfl, rfl⟩

theorem SameValues.cons {chain chain' : List PeripheralAt} (h : SameValues chain chain')
    (q : PeripheralAt) : SameValues (q :: chain) (q :: chain') := by
  constructor <;> simp only [findSome?_cons_eq_or]
  · rw [h.baseAddress]
  · rw [h.access]
  · rw [h.width]
  · rw [h.description]
  · rw [h.registers]

/-- The registers of a chain are those of the first element that has any. -/
theorem findSome?_registers (chain : List PeripheralAt) :
    (chain.findSome? PeripheralAt.ownRegisters).map (·.registers) =
      chain.findSome? (·.element.registers) := by
  rw [List.map_findSome?]
  congr 1
  funext q
  simp [PeripheralAt.ownRegisters, Function.comp_def]

section WritingOut

variable {bases : List PeripheralAt}

/-- What is written out has the values of the chain it replaces. -/
theorem sameValues_writtenOut (hp : p ∈ placedPeripherals d)
    (hbases : (peripheralLinks d).Chain p bases) :
    SameValues bases [⟨p.index, writtenOut d p (p.along bases)⟩] := by
  have hregisters : (registerList d p).map (·.registers) =
      bases.findSome? (·.element.registers) := by
    rw [registerList_of_chain hp hbases, findSome?_registers]
  constructor <;> simp [writtenOut, PeripheralAt.along, hregisters]

/-- Where the chain of a peripheral passes through `p`, it ends at the copy. -/
theorem exists_chain_writtenOut (hp : p ∈ placedPeripherals d)
    (hbases : (peripheralLinks d).Chain p bases) {chain : List PeripheralAt}
    (hc : (peripheralLinks d).Chain q chain) (hq : q ∈ placedPeripherals d)
    {new : Description.Peripheral} (hnew : new = writtenOut d p (p.along bases)) :
    ∃ chain', (peripheralLinks (setPeripheral d p.index new)).Chain
      (q.replaced p.index new) chain' ∧ SameValues chain chain' := by
  have hname : new.name = p.element.name := hnew ▸ rfl
  induction hc with
  | @last q hr =>
    by_cases h : q.index = p.index
    · obtain rfl := peripheral_eq_of_index hq hp h
      obtain rfl := hbases.unique (.last hr)
      rw [replaced_of_index rfl]
      exact ⟨_, .last (by rw [hnew]; rfl), hnew ▸ sameValues_writtenOut hq hbases⟩
    · rw [replaced_of_ne h]
      exact ⟨[q], .last hr, .refl [q]⟩
  | @link q b chain hn rest ih =>
    by_cases h : q.index = p.index
    · obtain rfl := peripheral_eq_of_index hq hp h
      obtain rfl := hbases.unique (.link hn rest)
      rw [replaced_of_index rfl]
      exact ⟨_, .last (by rw [hnew]; rfl), hnew ▸ sameValues_writtenOut hq hbases⟩
    · have hb := (peripheralLinks_within d).mem_of_next hq hn
      obtain ⟨chain', hc', same⟩ := ih hb
      obtain ⟨name, hname', hfind⟩ := hn
      refine ⟨q :: chain', ?_, same.cons q⟩
      rw [replaced_of_ne h]
      refine .link ⟨name, hname', ?_⟩ hc'
      change findPeripheral _ name = _
      change findPeripheral d name = _ at hfind
      rw [findPeripheral_setPeripheral hp hname, hfind, Option.map_some]

theorem registerList_writtenOut (hp : p ∈ placedPeripherals d)
    (hbases : (peripheralLinks d).Chain p bases) {chain : List PeripheralAt}
    (hc : (peripheralLinks d).Chain q chain) (hq : q ∈ placedPeripherals d)
    {new : Description.Peripheral} (hnew : new = writtenOut d p (p.along bases)) :
    (registerList d q).map (·.registers) =
      (registerList (setPeripheral d p.index new) (q.replaced p.index new)).map (·.registers) := by
  obtain ⟨chain', hc', same⟩ := exists_chain_writtenOut hp hbases hc hq hnew
  rw [registerList_of_chain hq hc, findSome?_registers, same.registers, ← findSome?_registers,
    ← registerList_of_chain (mem_placedPeripherals_setPeripheral hq) hc']

theorem namedRegisters_writtenOut (hp : p ∈ placedPeripherals d)
    (hbases : (peripheralLinks d).Chain p bases)
    (ends : ∀ q ∈ placedPeripherals d, ∃ chain, (peripheralLinks d).Chain q chain)
    {new : Description.Peripheral} (hnew : new = writtenOut d p (p.along bases)) :
    namedRegisters d = namedRegisters (setPeripheral d p.index new) := by
  have hname : new.name = p.element.name := hnew ▸ rfl
  funext name
  rw [namedRegisters, namedRegisters, findPeripheral_setPeripheral hp hname, Option.map_map]
  cases h : findPeripheral d name with
  | none => rfl
  | some q =>
    have hq := mem_of_findPeripheral h
    obtain ⟨chain, hc⟩ := ends q hq
    exact congrArg some (registerList_writtenOut hp hbases hc hq hnew)

end WritingOut

/-! ## The model -/

theorem AllSound.exists_peripheralChain (h : AllSound d) (hq : q ∈ placedPeripherals d) :
    ∃ chain, (peripheralLinks d).Chain q chain := by
  obtain ⟨chain, hc, -⟩ := h.peripherals q hq
  exact ⟨chain, hc⟩

theorem AllSound.exists_registerChain (h : AllSound d) {r : RegisterAt}
    (hr : r ∈ declaredRegisters d) : ∃ chain, (registerLinks d).Chain r chain := by
  obtain ⟨chain, hc, -⟩ := h.registers r hr
  exact ⟨chain, hc⟩

theorem meansPeripheral_writtenOut (sound : AllSound d) (hp : p ∈ placedPeripherals d)
    {bases : List PeripheralAt} (hbases : (peripheralLinks d).Chain p bases)
    {new : Description.Peripheral} (hnew : new = writtenOut d p (p.along bases))
    (hq : q ∈ placedPeripherals d) {access : Access} {width : UInt32} {m : Peripheral}
    (hm : MeansPeripheral d access width q m) :
    MeansPeripheral (setPeripheral d p.index new) access width (q.replaced p.index new) m := by
  obtain ⟨chain, hc, hname, hbase, haccess, hwidth, hdescription, hregisters⟩ := hm
  obtain ⟨chain', hc', same⟩ := exists_chain_writtenOut hp hbases hc hq hnew
  have hq' : q.replaced p.index new ∈ placedPeripherals (setPeripheral d p.index new) :=
    mem_placedPeripherals_setPeripheral hq
  have lists := registerList_writtenOut hp hbases hc hq hnew
  have hn := namedRegisters_writtenOut hp hbases (fun q => sound.exists_peripheralChain) hnew
  have hname' : m.name = (q.replaced p.index new).element.name := by
    by_cases h : q.index = p.index
    · obtain rfl := peripheral_eq_of_index hq hp h
      rw [replaced_of_index rfl, hnew]
      exact hname
    · rw [replaced_of_ne h]
      exact hname
  refine ⟨chain', hc', hname', same.baseAddress ▸ hbase, same.access ▸ haccess,
    same.width ▸ hwidth, same.description ▸ hdescription, ?_⟩
  rw [← registerList_of_chain hq hc] at hregisters
  rw [← registerList_of_chain hq' hc']
  refine forall₂_of_map_eq (elim_registers_contents lists) hregisters fun r hr r' hr' heq z hz => ?_
  exact hz.transfer hn (fun r => sound.exists_registerChain) (mem_of_registerList hq hr)
    (mem_of_registerList hq' hr') heq

/-- A description that resolves still resolves, to the same model, when a peripheral is written
out. -/
theorem resolve_writeOut (h : resolve d = .ok m) (hp : p ∈ placedPeripherals d) :
    ∃ d', writeOut d p = .ok d' ∧ resolve d' = .ok m := by
  have sound := resolve_succeeds_iff.1 ⟨m, h⟩
  obtain ⟨bases, hbases⟩ := sound.exists_peripheralChain hp
  have flat := (flattenPeripheral_eq_ok_iff hp).2 ⟨bases, hbases, rfl⟩
  refine ⟨setPeripheral d p.index (writtenOut d p (p.along bases)), ?_, resolve_of_means ?_⟩
  · rw [writeOut, flat]
    rfl
  · obtain ⟨hname, hdescription, haccess, hwidth, hperipherals⟩ := means_of_resolve h
    refine ⟨hname, hdescription, haccess, hwidth, ?_⟩
    rw [placedPeripherals_setPeripheral, List.forall₂_map_left_iff]
    exact forall₂_imp_of_mem hperipherals fun q hq mq hmq =>
      meansPeripheral_writtenOut sound hp hbases rfl hq hmq

/-- A register without attributes and fields of its own. -/
def plainRegister (name : String) (base : Option String) : Description.Register where
  name := name
  derivedFrom := base
  addressOffset := none
  access := none
  width := none
  description := none
  fields := none

/-- A field of two bits. -/
def modeField : Description.Field where
  name := "MODE"
  derivedFrom := none
  access := none
  bitOffset := some 3
  bitWidth := some 2
  description := none
  enumeratedValues := none

/-- The peripheral `COPY` derives its registers, one of which derives from its sibling, and a
register of `USER` derives from that one by way of `COPY`. -/
def copyDevice : Description.Device where
  name := "D"
  description := none
  access := none
  width := some 16
  peripherals := [
    { name := "BASE", derivedFrom := none, baseAddress := some 0, access := some .readOnly
      width := none, description := none
      registers := some [
        { plainRegister "CTRL" none with addressOffset := some 4, fields := some [modeField] },
        plainRegister "STATUS" (some "CTRL")] },
    { name := "COPY", derivedFrom := some "BASE", baseAddress := some 256, access := none
      width := none, description := none, registers := none },
    { name := "USER", derivedFrom := none, baseAddress := some 512, access := none, width := none
      description := none
      registers := some [
        { plainRegister "DATA" (some "COPY.STATUS") with
          fields := some [
            { modeField with
              derivedFrom := some "COPY.STATUS.MODE", bitOffset := none, bitWidth := none }] }] }]

theorem copyDevice_writeOut : ∃ m p d', resolve copyDevice = .ok m ∧
    p ∈ placedPeripherals copyDevice ∧ p.element.derivedFrom = some "BASE" ∧
    writeOut copyDevice p = .ok d' ∧ resolve d' = .ok m := by
  have computed : ((resolve copyDevice).toOption.any fun _ => true) = true := by
    decide +kernel
  obtain ⟨m, hm, -⟩ := any_toOption_iff.1 computed
  have derived : ∃ p ∈ placedPeripherals copyDevice, p.element.derivedFrom = some "BASE" := by
    decide +kernel
  obtain ⟨p, hp, hbase⟩ := derived
  obtain ⟨d', hd', hresolve⟩ := resolve_writeOut hm hp
  exact ⟨m, p, d', hm, hp, hbase, hd', hresolve⟩

end RegisterHeaders.Derivation
