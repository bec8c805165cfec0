import RegisterHeaders.Derivation.Resolve
import RegisterHeaders.Proofs.Derivation.Inheritance
import RegisterHeaders.Proofs.Overflow
import RegisterHeaders.Proofs.Steps

/-!
# The meaning of a description

What a description means can be said without resolving it step by step: every attribute of an
element is the first one set along its derivation chain, the access and the width that the whole
chain leaves open are those of the element around it in the model, its list of registers or fields
is the first along the chain, and the address of a register is the exact sum of the base address
around it and its offset. `Means d m` says so for a device. The main result is that `resolve` finds
the model that a description means, and no other.
-/

namespace RegisterHeaders.Derivation

open Steps

variable {d : Description.Device}

/-! ## Meanings -/

/-- `m` is what a field means in a register of the given access. -/
def MeansField (d : Description.Device) (access : Access) (f : FieldAt) (m : Field) : Prop :=
  ∃ chain, (fieldLinks d).Chain f chain ∧
    m.name = f.element.name ∧
    m.access = (chain.findSome? (·.element.access)).getD access ∧
    chain.findSome? (·.element.bitOffset) = some m.bitOffset ∧
    chain.findSome? (·.element.bitWidth) = some m.bitWidth ∧
    m.description = chain.findSome? (·.element.description) ∧
    m.enumeratedValues = chain.findSome? (·.element.enumeratedValues)

/-- `m` is what a register means in a peripheral of the given base address, access and width. -/
def MeansRegister (d : Description.Device) (baseAddress : UInt64) (access : Access)
    (width : UInt32) (r : RegisterAt) (m : Register) : Prop :=
  ∃ chain, (registerLinks d).Chain r chain ∧
    m.name = r.element.name ∧
    chain.findSome? (·.element.addressOffset) = some m.offset ∧
    m.address.toNat = baseAddress.toNat + m.offset.toNat ∧
    m.access = (chain.findSome? (·.element.access)).getD access ∧
    m.width = (chain.findSome? (·.element.width)).getD width ∧
    m.description = chain.findSome? (·.element.description) ∧
    List.Forall₂ (MeansField d m.access)
      ((chain.findSome? RegisterAt.ownFields).elim [] FieldScope.placed) m.fields

/-- `m` is what a peripheral means in a device of the given access and width. -/
def MeansPeripheral (d : Description.Device) (access : Access) (width : UInt32)
    (p : PeripheralAt) (m : Peripheral) : Prop :=
  ∃ chain, (peripheralLinks d).Chain p chain ∧
    m.name = p.element.name ∧
    chain.findSome? (·.element.baseAddress) = some m.baseAddress ∧
    m.access = (chain.findSome? (·.element.access)).getD access ∧
    m.width = (chain.findSome? (·.element.width)).getD width ∧
    m.description = chain.findSome? (·.element.description) ∧
    List.Forall₂ (MeansRegister d m.baseAddress m.access m.width)
      ((chain.findSome? PeripheralAt.ownRegisters).elim [] RegisterScope.placed) m.registers

/-- `m` is what a description means. -/
def Means (d : Description.Device) (m : Device) : Prop :=
  m.name = d.name ∧
  m.description = d.description ∧
  m.access = d.access.getD .unspecified ∧
  m.width = d.width.getD 32 ∧
  List.Forall₂ (MeansPeripheral d m.access m.width) (placedPeripherals d) m.peripherals

/-! ## Steps of the resolution -/

theorem require_eq_ok_iff {α : Type} {kind : ElementKind} {name : String} {lacking : Attribute}
    {value : Option α} {a : α} : require kind name lacking value = .ok a ↔ value = some a := by
  cases value <;> simp [require]

theorem require_eq_error_iff {α : Type} {kind : ElementKind} {name : String} {lacking : Attribute}
    {value : Option α} {e : Error} :
    require kind name lacking value = .error e ↔ value = none ∧ e = .missing kind name lacking := by
  cases value <;> simp [require, eq_comm]

theorem registerAddress_eq_ok_iff {baseAddress offset address : UInt64} :
    registerAddress baseAddress offset = .ok address ↔
      address.toNat = baseAddress.toNat + offset.toNat := by
  rw [registerAddress, ← Checked.addAddress_eq_ok_iff]
  cases Checked.addAddress baseAddress offset <;> simp [Except.mapError]

theorem registerAddress_eq_error_iff {baseAddress offset : UInt64} {e : Error} :
    registerAddress baseAddress offset = .error e ↔
      UInt64.size ≤ baseAddress.toNat + offset.toNat ∧ e = .overflow .add := by
  unfold registerAddress Checked.addAddress
  split
  · next h =>
    simp only [Except.mapError, reduceCtorEq, false_iff, not_and]
    omega
  · next h =>
    simp only [Except.mapError, Except.error.injEq, eq_comm, iff_and_self]
    omega

/-- The registers of the list that a peripheral ends up with are declared. -/
theorem mem_of_registerList {p : PeripheralAt} (hp : p ∈ placedPeripherals d) {r : RegisterAt}
    (hr : r ∈ (registerList d p).elim [] RegisterScope.placed) : r ∈ declaredRegisters d := by
  obtain ⟨scope, hs, hr⟩ := mem_elim_placed.1 hr
  exact mem_declaredRegisters.2 ⟨scope, registerList_declared hp hs, hr⟩

/-- The fields of the list that a register ends up with are declared. -/
theorem mem_of_fieldList {r : RegisterAt} (hr : r ∈ declaredRegisters d) {f : FieldAt}
    (hf : f ∈ (fieldList d r).elim [] FieldScope.placed) : f ∈ declaredFields d := by
  obtain ⟨scope, hs, hf⟩ := mem_elim_placed.1 hf
  exact mem_declaredFields.2 ⟨scope, fieldList_declared hr hs, hf⟩

/-! ## Resolution finds the meaning -/

theorem resolveField_eq_ok_iff {access : Access} {f : FieldAt} (hf : f ∈ declaredFields d)
    {m : Field} : resolveField d access f = .ok m ↔ MeansField d access f m := by
  simp only [resolveField, bind_eq_ok_iff, flattenField_eq_ok_iff hf, require_eq_ok_iff, pure,
    Except.pure, Except.ok.injEq, MeansField]
  constructor
  · rintro ⟨_, ⟨chain, hc, rfl⟩, offset, ho, width, hw, rfl⟩
    exact ⟨chain, hc, rfl, rfl, ho, hw, rfl, rfl⟩
  · rintro ⟨chain, hc, hname, haccess, ho, hw, hdesc, hvalues⟩
    refine ⟨_, ⟨chain, hc, rfl⟩, m.bitOffset, ho, m.bitWidth, hw, ?_⟩
    cases m
    simp_all [FieldAt.along]

theorem resolveRegister_eq_ok_iff {baseAddress : UInt64} {access : Access} {width : UInt32}
    {r : RegisterAt} (hr : r ∈ declaredRegisters d) {m : Register} :
    resolveRegister d baseAddress access width r = .ok m ↔
      MeansRegister d baseAddress access width r m := by
  have hfields (access : Access) (chain : List RegisterAt) (hc : (registerLinks d).Chain r chain)
      (fields : List Field) :
      ((fieldList d r).elim [] FieldScope.placed).mapM (resolveField d access) = .ok fields ↔
        List.Forall₂ (MeansField d access)
          ((chain.findSome? RegisterAt.ownFields).elim [] FieldScope.placed) fields := by
    rw [mapM_eq_ok_iff, ← fieldList_of_chain hr hc]
    exact forall₂_congr_of_mem fun f hf _ => resolveField_eq_ok_iff (mem_of_fieldList hr hf)
  simp only [resolveRegister, bind_eq_ok_iff, flattenRegister_eq_ok_iff hr, require_eq_ok_iff,
    registerAddress_eq_ok_iff, pure, Except.pure, Except.ok.injEq, MeansRegister]
  constructor
  · rintro ⟨_, ⟨chain, hc, rfl⟩, offset, ho, address, ha, fields, hf, rfl⟩
    exact ⟨chain, hc, rfl, ho, ha, rfl, rfl, rfl, (hfields _ chain hc fields).1 hf⟩
  · rintro ⟨chain, hc, hname, ho, ha, haccess, hwidth, hdesc, hf⟩
    refine ⟨_, ⟨chain, hc, rfl⟩, m.offset, ho, m.address, ha, m.fields,
      (hfields _ chain hc m.fields).2 (haccess ▸ hf), ?_⟩
    cases m
    simp_all [RegisterAt.along]

theorem resolvePeripheral_eq_ok_iff {access : Access} {width : UInt32} {p : PeripheralAt}
    (hp : p ∈ placedPeripherals d) {m : Peripheral} :
    resolvePeripheral d access width p = .ok m ↔ MeansPeripheral d access width p m := by
  have hregisters (baseAddress : UInt64) (access : Access) (width : UInt32)
      (chain : List PeripheralAt) (hc : (peripheralLinks d).Chain p chain)
      (registers : List Register) :
      ((registerList d p).elim [] RegisterScope.placed).mapM
          (resolveRegister d baseAddress access width) = .ok registers ↔
        List.Forall₂ (MeansRegister d baseAddress access width)
          ((chain.findSome? PeripheralAt.ownRegisters).elim [] RegisterScope.placed)
          registers := by
    rw [mapM_eq_ok_iff, ← registerList_of_chain hp hc]
    exact forall₂_congr_of_mem fun r hr _ => resolveRegister_eq_ok_iff (mem_of_registerList hp hr)
  simp only [resolvePeripheral, bind_eq_ok_iff, flattenPeripheral_eq_ok_iff hp, require_eq_ok_iff,
    pure, Except.pure, Except.ok.injEq, MeansPeripheral]
  constructor
  · rintro ⟨_, ⟨chain, hc, rfl⟩, baseAddress, hb, registers, hr, rfl⟩
    exact ⟨chain, hc, rfl, hb, rfl, rfl, rfl, (hregisters _ _ _ chain hc registers).1 hr⟩
  · rintro ⟨chain, hc, hname, hb, haccess, hwidth, hdesc, hr⟩
    refine ⟨_, ⟨chain, hc, rfl⟩, m.baseAddress, hb, m.registers,
      (hregisters _ _ _ chain hc m.registers).2 (haccess ▸ hwidth ▸ hr), ?_⟩
    cases m
    simp_all [PeripheralAt.along]

theorem mapM_resolvePeripheral_eq_ok_iff {access : Access} {width : UInt32}
    {peripherals : List Peripheral} :
    (placedPeripherals d).mapM (resolvePeripheral d access width) = .ok peripherals ↔
      List.Forall₂ (MeansPeripheral d access width) (placedPeripherals d) peripherals := by
  rw [mapM_eq_ok_iff]
  exact forall₂_congr_of_mem fun p hp _ => resolvePeripheral_eq_ok_iff hp

/-- A model that is found is what the description means. -/
theorem means_of_resolve {m : Device} (h : resolve d = .ok m) : Means d m := by
  simp only [resolve, bind_eq_ok_iff, mapM_resolvePeripheral_eq_ok_iff, pure, Except.pure,
    Except.ok.injEq] at h
  obtain ⟨peripherals, hp, rfl⟩ := h
  exact ⟨rfl, rfl, rfl, rfl, hp⟩

/-- What a description means is found. -/
theorem resolve_of_means {m : Device} (h : Means d m) : resolve d = .ok m := by
  obtain ⟨hname, hdesc, haccess, hwidth, hp⟩ := h
  simp only [resolve, bind_eq_ok_iff, mapM_resolvePeripheral_eq_ok_iff, pure, Except.pure,
    Except.ok.injEq]
  refine ⟨m.peripherals, haccess ▸ hwidth ▸ hp, ?_⟩
  cases m
  simp_all [defaultWidth]

/-- A description resolves to the model that it means, and to no other. -/
theorem resolve_eq_ok_iff_means (d : Description.Device) (m : Device) :
    resolve d = .ok m ↔ Means d m :=
  ⟨means_of_resolve, resolve_of_means⟩

end RegisterHeaders.Derivation
