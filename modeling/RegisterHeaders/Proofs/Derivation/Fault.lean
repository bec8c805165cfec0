import RegisterHeaders.Proofs.Derivation.Meaning

/-!
# What is wrong with a description

Every element of a description can be judged on its own: its derivation chain ends or fails, and the
chain sets the required attributes or lacks one. `Links.Sound` and `Links.Fault` say so, and
`Faulty` adds the one thing that depends on where a register is used, its address.

The main results: a description resolves exactly if all its declared elements are sound and all
addresses fit (`resolve_succeeds_iff`), so inheriting a list is no other reason to fail. If it does
not resolve, the error is that of the first faulty element in `resolutionOrder`: a peripheral, then
each of its registers, followed by the fields of the register (`resolve_eq_error_iff_firstFault`).
-/

namespace RegisterHeaders.Derivation

open Steps

/-! ## Elements on their own -/

/-- An attribute that an element must have. -/
structure Requirement (α : Type) where
  name : Attribute
  /-- Whether an element sets the attribute itself. -/
  isSet : α → Bool

/-- What a peripheral must have. -/
def peripheralRequirements : List (Requirement PeripheralAt) :=
  [⟨.baseAddress, (·.element.baseAddress.isSome)⟩]

/-- What a register must have. -/
def registerRequirements : List (Requirement RegisterAt) :=
  [⟨.addressOffset, (·.element.addressOffset.isSome)⟩]

/-- What a field must have. -/
def fieldRequirements : List (Requirement FieldAt) :=
  [⟨.bitOffset, (·.element.bitOffset.isSome)⟩, ⟨.bitWidth, (·.element.bitWidth.isSome)⟩]

namespace Links

variable {α ι β : Type} {links : Links α ι} {elements : List α}
  {required : List (Requirement α)} {a : α} {e : Error}

/-- The derivation chain of the element ends, visits no element twice and sets what is required. -/
def Sound (links : Links α ι) (required : List (Requirement α)) (a : α) : Prop :=
  ∃ chain, links.Chain a chain ∧ (chain.map links.place).Nodup ∧
    ∀ x ∈ required, ∃ b ∈ chain, x.isSet b

/-- `e` tells that no element of the chain of `a` sets the attribute. -/
def Lacks (links : Links α ι) (a : α) (chain : List α) (x : Requirement α) (e : Error) : Prop :=
  (∀ b ∈ chain, ¬ x.isSet b) ∧ e = .missing links.kind (links.name a) x.name

/-- What is wrong with an element on its own. -/
inductive Fault (links : Links α ι) (required : List (Requirement α)) (a : α) : Error → Prop
  /-- The chain does not end. -/
  | derivation {e : Error} (h : links.Failure a e) : Fault links required a e
  /-- The chain ends, and `e` names the first required attribute that it lacks. -/
  | missing {chain : List α} {e : Error} (h : links.Chain a chain)
      (lacks : FirstFault (links.Lacks a chain) required e) : Fault links required a e

/-- An element has either a chain or a failure. -/
theorem chain_xor_failure (hw : links.Within elements) (ha : a ∈ elements) :
    ((∃ chain, links.Chain a chain) ∧ ∀ e, ¬ links.Failure a e) ∨
      ((∃ e, links.Failure a e) ∧ ∀ chain, ¬ links.Chain a chain) := by
  classical
  rcases h : links.bases elements.length a with e | bases
  · refine Or.inr ⟨⟨e, (bases_eq_error_iff hw (Nat.le_refl _) ha).1 h⟩, fun chain hc => ?_⟩
    obtain ⟨bases, rfl⟩ := hc.head
    rw [(bases_eq_ok_iff hw (Nat.le_refl _) ha).2 hc] at h
    cases h
  · refine Or.inl ⟨⟨_, (bases_eq_ok_iff hw (Nat.le_refl _) ha).1 h⟩, fun e hf => ?_⟩
    rw [(bases_eq_error_iff hw (Nat.le_refl _) ha).2 hf] at h
    cases h

theorem forall_not_lacks_iff {chain : List α} {x : Requirement α} :
    (∀ e, ¬ links.Lacks a chain x e) ↔ ∃ b ∈ chain, x.isSet b := by
  simp [Lacks]

theorem sound_iff (hw : links.Within elements) (ha : a ∈ elements) :
    links.Sound required a ↔ ∀ e, ¬ links.Fault required a e := by
  constructor
  · rintro ⟨chain, hc, -, hset⟩ e (hf | ⟨hc', hlacks⟩)
    · rcases chain_xor_failure hw ha with ⟨-, h⟩ | ⟨-, h⟩
      · exact h e hf
      · exact h chain hc
    · obtain rfl := hc.unique hc'
      exact not_firstFault_iff.2 (fun x hx => forall_not_lacks_iff.2 (hset x hx)) e hlacks
  · intro h
    rcases chain_xor_failure hw ha with ⟨⟨chain, hc⟩, -⟩ | ⟨⟨e, hf⟩, -⟩
    · have hset := not_firstFault_iff.1 fun e hlacks => h e (.missing hc hlacks)
      exact ⟨chain, hc, hc.nodup hw ha, fun x hx => forall_not_lacks_iff.1 (hset x hx)⟩
    · exact absurd (.derivation hf) (h e)

/-- The first error of an element and what follows it: the element is at fault, or is not and what
follows has the error. -/
theorem fault_or_iff (hw : links.Within elements) (ha : a ∈ elements)
    (required : List (Requirement α)) (e : Error) (rest : Prop) :
    (links.Fault required a e ∨ (∀ e', ¬ links.Fault required a e') ∧ rest) ↔
      links.Failure a e ∨ ∃ chain, links.Chain a chain ∧
        (FirstFault (links.Lacks a chain) required e ∨
          (∀ x ∈ required, ∃ b ∈ chain, x.isSet b) ∧ rest) := by
  rw [← sound_iff hw ha]
  constructor
  · rintro ((hf | ⟨hc, hlacks⟩) | ⟨⟨chain, hc, -, hset⟩, hrest⟩)
    · exact Or.inl hf
    · exact Or.inr ⟨_, hc, Or.inl hlacks⟩
    · exact Or.inr ⟨chain, hc, Or.inr ⟨hset, hrest⟩⟩
  · rintro (hf | ⟨chain, hc, hlacks | ⟨hset, hrest⟩⟩)
    · exact Or.inl (.derivation hf)
    · exact Or.inl (.missing hc hlacks)
    · exact Or.inr ⟨⟨chain, hc, hc.nodup hw ha, hset⟩, hrest⟩

/-- An attribute that no element of a chain sets has no first value along it. -/
theorem lacks_iff {get : α → Option β} {name : Attribute} {chain : List α} :
    links.Lacks a chain ⟨name, fun b => (get b).isSome⟩ e ↔
      chain.findSome? get = none ∧ e = .missing links.kind (links.name a) name := by
  simp [Lacks, List.findSome?_eq_none_iff]

theorem exists_isSet_iff {get : α → Option β} {chain : List α} :
    (∃ b ∈ chain, (get b).isSome) ↔ ∃ value, chain.findSome? get = some value := by
  rw [← Option.isSome_iff_exists, List.findSome?_isSome_iff]

end Links

/-! ## Elements in the order of their resolution -/

variable {d : Description.Device} {e : Error}

/-- An element that is resolved; a register is resolved once in every peripheral that ends up with
it. -/
inductive Resolved where
  | peripheral (p : PeripheralAt)
  | register (p : PeripheralAt) (r : RegisterAt)
  | field (f : FieldAt)

/-- A register of the list that a peripheral ends up with, followed by its fields. -/
def registerOrder (d : Description.Device) (p : PeripheralAt) (r : RegisterAt) : List Resolved :=
  .register p r :: ((fieldList d r).elim [] FieldScope.placed).map .field

/-- A peripheral, followed by the registers of the list that it ends up with. -/
def peripheralOrder (d : Description.Device) (p : PeripheralAt) : List Resolved :=
  .peripheral p :: ((registerList d p).elim [] RegisterScope.placed).flatMap (registerOrder d p)

/-- The elements of a device in the order of their resolution. -/
def resolutionOrder (d : Description.Device) : List Resolved :=
  (placedPeripherals d).flatMap (peripheralOrder d)

/-- The base address that a peripheral ends up with and the offset of a register do not fit. -/
def Overflows (d : Description.Device) (p : PeripheralAt) (r : RegisterAt) : Prop :=
  ∃ bases chain baseAddress offset,
    (peripheralLinks d).Chain p bases ∧ (registerLinks d).Chain r chain ∧
    bases.findSome? (·.element.baseAddress) = some baseAddress ∧
    chain.findSome? (·.element.addressOffset) = some offset ∧
    UInt64.size ≤ baseAddress.toNat + offset.toNat

/-- What is wrong with an element where it is resolved. -/
inductive Faulty (d : Description.Device) : Resolved → Error → Prop
  | peripheral {p : PeripheralAt} {e : Error}
      (h : (peripheralLinks d).Fault peripheralRequirements p e) : Faulty d (.peripheral p) e
  | register {p : PeripheralAt} {r : RegisterAt} {e : Error}
      (h : (registerLinks d).Fault registerRequirements r e) : Faulty d (.register p r) e
  | address {p : PeripheralAt} {r : RegisterAt} (h : Overflows d p r) :
      Faulty d (.register p r) (.overflow .add)
  | field {f : FieldAt} {e : Error}
      (h : (fieldLinks d).Fault fieldRequirements f e) : Faulty d (.field f) e

theorem faulty_peripheral_iff {p : PeripheralAt} :
    Faulty d (.peripheral p) e ↔ (peripheralLinks d).Fault peripheralRequirements p e := by
  refine ⟨fun h => ?_, .peripheral⟩
  cases h with
  | peripheral h => exact h

theorem faulty_register_iff {p : PeripheralAt} {r : RegisterAt} :
    Faulty d (.register p r) e ↔
      (registerLinks d).Fault registerRequirements r e ∨ Overflows d p r ∧ e = .overflow .add := by
  constructor
  · intro h
    cases h with
    | register h => exact Or.inl h
    | address h => exact Or.inr ⟨h, rfl⟩
  · rintro (h | ⟨h, rfl⟩)
    · exact .register h
    · exact .address h

theorem faulty_field_iff {f : FieldAt} :
    Faulty d (.field f) e ↔ (fieldLinks d).Fault fieldRequirements f e := by
  refine ⟨fun h => ?_, .field⟩
  cases h with
  | field h => exact h

/-- Along given chains the address of a register is decided by their first values. -/
theorem overflows_iff {p : PeripheralAt} {r : RegisterAt} {bases : List PeripheralAt}
    {chain : List RegisterAt} {baseAddress offset : UInt64}
    (hp : (peripheralLinks d).Chain p bases) (hr : (registerLinks d).Chain r chain)
    (hb : bases.findSome? (·.element.baseAddress) = some baseAddress)
    (ho : chain.findSome? (·.element.addressOffset) = some offset) :
    Overflows d p r ↔ UInt64.size ≤ baseAddress.toNat + offset.toNat := by
  constructor
  · rintro ⟨bases', chain', baseAddress', offset', hp', hr', hb', ho', h⟩
    obtain rfl := hp.unique hp'
    obtain rfl := hr.unique hr'
    obtain rfl := Option.some.inj (hb.symm.trans hb')
    obtain rfl := Option.some.inj (ho.symm.trans ho')
    exact h
  · exact fun h => ⟨bases, chain, baseAddress, offset, hp, hr, hb, ho, h⟩

/-- A register whose address can be computed is not at fault itself. -/
theorem Overflows.not_fault {p : PeripheralAt} {r : RegisterAt} (hr : r ∈ declaredRegisters d)
    (h : Overflows d p r) : ∀ e, ¬ (registerLinks d).Fault registerRequirements r e := by
  obtain ⟨bases, chain, baseAddress, offset, hp, hc, hb, ho, hle⟩ := h
  refine (Links.sound_iff (registerLinks_within d) hr).1
    ⟨chain, hc, hc.nodup (registerLinks_within d) hr, ?_⟩
  simp only [registerRequirements, List.forall_mem_singleton, Links.exists_isSet_iff]
  exact ⟨offset, ho⟩

theorem exists_toNat_eq_iff {n : Nat} : (∃ a : UInt64, a.toNat = n) ↔ ¬ UInt64.size ≤ n := by
  constructor
  · rintro ⟨a, rfl⟩
    exact Nat.not_le_of_lt a.toNat_lt
  · exact fun h => ⟨UInt64.ofNat n, UInt64.toNat_ofNat_of_lt' (Nat.lt_of_not_le h)⟩

/-! ## The first error -/

theorem resolveField_eq_error_iff {access : Access} {f : FieldAt} (hf : f ∈ declaredFields d) :
    resolveField d access f = .error e ↔ Faulty d (.field f) e := by
  have hfault := Links.fault_or_iff (fieldLinks_within d) hf fieldRequirements e False
  rw [and_false, or_false] at hfault
  rw [faulty_field_iff, hfault]
  simp only [resolveField, bind_eq_error_iff, flattenField_eq_error_iff hf,
    flattenField_eq_ok_iff hf, exists_exists_and_eq_and, require_eq_error_iff, require_eq_ok_iff,
    pure, Except.pure, reduceCtorEq, and_false, exists_false, or_false]
  simp only [fieldRequirements, firstFault_cons, firstFault_nil, Links.forall_not_lacks_iff,
    Links.exists_isSet_iff, and_false, or_false]
  simp only [Links.lacks_iff, exists_and_right]
  rfl

theorem firstFault_registerOrder_iff {p : PeripheralAt} {r : RegisterAt}
    (hr : r ∈ declaredRegisters d) {rest : Prop}
    (hrest : FirstFault (Faulty d)
      (((fieldList d r).elim [] FieldScope.placed).map .field) e ↔ rest) :
    FirstFault (Faulty d) (registerOrder d p r) e ↔
      (registerLinks d).Fault registerRequirements r e ∨
        (∀ e', ¬ (registerLinks d).Fault registerRequirements r e') ∧
          (Overflows d p r ∧ e = .overflow .add ∨ ¬ Overflows d p r ∧ rest) := by
  rw [registerOrder, firstFault_cons, hrest]
  simp only [faulty_register_iff]
  by_cases h : Overflows d p r
  · have := h.not_fault hr
    simp [h, this]
  · simp [h]

theorem resolveRegister_eq_error_iff {p : PeripheralAt} {bases : List PeripheralAt}
    {baseAddress : UInt64} (hp : (peripheralLinks d).Chain p bases)
    (hb : bases.findSome? (·.element.baseAddress) = some baseAddress) {access : Access}
    {width : UInt32} {r : RegisterAt} (hr : r ∈ declaredRegisters d) :
    resolveRegister d baseAddress access width r = .error e ↔
      FirstFault (Faulty d) (registerOrder d p r) e := by
  have hfields (access : Access) :
      ((fieldList d r).elim [] FieldScope.placed).mapM (resolveField d access) = .error e ↔
        FirstFault (Faulty d) (((fieldList d r).elim [] FieldScope.placed).map .field) e := by
    rw [mapM_eq_error_iff, firstFault_map]
    exact firstFault_congr fun f hf _ => resolveField_eq_error_iff (mem_of_fieldList hr hf)
  rw [firstFault_registerOrder_iff hr Iff.rfl,
    Links.fault_or_iff (registerLinks_within d) hr registerRequirements e]
  simp only [resolveRegister, bind_eq_error_iff, flattenRegister_eq_error_iff hr,
    flattenRegister_eq_ok_iff hr, exists_exists_and_eq_and, require_eq_error_iff,
    require_eq_ok_iff, registerAddress_eq_error_iff, registerAddress_eq_ok_iff, hfields,
    pure, Except.pure, reduceCtorEq, and_false, exists_false, or_false]
  simp only [registerRequirements, firstFault_cons, firstFault_nil, List.forall_mem_singleton,
    Links.exists_isSet_iff, Links.lacks_iff, and_false, or_false, ← exists_and_right]
  refine or_congr Iff.rfl (exists_congr fun chain => and_congr_right fun hc => or_congr Iff.rfl
    (exists_congr fun offset => and_congr_right fun ho => ?_))
  rw [overflows_iff hp hc hb ho, exists_and_right, exists_toNat_eq_iff]

theorem resolvePeripheral_eq_error_iff {access : Access} {width : UInt32} {p : PeripheralAt}
    (hp : p ∈ placedPeripherals d) :
    resolvePeripheral d access width p = .error e ↔
      FirstFault (Faulty d) (peripheralOrder d p) e := by
  rw [peripheralOrder, firstFault_cons, firstFault_flatMap]
  simp only [faulty_peripheral_iff]
  rw [Links.fault_or_iff (peripheralLinks_within d) hp peripheralRequirements e]
  simp only [resolvePeripheral, bind_eq_error_iff, flattenPeripheral_eq_error_iff hp,
    flattenPeripheral_eq_ok_iff hp, exists_exists_and_eq_and, require_eq_error_iff,
    require_eq_ok_iff, mapM_eq_error_iff, pure, Except.pure, reduceCtorEq, and_false, exists_false,
    or_false]
  simp only [peripheralRequirements, firstFault_cons, firstFault_nil, List.forall_mem_singleton,
    Links.exists_isSet_iff, Links.lacks_iff, and_false, or_false, ← exists_and_right]
  refine or_congr Iff.rfl (exists_congr fun chain => and_congr_right fun hc => or_congr Iff.rfl
    (exists_congr fun baseAddress => and_congr_right fun hb => ?_))
  exact firstFault_congr fun r hr _ =>
    resolveRegister_eq_error_iff hc hb (mem_of_registerList hp hr)

theorem resolve_eq_error_iff_firstFault :
    resolve d = .error e ↔ FirstFault (Faulty d) (resolutionOrder d) e := by
  rw [resolutionOrder, firstFault_flatMap]
  simp only [resolve, bind_eq_error_iff, mapM_eq_error_iff, pure, Except.pure, reduceCtorEq,
    and_false, exists_false, or_false]
  exact firstFault_congr fun p hp _ => resolvePeripheral_eq_error_iff hp

/-! ## Success -/

/-- All declared elements are sound, and the addresses of all registers fit wherever they end up. -/
structure AllSound (d : Description.Device) : Prop where
  peripherals : ∀ p ∈ placedPeripherals d, (peripheralLinks d).Sound peripheralRequirements p
  registers : ∀ r ∈ declaredRegisters d, (registerLinks d).Sound registerRequirements r
  fields : ∀ f ∈ declaredFields d, (fieldLinks d).Sound fieldRequirements f
  addresses : ∀ p ∈ placedPeripherals d, ∀ bases, (peripheralLinks d).Chain p bases →
    ∀ baseAddress, bases.findSome? (·.element.baseAddress) = some baseAddress →
    ∀ r ∈ (bases.findSome? PeripheralAt.ownRegisters).elim [] RegisterScope.placed,
    ∀ chain, (registerLinks d).Chain r chain →
    ∀ offset, chain.findSome? (·.element.addressOffset) = some offset →
      baseAddress.toNat + offset.toNat < UInt64.size

theorem registerList_of_own {p : PeripheralAt} {scope : RegisterScope}
    (h : p.ownRegisters = some scope) : registerList d p = some scope := by
  rw [registerList, registerListWithin_eq, Links.firstWithin, h]

theorem fieldList_of_own {r : RegisterAt} {scope : FieldScope} (h : r.ownFields = some scope) :
    fieldList d r = some scope := by
  rw [fieldList, fieldListWithin_eq, Links.firstWithin, h]

theorem peripheral_mem_resolutionOrder {p : PeripheralAt} :
    .peripheral p ∈ resolutionOrder d ↔ p ∈ placedPeripherals d := by
  simp [resolutionOrder, peripheralOrder, registerOrder]

theorem register_mem_resolutionOrder {p : PeripheralAt} {r : RegisterAt} :
    .register p r ∈ resolutionOrder d ↔
      p ∈ placedPeripherals d ∧ r ∈ (registerList d p).elim [] RegisterScope.placed := by
  simp [resolutionOrder, peripheralOrder, registerOrder]

theorem field_mem_resolutionOrder {f : FieldAt} :
    .field f ∈ resolutionOrder d ↔
      ∃ p ∈ placedPeripherals d, ∃ r ∈ (registerList d p).elim [] RegisterScope.placed,
        f ∈ (fieldList d r).elim [] FieldScope.placed := by
  simp [resolutionOrder, peripheralOrder, registerOrder]

/-- Every declared register is resolved in the peripheral that declares it. -/
theorem exists_register_mem_resolutionOrder {r : RegisterAt} (hr : r ∈ declaredRegisters d) :
    ∃ p, .register p r ∈ resolutionOrder d := by
  obtain ⟨scope, ⟨p, hp, hs⟩, hr⟩ := mem_declaredRegisters.1 hr
  refine ⟨p, register_mem_resolutionOrder.2 ⟨hp, ?_⟩⟩
  rw [registerList_of_own hs]
  exact hr

/-- Every declared field is resolved in the register that declares it. -/
theorem declaredField_mem_resolutionOrder {f : FieldAt} (hf : f ∈ declaredFields d) :
    .field f ∈ resolutionOrder d := by
  obtain ⟨scope, ⟨r, hr, hs⟩, hf⟩ := mem_declaredFields.1 hf
  obtain ⟨p, hpr⟩ := exists_register_mem_resolutionOrder hr
  obtain ⟨hp, hr⟩ := register_mem_resolutionOrder.1 hpr
  refine field_mem_resolutionOrder.2 ⟨p, hp, r, hr, ?_⟩
  rw [fieldList_of_own hs]
  exact hf

theorem allSound_of_not_faulty (h : ∀ x ∈ resolutionOrder d, ∀ e, ¬ Faulty d x e) : AllSound d := by
  refine ⟨fun p hp => ?_, fun r hr => ?_, fun f hf => ?_, ?_⟩
  · rw [Links.sound_iff (peripheralLinks_within d) hp]
    exact fun e hfault => h _ (peripheral_mem_resolutionOrder.2 hp) e (.peripheral hfault)
  · obtain ⟨p, hpr⟩ := exists_register_mem_resolutionOrder hr
    rw [Links.sound_iff (registerLinks_within d) hr]
    exact fun e hfault => h _ hpr e (.register hfault)
  · rw [Links.sound_iff (fieldLinks_within d) hf]
    exact fun e hfault => h _ (declaredField_mem_resolutionOrder hf) e (.field hfault)
  · intro p hp bases hc baseAddress hb r hr chain hc' offset ho
    rw [← registerList_of_chain hp hc] at hr
    have hnot := h _ (register_mem_resolutionOrder.2 ⟨hp, hr⟩) (.overflow .add)
    refine Nat.lt_of_not_le fun hle => hnot (.address ?_)
    exact ⟨bases, chain, baseAddress, offset, hc, hc', hb, ho, hle⟩

theorem AllSound.not_faulty (h : AllSound d) {x : Resolved} (hx : x ∈ resolutionOrder d) :
    ¬ Faulty d x e := by
  intro hfaulty
  cases hfaulty with
  | @peripheral p e hfault =>
    have hp := peripheral_mem_resolutionOrder.1 hx
    exact (Links.sound_iff (peripheralLinks_within d) hp).1 (h.peripherals p hp) e hfault
  | @register p r e hfault =>
    obtain ⟨hp, hr⟩ := register_mem_resolutionOrder.1 hx
    have hr := mem_of_registerList hp hr
    exact (Links.sound_iff (registerLinks_within d) hr).1 (h.registers r hr) e hfault
  | @address p r hoverflow =>
    obtain ⟨hp, hr⟩ := register_mem_resolutionOrder.1 hx
    obtain ⟨bases, chain, baseAddress, offset, hc, hc', hb, ho, hle⟩ := hoverflow
    rw [registerList_of_chain hp hc] at hr
    have := h.addresses p hp bases hc baseAddress hb r hr chain hc' offset ho
    omega
  | @field f e hfault =>
    obtain ⟨p, hp, r, hr, hf⟩ := field_mem_resolutionOrder.1 hx
    have hf := mem_of_fieldList (mem_of_registerList hp hr) hf
    exact (Links.sound_iff (fieldLinks_within d) hf).1 (h.fields f hf) e hfault

theorem resolve_succeeds_iff : (∃ m, resolve d = .ok m) ↔ AllSound d := by
  rw [exists_ok_iff]
  have hnone : (∀ e, resolve d ≠ .error e) ↔ ∀ x ∈ resolutionOrder d, ∀ e, ¬ Faulty d x e := by
    rw [← not_firstFault_iff]
    exact forall_congr' fun e => not_congr resolve_eq_error_iff_firstFault
  rw [hnone]
  exact ⟨allSound_of_not_faulty, fun h x hx e => h.not_faulty hx⟩

/-- A description resolves exactly if its declared elements are sound and its addresses fit, and
otherwise the error is that of the first faulty element. Apart from addresses that do not fit, an
error is the fault that a declared element has on its own. -/
theorem resolve_outcome (d : Description.Device) :
    ((∃ m, resolve d = .ok m) ↔ AllSound d) ∧
    (∀ e, resolve d = .error e ↔ FirstFault (Faulty d) (resolutionOrder d) e) ∧
    (∀ e, resolve d = .error e → e = .overflow .add ∨
      (∃ p ∈ placedPeripherals d, (peripheralLinks d).Fault peripheralRequirements p e) ∨
      (∃ r ∈ declaredRegisters d, (registerLinks d).Fault registerRequirements r e) ∨
      ∃ f ∈ declaredFields d, (fieldLinks d).Fault fieldRequirements f e) := by
  refine ⟨resolve_succeeds_iff, fun e => resolve_eq_error_iff_firstFault, fun e h => ?_⟩
  obtain ⟨before, x, after, horder, -, hfaulty⟩ := resolve_eq_error_iff_firstFault.1 h
  have hx : x ∈ resolutionOrder d := by
    rw [horder]
    exact List.mem_append_right before List.mem_cons_self
  cases hfaulty with
  | peripheral hfault =>
    exact Or.inr (Or.inl ⟨_, peripheral_mem_resolutionOrder.1 hx, hfault⟩)
  | register hfault =>
    obtain ⟨hp, hr⟩ := register_mem_resolutionOrder.1 hx
    exact Or.inr (Or.inr (Or.inl ⟨_, mem_of_registerList hp hr, hfault⟩))
  | address => exact Or.inl rfl
  | field hfault =>
    obtain ⟨p, hp, r, hr, hf⟩ := field_mem_resolutionOrder.1 hx
    exact Or.inr (Or.inr (Or.inr ⟨_, mem_of_fieldList (mem_of_registerList hp hr) hf, hfault⟩))

end RegisterHeaders.Derivation
