import RegisterHeaders.Proofs.Derivation.Place
import RegisterHeaders.Proofs.Steps

/-!
# What an element inherits

Along a derivation chain an attribute has the first value that is set, and an element has the first
list of registers or fields. Flattening an element collects the attributes of its chain
(`flattenPeripheral_eq_ok_iff` and its siblings), and the bounded walks end at the first list of the
chain (`registerList_of_chain`, `fieldList_of_chain`).
-/

namespace RegisterHeaders.Derivation

open Steps

/-! ## Attributes -/

/-- The attributes of a peripheral, each the first that is set along a chain. -/
def PeripheralAt.along (p : PeripheralAt) (chain : List PeripheralAt) : Description.Peripheral :=
  { p.element with
    baseAddress := chain.findSome? (·.element.baseAddress)
    access := chain.findSome? (·.element.access)
    width := chain.findSome? (·.element.width)
    description := chain.findSome? (·.element.description) }

/-- The attributes of a register, each the first that is set along a chain. -/
def RegisterAt.along (r : RegisterAt) (chain : List RegisterAt) : Description.Register :=
  { r.element with
    addressOffset := chain.findSome? (·.element.addressOffset)
    access := chain.findSome? (·.element.access)
    width := chain.findSome? (·.element.width)
    description := chain.findSome? (·.element.description) }

/-- The attributes of a field, each the first that is set along a chain. -/
def FieldAt.along (f : FieldAt) (chain : List FieldAt) : Description.Field :=
  { f.element with
    access := chain.findSome? (·.element.access)
    bitOffset := chain.findSome? (·.element.bitOffset)
    bitWidth := chain.findSome? (·.element.bitWidth)
    description := chain.findSome? (·.element.description)
    enumeratedValues := chain.findSome? (·.element.enumeratedValues) }

theorem foldl_inherit_peripheral (own : Description.Peripheral) (bases : List PeripheralAt) :
    bases.foldl (fun own base => own.inherit base.element) own =
      { own with
        baseAddress := own.baseAddress.or (bases.findSome? (·.element.baseAddress))
        access := own.access.or (bases.findSome? (·.element.access))
        width := own.width.or (bases.findSome? (·.element.width))
        description := own.description.or (bases.findSome? (·.element.description)) } := by
  induction bases generalizing own with
  | nil => simp
  | cons b bases ih =>
    rw [List.foldl_cons, ih]
    simp only [Description.Peripheral.inherit, findSome?_cons_eq_or, Option.or_assoc]

theorem foldl_inherit_register (own : Description.Register) (bases : List RegisterAt) :
    bases.foldl (fun own base => own.inherit base.element) own =
      { own with
        addressOffset := own.addressOffset.or (bases.findSome? (·.element.addressOffset))
        access := own.access.or (bases.findSome? (·.element.access))
        width := own.width.or (bases.findSome? (·.element.width))
        description := own.description.or (bases.findSome? (·.element.description)) } := by
  induction bases generalizing own with
  | nil => simp
  | cons b bases ih =>
    rw [List.foldl_cons, ih]
    simp only [Description.Register.inherit, findSome?_cons_eq_or, Option.or_assoc]

theorem foldl_inherit_field (own : Description.Field) (bases : List FieldAt) :
    bases.foldl (fun own base => own.inherit base.element) own =
      { own with
        access := own.access.or (bases.findSome? (·.element.access))
        bitOffset := own.bitOffset.or (bases.findSome? (·.element.bitOffset))
        bitWidth := own.bitWidth.or (bases.findSome? (·.element.bitWidth))
        description := own.description.or (bases.findSome? (·.element.description))
        enumeratedValues :=
          own.enumeratedValues.or (bases.findSome? (·.element.enumeratedValues)) } := by
  induction bases generalizing own with
  | nil => simp
  | cons b bases ih =>
    rw [List.foldl_cons, ih]
    simp only [Description.Field.inherit, findSome?_cons_eq_or, Option.or_assoc]

section Flatten

variable {d : Description.Device} {e : Error}

theorem flattenPeripheral_eq (p : PeripheralAt) :
    flattenPeripheral d p =
      ((peripheralLinks d).bases d.peripherals.length p).map fun bases => p.along (p :: bases) := by
  unfold flattenPeripheral
  simp only [foldl_inherit_peripheral, PeripheralAt.along, findSome?_cons_eq_or]
  cases (peripheralLinks d).bases d.peripherals.length p <;> rfl

theorem flattenRegister_eq (r : RegisterAt) :
    flattenRegister d r =
      ((registerLinks d).bases d.registerCount r).map fun bases => r.along (r :: bases) := by
  unfold flattenRegister
  simp only [foldl_inherit_register, RegisterAt.along, findSome?_cons_eq_or]
  cases (registerLinks d).bases d.registerCount r <;> rfl

theorem flattenField_eq (f : FieldAt) :
    flattenField d f =
      ((fieldLinks d).bases d.fieldCount f).map fun bases => f.along (f :: bases) := by
  unfold flattenField
  simp only [foldl_inherit_field, FieldAt.along, findSome?_cons_eq_or]
  cases (fieldLinks d).bases d.fieldCount f <;> rfl

/-- Collecting along the bases of an element succeeds exactly if it has a chain. -/
theorem Links.map_bases_eq_ok_iff {α ι ρ : Type} [DecidableEq ι] {links : Links α ι}
    {elements : List α} (hw : links.Within elements) {count : Nat} (hc : elements.length = count)
    {a : α} (ha : a ∈ elements) {collect : List α → ρ} {merged : ρ} :
    ((links.bases count a).map fun bases => collect (a :: bases)) = .ok merged ↔
      ∃ chain, links.Chain a chain ∧ collect chain = merged := by
  constructor
  · intro h
    cases hb : links.bases count a with
    | error e =>
      rw [hb] at h
      cases h
    | ok bases =>
      rw [hb] at h
      exact ⟨a :: bases, (bases_eq_ok_iff hw (Nat.le_of_eq hc) ha).1 hb, Except.ok.inj h⟩
  · rintro ⟨chain, h, rfl⟩
    obtain ⟨bases, rfl⟩ := h.head
    rw [(bases_eq_ok_iff hw (Nat.le_of_eq hc) ha).2 h]
    rfl

theorem Links.map_bases_eq_error_iff {α ι ρ : Type} [DecidableEq ι] {links : Links α ι}
    {elements : List α} (hw : links.Within elements) {count : Nat} (hc : elements.length = count)
    {a : α} (ha : a ∈ elements) {collect : List α → ρ} :
    (links.bases count a).map collect = .error e ↔ links.Failure a e := by
  rw [← bases_eq_error_iff hw (Nat.le_of_eq hc) ha]
  cases links.bases count a <;> simp [Except.map]

theorem flattenPeripheral_eq_ok_iff {p : PeripheralAt} (hp : p ∈ placedPeripherals d)
    {merged : Description.Peripheral} :
    flattenPeripheral d p = .ok merged ↔
      ∃ chain, (peripheralLinks d).Chain p chain ∧ p.along chain = merged := by
  rw [flattenPeripheral_eq]
  exact Links.map_bases_eq_ok_iff (peripheralLinks_within d) (length_placedPeripherals d) hp

theorem flattenRegister_eq_ok_iff {r : RegisterAt} (hr : r ∈ declaredRegisters d)
    {merged : Description.Register} :
    flattenRegister d r = .ok merged ↔
      ∃ chain, (registerLinks d).Chain r chain ∧ r.along chain = merged := by
  rw [flattenRegister_eq]
  exact Links.map_bases_eq_ok_iff (registerLinks_within d) (length_declaredRegisters d) hr

theorem flattenField_eq_ok_iff {f : FieldAt} (hf : f ∈ declaredFields d)
    {merged : Description.Field} :
    flattenField d f = .ok merged ↔
      ∃ chain, (fieldLinks d).Chain f chain ∧ f.along chain = merged := by
  rw [flattenField_eq]
  exact Links.map_bases_eq_ok_iff (fieldLinks_within d) (length_declaredFields d) hf

theorem flattenPeripheral_eq_error_iff {p : PeripheralAt} (hp : p ∈ placedPeripherals d) :
    flattenPeripheral d p = .error e ↔ (peripheralLinks d).Failure p e := by
  rw [flattenPeripheral_eq]
  exact Links.map_bases_eq_error_iff (peripheralLinks_within d) (length_placedPeripherals d) hp

theorem flattenRegister_eq_error_iff {r : RegisterAt} (hr : r ∈ declaredRegisters d) :
    flattenRegister d r = .error e ↔ (registerLinks d).Failure r e := by
  rw [flattenRegister_eq]
  exact Links.map_bases_eq_error_iff (registerLinks_within d) (length_declaredRegisters d) hr

theorem flattenField_eq_error_iff {f : FieldAt} (hf : f ∈ declaredFields d) :
    flattenField d f = .error e ↔ (fieldLinks d).Failure f e := by
  rw [flattenField_eq]
  exact Links.map_bases_eq_error_iff (fieldLinks_within d) (length_declaredFields d) hf

end Flatten

/-! ## Lists of registers and fields -/

/-- What the first element has that has any, among `a` and the next `steps - 1` elements its
references lead to. -/
def Links.firstWithin {α ι β : Type} (links : Links α ι) (own : α → Option β) :
    Nat → α → Option β
  | 0, _ => none
  | steps + 1, a =>
    match own a with
    | some b => some b
    | none => do
      let path ← links.reference a
      let base ← links.find a path
      links.firstWithin own steps base

theorem Links.firstWithin_of_chain {α ι β : Type} {links : Links α ι} {own : α → Option β} {a : α}
    {chain : List α} (h : links.Chain a chain) {steps : Nat} (hs : chain.length ≤ steps) :
    links.firstWithin own steps a = chain.findSome? own := by
  induction h generalizing steps with
  | @last a h =>
    obtain ⟨steps, rfl⟩ : ∃ m, steps = m + 1 := ⟨steps - 1, by simp at hs; omega⟩
    rw [firstWithin, List.findSome?_singleton, h]
    cases own a <;> rfl
  | @link a b chain hn rest ih =>
    obtain ⟨steps, rfl⟩ : ∃ m, steps = m + 1 := ⟨steps - 1, by simp at hs; omega⟩
    obtain ⟨path, hp, hb⟩ := hn
    rw [firstWithin, List.findSome?_cons, hp]
    cases own a with
    | some v => rfl
    | none => simp [hb, ih (by simpa using hs)]

variable {d : Description.Device}

theorem registerListWithin_eq (n : Nat) (p : PeripheralAt) :
    registerListWithin d n p = (peripheralLinks d).firstWithin PeripheralAt.ownRegisters n p := by
  induction n generalizing p with
  | zero => rfl
  | succ n ih =>
    rw [registerListWithin, Links.firstWithin, PeripheralAt.ownRegisters]
    cases p.element.registers with
    | some registers => rfl
    | none => simp only [ih]; rfl

theorem fieldListWithin_eq (n : Nat) (r : RegisterAt) :
    fieldListWithin d n r = (registerLinks d).firstWithin RegisterAt.ownFields n r := by
  induction n generalizing r with
  | zero => rfl
  | succ n ih =>
    rw [fieldListWithin, Links.firstWithin, RegisterAt.ownFields]
    cases r.element.fields with
    | some fields => rfl
    | none => simp only [ih]; rfl

/-- The register list of a peripheral is the first along its chain. -/
theorem registerList_of_chain {p : PeripheralAt} (hp : p ∈ placedPeripherals d)
    {chain : List PeripheralAt} (h : (peripheralLinks d).Chain p chain) :
    registerList d p = chain.findSome? PeripheralAt.ownRegisters := by
  rw [registerList, registerListWithin_eq]
  have hle := h.length_le (peripheralLinks_within d) hp
  rw [length_placedPeripherals] at hle
  exact Links.firstWithin_of_chain h (by omega)

/-- The field list of a register is the first along its chain. -/
theorem fieldList_of_chain {r : RegisterAt} (hr : r ∈ declaredRegisters d)
    {chain : List RegisterAt} (h : (registerLinks d).Chain r chain) :
    fieldList d r = chain.findSome? RegisterAt.ownFields := by
  rw [fieldList, fieldListWithin_eq]
  have hle := h.length_le (registerLinks_within d) hr
  rw [length_declaredRegisters] at hle
  exact Links.firstWithin_of_chain h (by omega)

end RegisterHeaders.Derivation
