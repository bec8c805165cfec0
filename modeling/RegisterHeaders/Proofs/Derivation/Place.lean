import RegisterHeaders.Proofs.Derivation.Trail

/-!
# The elements that a device declares

`placedPeripherals`, `declaredRegisters` and `declaredFields` list the elements of a device in
document order, each at its place. References between them stay among them, and the place of an
element tells which one it is: the links of peripherals, registers and fields are `Within` these
lists. The counts that bound the resolver's walks are the lengths of the lists.
-/

namespace RegisterHeaders.Derivation

variable {d : Description.Device}

/-- The register list that a peripheral declares itself. -/
def PeripheralAt.ownRegisters (p : PeripheralAt) : Option RegisterScope :=
  p.element.registers.map (RegisterScope.mk p.index)

/-- The field list that a register declares itself. -/
def RegisterAt.ownFields (r : RegisterAt) : Option FieldScope :=
  r.element.fields.map (FieldScope.mk r.scope r.index)

/-- The registers of all declared register lists. -/
def declaredRegisters (d : Description.Device) : List RegisterAt :=
  (placedPeripherals d).flatMap fun p => p.ownRegisters.elim [] RegisterScope.placed

/-- The fields of all declared field lists. -/
def declaredFields (d : Description.Device) : List FieldAt :=
  (declaredRegisters d).flatMap fun r => r.ownFields.elim [] FieldScope.placed

/-- Some peripheral of the device declares the register list. -/
def RegisterScope.Declared (d : Description.Device) (scope : RegisterScope) : Prop :=
  ∃ p ∈ placedPeripherals d, p.ownRegisters = some scope

/-- Some register of the device declares the field list. -/
def FieldScope.Declared (d : Description.Device) (scope : FieldScope) : Prop :=
  ∃ r ∈ declaredRegisters d, r.ownFields = some scope

/-! ## Membership -/

theorem mem_placedPeripherals {p : PeripheralAt} :
    p ∈ placedPeripherals d ↔ d.peripherals[p.index]? = some p.element := by
  obtain ⟨i, p⟩ := p
  simp [placedPeripherals, List.mem_zipIdx_iff_getElem?]

theorem RegisterScope.mem_placed {scope : RegisterScope} {r : RegisterAt} :
    r ∈ scope.placed ↔ r.scope = scope ∧ scope.registers[r.index]? = some r.element := by
  obtain ⟨s, i, r⟩ := r
  simp only [placed, List.mem_map, Prod.exists, List.mem_zipIdx_iff_getElem?]
  constructor
  · rintro ⟨r', i', h, heq⟩
    cases heq
    exact ⟨rfl, h⟩
  · rintro ⟨rfl, h⟩
    exact ⟨r, i, h, rfl⟩

theorem FieldScope.mem_placed {scope : FieldScope} {f : FieldAt} :
    f ∈ scope.placed ↔ f.scope = scope ∧ scope.fields[f.index]? = some f.element := by
  obtain ⟨s, i, f⟩ := f
  simp only [placed, List.mem_map, Prod.exists, List.mem_zipIdx_iff_getElem?]
  constructor
  · rintro ⟨f', i', h, heq⟩
    cases heq
    exact ⟨rfl, h⟩
  · rintro ⟨rfl, h⟩
    exact ⟨f, i, h, rfl⟩

theorem mem_elim_placed {α β : Type} {o : Option α} {g : α → List β} {b : β} :
    b ∈ o.elim [] g ↔ ∃ a, o = some a ∧ b ∈ g a := by
  cases o <;> simp

theorem mem_declaredRegisters {r : RegisterAt} :
    r ∈ declaredRegisters d ↔ ∃ scope : RegisterScope, scope.Declared d ∧ r ∈ scope.placed := by
  simp only [declaredRegisters, List.mem_flatMap, mem_elim_placed, RegisterScope.Declared]
  constructor
  · rintro ⟨p, hp, scope, hs, hr⟩
    exact ⟨scope, ⟨p, hp, hs⟩, hr⟩
  · rintro ⟨scope, ⟨p, hp, hs⟩, hr⟩
    exact ⟨p, hp, scope, hs, hr⟩

theorem mem_declaredFields {f : FieldAt} :
    f ∈ declaredFields d ↔ ∃ scope : FieldScope, scope.Declared d ∧ f ∈ scope.placed := by
  simp only [declaredFields, List.mem_flatMap, mem_elim_placed, FieldScope.Declared]
  constructor
  · rintro ⟨r, hr, scope, hs, hf⟩
    exact ⟨scope, ⟨r, hr, hs⟩, hf⟩
  · rintro ⟨scope, ⟨r, hr, hs⟩, hf⟩
    exact ⟨r, hr, scope, hs, hf⟩

theorem scope_declared_of_mem {r : RegisterAt} (h : r ∈ declaredRegisters d) :
    r.scope.Declared d ∧ r ∈ r.scope.placed := by
  obtain ⟨scope, hs, hr⟩ := mem_declaredRegisters.1 h
  obtain rfl := (RegisterScope.mem_placed.1 hr).1
  exact ⟨hs, hr⟩

theorem fieldScope_declared_of_mem {f : FieldAt} (h : f ∈ declaredFields d) :
    f.scope.Declared d ∧ f ∈ f.scope.placed := by
  obtain ⟨scope, hs, hf⟩ := mem_declaredFields.1 h
  obtain rfl := (FieldScope.mem_placed.1 hf).1
  exact ⟨hs, hf⟩

/-- The register list around a declared field list is declared as well. -/
theorem FieldScope.Declared.registers {scope : FieldScope} (h : scope.Declared d) :
    scope.registers.Declared d := by
  obtain ⟨r, hr, hs⟩ := h
  obtain ⟨fields, -, rfl⟩ := Option.map_eq_some_iff.1 hs
  exact (scope_declared_of_mem hr).1

/-! ## Places -/

theorem peripheral_eq_of_index {p q : PeripheralAt} (hp : p ∈ placedPeripherals d)
    (hq : q ∈ placedPeripherals d) (h : p.index = q.index) : p = q := by
  rw [mem_placedPeripherals] at hp hq
  rw [h, hq] at hp
  cases p
  cases q
  cases h
  cases hp
  rfl

theorem scope_eq_of_peripheral {s t : RegisterScope} (hs : s.Declared d) (ht : t.Declared d)
    (h : s.peripheral = t.peripheral) : s = t := by
  obtain ⟨p, hp, hps⟩ := hs
  obtain ⟨q, hq, hqt⟩ := ht
  have hpi : p.index = s.peripheral := by
    obtain ⟨_, -, rfl⟩ := Option.map_eq_some_iff.1 hps
    rfl
  have hqi : q.index = t.peripheral := by
    obtain ⟨_, -, rfl⟩ := Option.map_eq_some_iff.1 hqt
    rfl
  obtain rfl := peripheral_eq_of_index hp hq (hpi.trans (h.trans hqi.symm))
  exact Option.some.inj (hps.symm.trans hqt)

theorem register_eq_of_place {r s : RegisterAt} (hr : r ∈ declaredRegisters d)
    (hs : s ∈ declaredRegisters d) (h : r.place = s.place) : r = s := by
  obtain ⟨hrd, hr⟩ := scope_declared_of_mem hr
  obtain ⟨hsd, hs⟩ := scope_declared_of_mem hs
  obtain ⟨hp, hi⟩ := Prod.mk.inj h
  have hscope := scope_eq_of_peripheral hrd hsd hp
  have hrel := (RegisterScope.mem_placed.1 hr).2
  rw [hscope, hi, (RegisterScope.mem_placed.1 hs).2] at hrel
  cases r
  cases s
  cases hscope
  cases hi
  cases hrel
  rfl

theorem fieldScope_eq_of_register {s t : FieldScope} (hs : s.Declared d) (ht : t.Declared d)
    (hp : s.registers.peripheral = t.registers.peripheral) (hr : s.register = t.register) :
    s = t := by
  obtain ⟨q, hq, hqs⟩ := hs
  obtain ⟨r, hr', hrt⟩ := ht
  have hqp : q.place = (s.registers.peripheral, s.register) := by
    obtain ⟨_, -, rfl⟩ := Option.map_eq_some_iff.1 hqs
    rfl
  have hrp : r.place = (t.registers.peripheral, t.register) := by
    obtain ⟨_, -, rfl⟩ := Option.map_eq_some_iff.1 hrt
    rfl
  obtain rfl := register_eq_of_place hq hr' (by rw [hqp, hrp, hp, hr])
  exact Option.some.inj (hqs.symm.trans hrt)

theorem field_eq_of_place {f g : FieldAt} (hf : f ∈ declaredFields d) (hg : g ∈ declaredFields d)
    (h : f.place = g.place) : f = g := by
  obtain ⟨hfd, hf⟩ := fieldScope_declared_of_mem hf
  obtain ⟨hgd, hg⟩ := fieldScope_declared_of_mem hg
  obtain ⟨hp, hri⟩ := Prod.mk.inj h
  obtain ⟨hr, hi⟩ := Prod.mk.inj hri
  have hscope := fieldScope_eq_of_register hfd hgd hp hr
  have hfel := (FieldScope.mem_placed.1 hf).2
  rw [hscope, hi, (FieldScope.mem_placed.1 hg).2] at hfel
  cases f
  cases g
  cases hscope
  cases hi
  cases hfel
  rfl

/-! ## References -/

theorem mem_of_findPeripheral {name : String} {p : PeripheralAt}
    (h : findPeripheral d name = some p) : p ∈ placedPeripherals d :=
  List.mem_of_find?_eq_some h

theorem mem_of_findRegister {scope : RegisterScope} {name : String} {r : RegisterAt}
    (h : findRegister scope name = some r) : r ∈ scope.placed :=
  List.mem_of_find?_eq_some h

theorem mem_of_findField {scope : FieldScope} {name : String} {f : FieldAt}
    (h : findField scope name = some f) : f ∈ scope.placed :=
  List.mem_of_find?_eq_some h

theorem registerListWithin_declared {n : Nat} {p : PeripheralAt} {scope : RegisterScope}
    (hp : p ∈ placedPeripherals d) (h : registerListWithin d n p = some scope) :
    scope.Declared d := by
  induction n generalizing p with
  | zero => cases h
  | succ n ih =>
    rw [registerListWithin] at h
    split at h
    · next registers hr => exact ⟨p, hp, by rw [← h, PeripheralAt.ownRegisters, hr]; rfl⟩
    · obtain ⟨name, -, h⟩ := Option.bind_eq_some_iff.1 h
      obtain ⟨base, hb, h⟩ := Option.bind_eq_some_iff.1 h
      exact ih (mem_of_findPeripheral hb) h

theorem registerList_declared {p : PeripheralAt} {scope : RegisterScope}
    (hp : p ∈ placedPeripherals d) (h : registerList d p = some scope) : scope.Declared d :=
  registerListWithin_declared hp h

theorem mem_of_lookupRegister {scope : RegisterScope} {path : String} {r : RegisterAt}
    (hs : scope.Declared d) (h : lookupRegister d scope path = some r) :
    r ∈ declaredRegisters d := by
  unfold lookupRegister at h
  split at h
  · exact mem_declaredRegisters.2 ⟨scope, hs, mem_of_findRegister h⟩
  · split at h
    · exact mem_declaredRegisters.2 ⟨scope, hs, mem_of_findRegister h⟩
    · next p hp =>
      obtain ⟨registers, hr, h⟩ := Option.bind_eq_some_iff.1 h
      exact mem_declaredRegisters.2
        ⟨registers, registerList_declared (mem_of_findPeripheral hp) hr, mem_of_findRegister h⟩

theorem fieldListWithin_declared {n : Nat} {r : RegisterAt} {scope : FieldScope}
    (hr : r ∈ declaredRegisters d) (h : fieldListWithin d n r = some scope) :
    scope.Declared d := by
  induction n generalizing r with
  | zero => cases h
  | succ n ih =>
    rw [fieldListWithin] at h
    split at h
    · next fields hf => exact ⟨r, hr, by rw [← h, RegisterAt.ownFields, hf]; rfl⟩
    · obtain ⟨path, -, h⟩ := Option.bind_eq_some_iff.1 h
      obtain ⟨base, hb, h⟩ := Option.bind_eq_some_iff.1 h
      exact ih (mem_of_lookupRegister (scope_declared_of_mem hr).1 hb) h

theorem fieldList_declared {r : RegisterAt} {scope : FieldScope}
    (hr : r ∈ declaredRegisters d) (h : fieldList d r = some scope) : scope.Declared d :=
  fieldListWithin_declared hr h

theorem mem_of_lookupField {scope : FieldScope} {path : String} {f : FieldAt}
    (hs : scope.Declared d) (h : lookupField d scope path = some f) : f ∈ declaredFields d := by
  unfold lookupField at h
  split at h
  · exact mem_declaredFields.2 ⟨scope, hs, mem_of_findField h⟩
  · obtain ⟨r, hr, h⟩ := Option.bind_eq_some_iff.1 h
    obtain ⟨fields, hf, h⟩ := Option.bind_eq_some_iff.1 h
    exact mem_declaredFields.2
      ⟨fields, fieldList_declared (mem_of_lookupRegister hs.registers hr) hf, mem_of_findField h⟩

theorem peripheralLinks_within (d : Description.Device) :
    (peripheralLinks d).Within (placedPeripherals d) where
  mem_of_next _ h := by
    obtain ⟨name, -, h⟩ := h
    exact mem_of_findPeripheral h
  eq_of_place := peripheral_eq_of_index

theorem registerLinks_within (d : Description.Device) :
    (registerLinks d).Within (declaredRegisters d) where
  mem_of_next hr h := by
    obtain ⟨path, -, h⟩ := h
    exact mem_of_lookupRegister (scope_declared_of_mem hr).1 h
  eq_of_place := register_eq_of_place

theorem fieldLinks_within (d : Description.Device) :
    (fieldLinks d).Within (declaredFields d) where
  mem_of_next hf h := by
    obtain ⟨path, -, h⟩ := h
    exact mem_of_lookupField (fieldScope_declared_of_mem hf).1 h
  eq_of_place := field_eq_of_place

/-! ## Counts -/

theorem map_element_placedPeripherals (d : Description.Device) :
    (placedPeripherals d).map PeripheralAt.element = d.peripherals := by
  rw [placedPeripherals, List.map_map]
  exact List.zipIdx_map_fst 0 d.peripherals

theorem RegisterScope.map_element_placed (scope : RegisterScope) :
    scope.placed.map RegisterAt.element = scope.registers := by
  rw [placed, List.map_map]
  exact List.zipIdx_map_fst 0 scope.registers

theorem FieldScope.map_element_placed (scope : FieldScope) :
    scope.placed.map FieldAt.element = scope.fields := by
  rw [placed, List.map_map]
  exact List.zipIdx_map_fst 0 scope.fields

theorem map_element_declaredRegisters (d : Description.Device) :
    (declaredRegisters d).map RegisterAt.element =
      d.peripherals.flatMap fun p => p.registers.getD [] := by
  rw [← map_element_placedPeripherals d, List.flatMap_map, declaredRegisters, List.map_flatMap]
  refine congrArg (List.flatMap · _) (funext fun p => ?_)
  cases h : p.element.registers with
  | none => simp [PeripheralAt.ownRegisters, h]
  | some registers => simp [PeripheralAt.ownRegisters, h, RegisterScope.map_element_placed]

theorem map_element_declaredFields (d : Description.Device) :
    (declaredFields d).map FieldAt.element =
      d.peripherals.flatMap fun p =>
        (p.registers.getD []).flatMap fun r => r.fields.getD [] := by
  rw [← List.flatMap_assoc, ← map_element_declaredRegisters d, List.flatMap_map, declaredFields,
    List.map_flatMap]
  refine congrArg (List.flatMap · _) (funext fun r => ?_)
  cases h : r.element.fields with
  | none => simp [RegisterAt.ownFields, h]
  | some fields => simp [RegisterAt.ownFields, h, FieldScope.map_element_placed]

theorem length_placedPeripherals (d : Description.Device) :
    (placedPeripherals d).length = d.peripherals.length := by
  rw [← map_element_placedPeripherals d, List.length_map]

theorem length_declaredRegisters (d : Description.Device) :
    (declaredRegisters d).length = d.registerCount := by
  rw [Description.Device.registerCount, ← map_element_declaredRegisters d, List.length_map]

theorem length_declaredFields (d : Description.Device) :
    (declaredFields d).length = d.fieldCount := by
  rw [Description.Device.fieldCount, ← map_element_declaredFields d, List.length_map]

end RegisterHeaders.Derivation
