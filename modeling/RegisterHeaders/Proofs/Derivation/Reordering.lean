import RegisterHeaders.Proofs.Derivation.Arrangement
import RegisterHeaders.Proofs.Derivation.Meaning

/-!
# The order of siblings

The peripherals of a device, the registers of a list and the fields of a list may be put into
another order (`Reordering`), as long as no two of those that change places have the same name. Then
every reference points to the element that it pointed to, at its new place: looking up an element
and following its derivation commute with the change of places. So the description resolves after
the change if and only if it did before, and the model is the same but for the order, in all places
that inherit a list (`resolve_reordered`).
-/

namespace RegisterHeaders.Derivation

open Steps

variable {d : Description.Device}

/-! ## Moved elements -/

/-- Every element of a list is moved somewhere else, and its reference points to where the element
that it pointed to is moved. -/
structure Links.Moved {α ι : Type} (links links' : Links α ι) (elements : List α)
    (move : α → α) : Prop where
  reference : ∀ a ∈ elements, links'.reference (move a) = links.reference a
  find : ∀ a ∈ elements, ∀ path, links'.find (move a) path = (links.find a path).map move

namespace Links.Moved

variable {α ι : Type} {links links' : Links α ι} {elements : List α} {move : α → α}

theorem next_iff (h : links.Moved links' elements move) {a b : α} (ha : a ∈ elements) :
    links'.Next (move a) b ↔ ∃ c, links.Next a c ∧ move c = b := by
  simp only [Next, h.reference a ha, h.find a ha, Option.map_eq_some_iff]
  constructor
  · rintro ⟨path, hp, c, hc, rfl⟩
    exact ⟨c, ⟨path, hp, hc⟩, rfl⟩
  · rintro ⟨c, ⟨path, hp, hc⟩, rfl⟩
    exact ⟨path, hp, c, hc, rfl⟩

theorem chain_of_moved (h : links.Moved links' elements move) (hw : links.Within elements)
    {a : α} {chain : List α} (hc : links.Chain a chain) (ha : a ∈ elements) :
    links'.Chain (move a) (chain.map move) := by
  induction hc with
  | @last a hr => exact .last ((h.reference a ha).trans hr)
  | link hn rest ih =>
    exact .link ((h.next_iff ha).2 ⟨_, hn, rfl⟩) (ih (hw.mem_of_next ha hn))

theorem chain_iff (h : links.Moved links' elements move) (hw : links.Within elements) {a : α}
    (ha : a ∈ elements) {moved : List α} :
    links'.Chain (move a) moved ↔ ∃ chain, links.Chain a chain ∧ chain.map move = moved := by
  constructor
  · intro hc
    generalize hb : move a = b at hc
    induction hc generalizing a with
    | last hr =>
      subst hb
      exact ⟨[a], .last ((h.reference a ha).symm.trans hr), rfl⟩
    | link hn rest ih =>
      subst hb
      obtain ⟨c, hn', rfl⟩ := (h.next_iff ha).1 hn
      obtain ⟨chain, hc, rfl⟩ := ih (hw.mem_of_next ha hn') rfl
      exact ⟨a :: chain, .link hn' hc, rfl⟩
  · rintro ⟨chain, hc, rfl⟩
    exact h.chain_of_moved hw hc ha

/-- What the first element has is moved with the element. -/
theorem firstWithin (h : links.Moved links' elements move) (hw : links.Within elements) {β : Type}
    {own : α → Option β} {moveOwn : β → β}
    (owned : ∀ a ∈ elements, own (move a) = (own a).map moveOwn) {steps : Nat} {a : α}
    (ha : a ∈ elements) :
    links'.firstWithin own steps (move a) = (links.firstWithin own steps a).map moveOwn := by
  induction steps generalizing a with
  | zero => rfl
  | succ steps ih =>
    rw [Links.firstWithin, Links.firstWithin, owned a ha, h.reference a ha]
    cases own a with
    | some b => rfl
    | none =>
      cases hr : links.reference a with
      | none => rfl
      | some path =>
        simp only [Option.map_none, Option.bind_eq_bind, Option.bind_some, h.find a ha]
        cases hf : links.find a path with
        | none => rfl
        | some b => exact ih (hw.mem_of_next ha ⟨path, hr, hf⟩)

end Links.Moved

/-- Another order for the peripherals of a device, for the register list declared by the peripheral
at a position, and for the field list declared by a register of that list. Lists for which no
positions are given stay as they are. -/
structure Reordering (d : Description.Device) where
  peripherals : Option (List Nat)
  registers : Nat → Option (List Nat)
  fields : Nat → Nat → Option (List Nat)
  fits_peripherals : Fits peripherals (d.peripherals.map (·.name))
  fits_registers : ∀ s : RegisterScope, s.Declared d →
    Fits (registers s.peripheral) (s.registers.map (·.name))
  fits_fields : ∀ s : FieldScope, s.Declared d →
    Fits (fields s.registers.peripheral s.register) (s.fields.map (·.name))

namespace Reordering

variable (ρ : Reordering d)

/-! ## The reordered description -/

/-- The register at position `i` of a list with its fields in the other order. -/
def register (peripheral i : Nat) (r : Description.Register) : Description.Register :=
  { r with fields := r.fields.map (arrange (ρ.fields peripheral i)) }

/-- A register list in the other order. -/
def registerList (peripheral : Nat) (registers : List Description.Register) :
    List Description.Register :=
  arrange (ρ.registers peripheral) (registers.mapIdx (ρ.register peripheral))

/-- The peripheral at position `i` with its registers in the other order. -/
def peripheral (i : Nat) (p : Description.Peripheral) : Description.Peripheral :=
  { p with registers := p.registers.map (ρ.registerList i) }

/-- The description in the other order. -/
def device : Description.Device :=
  { d with peripherals := arrange ρ.peripherals (d.peripherals.mapIdx ρ.peripheral) }

/-! ## The reordered model -/

/-- The model of a register with the fields in the order of the list that it ends up with. -/
def modelRegister (r : RegisterAt) (m : Register) : Register :=
  { m with
    fields := (fieldList d r).elim m.fields fun s =>
      arrange (ρ.fields s.registers.peripheral s.register) m.fields }

/-- The model of a peripheral with the registers in the order of the list that it ends up with. -/
def modelPeripheral (p : PeripheralAt) (m : Peripheral) : Peripheral :=
  { m with
    registers := (Derivation.registerList d p).elim m.registers fun s =>
      arrange (ρ.registers s.peripheral) (List.zipWith ρ.modelRegister s.placed m.registers) }

/-- The model of the device in the other order. -/
def model (m : Device) : Device :=
  { m with
    peripherals := arrange ρ.peripherals
      (List.zipWith ρ.modelPeripheral (placedPeripherals d) m.peripherals) }

/-! ## The new places -/

/-- A peripheral at its new place. -/
def peripheralAt (p : PeripheralAt) : PeripheralAt :=
  ⟨positionIn ρ.peripherals p.index, ρ.peripheral p.index p.element⟩

/-- A register list at its new place. -/
def registerScope (s : RegisterScope) : RegisterScope :=
  ⟨positionIn ρ.peripherals s.peripheral, ρ.registerList s.peripheral s.registers⟩

/-- A register at its new place. -/
def registerAt (r : RegisterAt) : RegisterAt :=
  ⟨ρ.registerScope r.scope, positionIn (ρ.registers r.scope.peripheral) r.index,
    ρ.register r.scope.peripheral r.index r.element⟩

/-- A field list at its new place. -/
def fieldScope (s : FieldScope) : FieldScope :=
  ⟨ρ.registerScope s.registers, positionIn (ρ.registers s.registers.peripheral) s.register,
    arrange (ρ.fields s.registers.peripheral s.register) s.fields⟩

/-- A field at its new place. -/
def fieldAt (f : FieldAt) : FieldAt :=
  ⟨ρ.fieldScope f.scope,
    positionIn (ρ.fields f.scope.registers.peripheral f.scope.register) f.index, f.element⟩

theorem ownRegisters_peripheralAt (p : PeripheralAt) :
    (ρ.peripheralAt p).ownRegisters = p.ownRegisters.map ρ.registerScope := by
  simp [PeripheralAt.ownRegisters, peripheralAt, peripheral, registerScope, Function.comp_def]

theorem ownFields_registerAt (r : RegisterAt) :
    (ρ.registerAt r).ownFields = r.ownFields.map ρ.fieldScope := by
  simp [RegisterAt.ownFields, registerAt, register, fieldScope, Function.comp_def]

theorem placedPeripherals_device :
    placedPeripherals ρ.device =
      arrange ρ.peripherals ((placedPeripherals d).map ρ.peripheralAt) := by
  rw [placedPeripherals, device, map_zipIdx_arrange ρ.fits_peripherals (by simp)]
  congr 1
  apply List.ext_getElem?
  intro i
  simp [placedPeripherals, peripheralAt, List.getElem?_mapIdx, List.getElem?_zipIdx,
    Function.comp_def]

variable {s : RegisterScope} {t : FieldScope}

theorem placed_registerScope (hs : s.Declared d) :
    (ρ.registerScope s).placed =
      arrange (ρ.registers s.peripheral) (s.placed.map ρ.registerAt) := by
  rw [RegisterScope.placed, registerScope, registerList,
    map_zipIdx_arrange (ρ.fits_registers s hs) (by simp)]
  congr 1
  apply List.ext_getElem?
  intro i
  simp [RegisterScope.placed, registerAt, registerScope, registerList, List.getElem?_mapIdx,
    List.getElem?_zipIdx, Function.comp_def]

theorem placed_fieldScope (ht : t.Declared d) :
    (ρ.fieldScope t).placed =
      arrange (ρ.fields t.registers.peripheral t.register) (t.placed.map ρ.fieldAt) := by
  rw [FieldScope.placed, fieldScope, map_zipIdx_arrange (ρ.fits_fields t ht) (by simp),
    FieldScope.placed, List.map_map]
  rfl

/-! ## The elements of the reordered description -/

theorem placedPeripherals_device_perm :
    (placedPeripherals ρ.device).Perm ((placedPeripherals d).map ρ.peripheralAt) := by
  rw [placedPeripherals_device]
  exact arrange_perm ρ.fits_peripherals (by simp [length_placedPeripherals])

theorem declaredRegisters_device_perm :
    (declaredRegisters ρ.device).Perm ((declaredRegisters d).map ρ.registerAt) := by
  rw [declaredRegisters, declaredRegisters, List.map_flatMap]
  refine (ρ.placedPeripherals_device_perm.flatMap_right _).trans ?_
  rw [List.flatMap_map]
  refine List.Perm.flatMap_left _ fun p hp => ?_
  rw [ownRegisters_peripheralAt]
  cases hs : p.ownRegisters with
  | none => exact .refl []
  | some s =>
    have declared : s.Declared d := ⟨p, hp, hs⟩
    dsimp only [Option.map_some, Option.elim_some]
    rw [ρ.placed_registerScope declared]
    exact arrange_perm (ρ.fits_registers s declared) (by simp [RegisterScope.placed])

theorem declaredFields_device_perm :
    (declaredFields ρ.device).Perm ((declaredFields d).map ρ.fieldAt) := by
  rw [declaredFields, declaredFields, List.map_flatMap]
  refine (ρ.declaredRegisters_device_perm.flatMap_right _).trans ?_
  rw [List.flatMap_map]
  refine List.Perm.flatMap_left _ fun r hr => ?_
  rw [ownFields_registerAt]
  cases ht : r.ownFields with
  | none => exact .refl []
  | some t =>
    have declared : t.Declared d := ⟨r, hr, ht⟩
    dsimp only [Option.map_some, Option.elim_some]
    rw [ρ.placed_fieldScope declared]
    exact arrange_perm (ρ.fits_fields t declared) (by simp [FieldScope.placed])

theorem length_peripherals_device : ρ.device.peripherals.length = d.peripherals.length := by
  simpa [length_placedPeripherals] using ρ.placedPeripherals_device_perm.length_eq

theorem registerCount_device : ρ.device.registerCount = d.registerCount := by
  simpa [length_declaredRegisters] using ρ.declaredRegisters_device_perm.length_eq

/-! ## References -/

theorem findPeripheral_device (name : String) :
    findPeripheral ρ.device name = (findPeripheral d name).map ρ.peripheralAt := by
  have names : (placedPeripherals d).map (fun p => (ρ.peripheralAt p).element.name) =
      d.peripherals.map (·.name) := by
    rw [← map_element_placedPeripherals, List.map_map]
    rfl
  rw [findPeripheral, placedPeripherals_device]
  exact find?_arrange_map ρ.peripheralAt (fun p => p.element.name)
    (names ▸ ρ.fits_peripherals) name

theorem findRegister_registerScope (hs : s.Declared d) (name : String) :
    findRegister (ρ.registerScope s) name = (findRegister s name).map ρ.registerAt := by
  have names : s.placed.map (fun r => (ρ.registerAt r).element.name) =
      s.registers.map (·.name) := by
    rw [← s.map_element_placed, List.map_map]
    rfl
  rw [findRegister, ρ.placed_registerScope hs]
  exact find?_arrange_map ρ.registerAt (fun r => r.element.name)
    (names ▸ ρ.fits_registers s hs) name

theorem findField_fieldScope (ht : t.Declared d) (name : String) :
    findField (ρ.fieldScope t) name = (findField t name).map ρ.fieldAt := by
  have names : t.placed.map (fun f => (ρ.fieldAt f).element.name) = t.fields.map (·.name) := by
    rw [← t.map_element_placed, List.map_map]
    rfl
  rw [findField, ρ.placed_fieldScope ht]
  exact find?_arrange_map ρ.fieldAt (fun f => f.element.name) (names ▸ ρ.fits_fields t ht) name

theorem peripheralLinks_moved :
    (peripheralLinks d).Moved (peripheralLinks ρ.device) (placedPeripherals d) ρ.peripheralAt where
  reference _ _ := rfl
  find _ _ name := ρ.findPeripheral_device name

variable {p : PeripheralAt} {r : RegisterAt} {f : FieldAt}

theorem registerList_peripheralAt (hp : p ∈ placedPeripherals d) :
    Derivation.registerList ρ.device (ρ.peripheralAt p) =
      (Derivation.registerList d p).map ρ.registerScope := by
  rw [Derivation.registerList, Derivation.registerList, registerListWithin_eq,
    registerListWithin_eq, length_peripherals_device]
  exact ρ.peripheralLinks_moved.firstWithin (peripheralLinks_within d)
    (fun p _ => ρ.ownRegisters_peripheralAt p) hp

theorem lookupRegister_registerScope (hs : s.Declared d) (path : String) :
    lookupRegister ρ.device (ρ.registerScope s) path =
      (lookupRegister d s path).map ρ.registerAt := by
  unfold lookupRegister
  split
  · exact ρ.findRegister_registerScope hs _
  · next owner rest _ =>
    rw [findPeripheral_device]
    cases hp : findPeripheral d owner with
    | none => exact ρ.findRegister_registerScope hs _
    | some p =>
      have placed := mem_of_findPeripheral hp
      dsimp only [Option.map_some]
      rw [ρ.registerList_peripheralAt placed]
      cases hl : Derivation.registerList d p with
      | none => rfl
      | some list => exact ρ.findRegister_registerScope (registerList_declared placed hl) _

theorem registerLinks_moved :
    (registerLinks d).Moved (registerLinks ρ.device) (declaredRegisters d) ρ.registerAt where
  reference _ _ := rfl
  find _ hr path := ρ.lookupRegister_registerScope (scope_declared_of_mem hr).1 path

theorem fieldList_registerAt (hr : r ∈ declaredRegisters d) :
    fieldList ρ.device (ρ.registerAt r) = (fieldList d r).map ρ.fieldScope := by
  rw [fieldList, fieldList, fieldListWithin_eq, fieldListWithin_eq, registerCount_device]
  exact ρ.registerLinks_moved.firstWithin (registerLinks_within d)
    (fun r _ => ρ.ownFields_registerAt r) hr

theorem lookupField_fieldScope (ht : t.Declared d) (path : String) :
    lookupField ρ.device (ρ.fieldScope t) path = (lookupField d t path).map ρ.fieldAt := by
  unfold lookupField
  split
  · exact ρ.findField_fieldScope ht path
  · next owner name _ =>
    have found : lookupRegister ρ.device (ρ.fieldScope t).registers owner =
        (lookupRegister d t.registers owner).map ρ.registerAt :=
      ρ.lookupRegister_registerScope ht.registers owner
    rw [found]
    cases hr : lookupRegister d t.registers owner with
    | none => rfl
    | some r =>
      have declared := mem_of_lookupRegister ht.registers hr
      simp only [Option.map_some, Option.bind_eq_bind, Option.bind_some,
        ρ.fieldList_registerAt declared]
      cases hl : fieldList d r with
      | none => rfl
      | some list => exact ρ.findField_fieldScope (fieldList_declared declared hl) name

theorem fieldLinks_moved :
    (fieldLinks d).Moved (fieldLinks ρ.device) (declaredFields d) ρ.fieldAt where
  reference _ _ := rfl
  find _ hf path := ρ.lookupField_fieldScope (fieldScope_declared_of_mem hf).1 path

/-! ## Elements and their models -/

theorem peripheralAt_mem (hp : p ∈ placedPeripherals d) :
    ρ.peripheralAt p ∈ placedPeripherals ρ.device :=
  ρ.placedPeripherals_device_perm.mem_iff.2 (List.mem_map_of_mem hp)

theorem registerAt_mem (hr : r ∈ declaredRegisters d) :
    ρ.registerAt r ∈ declaredRegisters ρ.device :=
  ρ.declaredRegisters_device_perm.mem_iff.2 (List.mem_map_of_mem hr)

theorem fieldAt_mem (hf : f ∈ declaredFields d) : ρ.fieldAt f ∈ declaredFields ρ.device :=
  ρ.declaredFields_device_perm.mem_iff.2 (List.mem_map_of_mem hf)

theorem flattenPeripheral_peripheralAt (hp : p ∈ placedPeripherals d)
    {merged : Description.Peripheral} :
    flattenPeripheral ρ.device (ρ.peripheralAt p) = .ok merged ↔
      ∃ own, flattenPeripheral d p = .ok own ∧ ρ.peripheral p.index own = merged := by
  simp only [flattenPeripheral_eq_ok_iff (ρ.peripheralAt_mem hp), flattenPeripheral_eq_ok_iff hp,
    ρ.peripheralLinks_moved.chain_iff (peripheralLinks_within d) hp]
  have along (chain : List PeripheralAt) : (ρ.peripheralAt p).along (chain.map ρ.peripheralAt) =
      ρ.peripheral p.index (p.along chain) := by
    simp [PeripheralAt.along, peripheralAt, peripheral, List.findSome?_map, Function.comp_def]
  constructor
  · rintro ⟨_, ⟨chain, hc, rfl⟩, rfl⟩
    exact ⟨_, ⟨chain, hc, rfl⟩, (along chain).symm⟩
  · rintro ⟨_, ⟨chain, hc, rfl⟩, rfl⟩
    exact ⟨_, ⟨chain, hc, rfl⟩, along chain⟩

theorem flattenRegister_registerAt (hr : r ∈ declaredRegisters d)
    {merged : Description.Register} :
    flattenRegister ρ.device (ρ.registerAt r) = .ok merged ↔
      ∃ own, flattenRegister d r = .ok own ∧
        ρ.register r.scope.peripheral r.index own = merged := by
  simp only [flattenRegister_eq_ok_iff (ρ.registerAt_mem hr), flattenRegister_eq_ok_iff hr,
    ρ.registerLinks_moved.chain_iff (registerLinks_within d) hr]
  have along (chain : List RegisterAt) : (ρ.registerAt r).along (chain.map ρ.registerAt) =
      ρ.register r.scope.peripheral r.index (r.along chain) := by
    simp [RegisterAt.along, registerAt, register, List.findSome?_map, Function.comp_def]
  constructor
  · rintro ⟨_, ⟨chain, hc, rfl⟩, rfl⟩
    exact ⟨_, ⟨chain, hc, rfl⟩, (along chain).symm⟩
  · rintro ⟨_, ⟨chain, hc, rfl⟩, rfl⟩
    exact ⟨_, ⟨chain, hc, rfl⟩, along chain⟩

theorem flattenField_fieldAt (hf : f ∈ declaredFields d) {merged : Description.Field} :
    flattenField ρ.device (ρ.fieldAt f) = .ok merged ↔ flattenField d f = .ok merged := by
  simp only [flattenField_eq_ok_iff (ρ.fieldAt_mem hf), flattenField_eq_ok_iff hf,
    ρ.fieldLinks_moved.chain_iff (fieldLinks_within d) hf]
  have along (chain : List FieldAt) :
      (ρ.fieldAt f).along (chain.map ρ.fieldAt) = f.along chain := by
    simp [FieldAt.along, fieldAt, List.findSome?_map, Function.comp_def]
  constructor
  · rintro ⟨_, ⟨chain, hc, rfl⟩, rfl⟩
    exact ⟨chain, hc, (along chain).symm⟩
  · rintro ⟨chain, hc, rfl⟩
    exact ⟨_, ⟨chain, hc, rfl⟩, along chain⟩

theorem resolveField_fieldAt (hf : f ∈ declaredFields d) {access : Access} {m : Field} :
    resolveField ρ.device access (ρ.fieldAt f) = .ok m ↔ resolveField d access f = .ok m := by
  simp only [resolveField, bind_eq_ok_iff, ρ.flattenField_fieldAt hf]
  rfl

theorem resolveFields_registerAt (hr : r ∈ declaredRegisters d) {access : Access}
    {fields : List Field} :
    ((fieldList ρ.device (ρ.registerAt r)).elim [] FieldScope.placed).mapM
        (resolveField ρ.device access) = .ok fields ↔
      ∃ own, ((fieldList d r).elim [] FieldScope.placed).mapM (resolveField d access) = .ok own ∧
        ((fieldList d r).elim own fun t =>
          arrange (ρ.fields t.registers.peripheral t.register) own) = fields := by
  rw [ρ.fieldList_registerAt hr]
  cases hl : fieldList d r with
  | none => simp
  | some t =>
    have ht := fieldList_declared hr hl
    dsimp only [Option.map_some, Option.elim_some]
    rw [ρ.placed_fieldScope ht,
      mapM_arrange_eq_ok_iff (ρ.fits_fields t ht) (by simp [FieldScope.placed])]
    refine exists_congr fun own => and_congr_left fun _ => ?_
    rw [mapM_eq_ok_iff, mapM_eq_ok_iff, List.forall₂_map_left_iff]
    exact forall₂_congr_of_mem fun f hf _ =>
      ρ.resolveField_fieldAt (mem_declaredFields.2 ⟨t, ht, hf⟩)

theorem resolveRegister_registerAt (hr : r ∈ declaredRegisters d) {baseAddress : UInt64}
    {access : Access} {width : UInt32} {m : Register} :
    resolveRegister ρ.device baseAddress access width (ρ.registerAt r) = .ok m ↔
      ∃ own, resolveRegister d baseAddress access width r = .ok own ∧
        ρ.modelRegister r own = m := by
  simp only [resolveRegister, bind_eq_ok_iff, ρ.flattenRegister_registerAt hr,
    ρ.resolveFields_registerAt hr, pure, Except.pure, Except.ok.injEq]
  constructor
  · rintro ⟨_, ⟨merged, hm, rfl⟩, offset, ho, address, ha, _, ⟨fields, hf, rfl⟩, rfl⟩
    exact ⟨_, ⟨merged, hm, offset, ho, address, ha, fields, hf, rfl⟩, rfl⟩
  · rintro ⟨_, ⟨merged, hm, offset, ho, address, ha, fields, hf, rfl⟩, rfl⟩
    exact ⟨_, ⟨merged, hm, rfl⟩, offset, ho, address, ha, _, ⟨fields, hf, rfl⟩, rfl⟩

theorem resolveRegisters_peripheralAt (hp : p ∈ placedPeripherals d) {baseAddress : UInt64}
    {access : Access} {width : UInt32} {registers : List Register} :
    ((Derivation.registerList ρ.device (ρ.peripheralAt p)).elim [] RegisterScope.placed).mapM
        (resolveRegister ρ.device baseAddress access width) = .ok registers ↔
      ∃ own, ((Derivation.registerList d p).elim [] RegisterScope.placed).mapM
          (resolveRegister d baseAddress access width) = .ok own ∧
        ((Derivation.registerList d p).elim own fun s =>
          arrange (ρ.registers s.peripheral) (List.zipWith ρ.modelRegister s.placed own)) =
            registers := by
  rw [ρ.registerList_peripheralAt hp]
  cases hl : Derivation.registerList d p with
  | none => simp
  | some s =>
    have hs := registerList_declared hp hl
    dsimp only [Option.map_some, Option.elim_some]
    rw [ρ.placed_registerScope hs]
    exact mapM_arrange_map_eq_ok_iff (ρ.fits_registers s hs) (by simp [RegisterScope.placed])
      fun r hr _ => ρ.resolveRegister_registerAt (mem_declaredRegisters.2 ⟨s, hs, hr⟩)

theorem resolvePeripheral_peripheralAt (hp : p ∈ placedPeripherals d) {access : Access}
    {width : UInt32} {m : Peripheral} :
    resolvePeripheral ρ.device access width (ρ.peripheralAt p) = .ok m ↔
      ∃ own, resolvePeripheral d access width p = .ok own ∧ ρ.modelPeripheral p own = m := by
  simp only [resolvePeripheral, bind_eq_ok_iff, ρ.flattenPeripheral_peripheralAt hp,
    ρ.resolveRegisters_peripheralAt hp, pure, Except.pure, Except.ok.injEq]
  constructor
  · rintro ⟨_, ⟨merged, hm, rfl⟩, baseAddress, hb, _, ⟨registers, hr, rfl⟩, rfl⟩
    exact ⟨_, ⟨merged, hm, baseAddress, hb, registers, hr, rfl⟩, rfl⟩
  · rintro ⟨_, ⟨merged, hm, baseAddress, hb, registers, hr, rfl⟩, rfl⟩
    exact ⟨_, ⟨merged, hm, rfl⟩, baseAddress, hb, _, ⟨registers, hr, rfl⟩, rfl⟩

end Reordering

/-- A description resolves in another order of its peripherals, registers and fields if and only if
it does in its own, and the models are the same but for the order. -/
theorem resolve_reordered (ρ : Reordering d) (m : Device) :
    resolve ρ.device = .ok m ↔ ∃ own, resolve d = .ok own ∧ ρ.model own = m := by
  have peripherals (access : Access) (width : UInt32) (all : List Peripheral) :
      (placedPeripherals ρ.device).mapM (resolvePeripheral ρ.device access width) = .ok all ↔
        ∃ own, (placedPeripherals d).mapM (resolvePeripheral d access width) = .ok own ∧
          arrange ρ.peripherals (List.zipWith ρ.modelPeripheral (placedPeripherals d) own) =
            all := by
    rw [ρ.placedPeripherals_device]
    exact mapM_arrange_map_eq_ok_iff ρ.fits_peripherals (by simp [length_placedPeripherals])
      fun p hp _ => ρ.resolvePeripheral_peripheralAt hp
  simp only [resolve, bind_eq_ok_iff, peripherals, pure, Except.pure, Except.ok.injEq]
  constructor
  · rintro ⟨_, ⟨all, hall, rfl⟩, rfl⟩
    exact ⟨_, ⟨all, hall, rfl⟩, rfl⟩
  · rintro ⟨_, ⟨all, hall, rfl⟩, rfl⟩
    exact ⟨_, ⟨all, hall, rfl⟩, rfl⟩

/-- A timer with two registers, one of which derives from the other, and a second timer that derives
from the first. -/
def twinDevice : Description.Device where
  name := "D"
  description := none
  access := none
  width := none
  peripherals := [
    { name := "TIM1", derivedFrom := none, baseAddress := some 0, access := none, width := none
      description := none
      registers := some [
        { name := "CTRL", derivedFrom := none, addressOffset := some 0, access := none
          width := some 16, description := none, fields := none },
        { name := "STATUS", derivedFrom := some "CTRL", addressOffset := some 4, access := none
          width := none, description := none, fields := none }] },
    { name := "TIM2", derivedFrom := some "TIM1", baseAddress := some 256, access := none
      width := none, description := none, registers := none }]

/-- Both timers and the registers of the first change places. -/
def twinReordering : Reordering twinDevice where
  peripherals := some [1, 0]
  registers peripheral := if peripheral = 0 then some [1, 0] else none
  fields _ _ := none
  fits_peripherals := by decide
  fits_registers := by
    have fits : ∀ p ∈ placedPeripherals twinDevice, ∀ s ∈ p.ownRegisters,
        Fits (if s.peripheral = 0 then some [1, 0] else none) (s.registers.map (·.name)) := by
      decide
    rintro s ⟨p, hp, hs⟩
    exact fits p hp s hs
  fits_fields _ _ := nofun

/-- The registers change places in both timers. -/
theorem twinDevice_reordered : ∃ own, resolve twinDevice = .ok own ∧
    resolve twinReordering.device = .ok (twinReordering.model own) ∧
    own.peripherals.map (fun p => (p.name, p.registers.map (·.name))) =
      [("TIM1", ["CTRL", "STATUS"]), ("TIM2", ["CTRL", "STATUS"])] ∧
    (twinReordering.model own).peripherals.map (fun p => (p.name, p.registers.map (·.name))) =
      [("TIM2", ["STATUS", "CTRL"]), ("TIM1", ["STATUS", "CTRL"])] := by
  have computed : ∃ own, resolve twinDevice = .ok own ∧
      own.peripherals.map (fun p => (p.name, p.registers.map (·.name))) =
        [("TIM1", ["CTRL", "STATUS"]), ("TIM2", ["CTRL", "STATUS"])] ∧
      (twinReordering.model own).peripherals.map (fun p => (p.name, p.registers.map (·.name))) =
        [("TIM2", ["STATUS", "CTRL"]), ("TIM1", ["STATUS", "CTRL"])] :=
    exists_ok_of_decide (by decide +kernel)
  obtain ⟨own, hown, before, after⟩ := computed
  exact ⟨own, hown, (resolve_reordered twinReordering _).2 ⟨own, hown, rfl⟩, before, after⟩

end RegisterHeaders.Derivation
