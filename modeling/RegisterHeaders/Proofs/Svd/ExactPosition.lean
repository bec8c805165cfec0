import RegisterHeaders.Proofs.Svd.Flattening

/-!
# Exact positions, or none

The exact position of an element of a document is a natural number: the base address of a peripheral
or the address offset of a cluster or register, summed up over the clusters around it, or the bit
offset of a field. Unrolling computes them in words. `Document.Exceeds` says that one of them does
not fit into its word; then, and only then, a document has no description, since no step on the way
overflows before the position itself does. Otherwise all positions of the description are exact
(`describe_overflows_iff`).

Products of positions and increments always fit into the words of addresses, and so do the address
offsets of registers outside all clusters.
-/

namespace RegisterHeaders.Svd

open RegisterHeaders.Derivation Steps

/-! ## The elements of a document -/

/-- The peripherals that a document stands for, in document order. -/
def Document.elements (doc : Document) : List (Peripheral × Instance) :=
  doc.peripherals.flatMap fun p => (instances p.name p.array).map (p, ·)

/-- The elements of the clusters of a peripheral, each with those around it. -/
def Peripheral.nests (p : Peripheral) : List (List (Cluster × Instance)) :=
  p.registers.elim [] (nestsIn [])

/-- The exact bit offsets of the fields of a placement. -/
def Placement.bitOffsets (r : Placement) : List Nat :=
  (r.register.fields.getD []).flatMap fun f =>
    (instances f.name f.array).map fun i => f.bitOffset.toNat + i.distance

theorem mem_elements_iff {doc : Document} {p : Peripheral} {i : Instance} :
    (p, i) ∈ doc.elements ↔ p ∈ doc.peripherals ∧ i ∈ instances p.name p.array := by
  simp only [Document.elements, List.mem_flatMap, List.mem_map, Prod.mk.injEq]
  constructor
  · rintro ⟨_, hp, _, hi, rfl, rfl⟩
    exact ⟨hp, hi⟩
  · rintro ⟨hp, hi⟩
    exact ⟨p, hp, i, hi, rfl, rfl⟩

theorem mem_bitOffsets_iff {r : Placement} {n : Nat} :
    n ∈ r.bitOffsets ↔ ∃ f ∈ r.register.fields.getD [], ∃ i ∈ instances f.name f.array,
      f.bitOffset.toNat + i.distance = n := by
  simp only [Placement.bitOffsets, List.mem_flatMap, List.mem_map]

/-! ## Positions that do not fit -/

/-- The exact position of some element of a document does not fit into its word. -/
inductive Document.Exceeds (doc : Document) : Prop
  | baseAddress {p : Peripheral} {i : Instance} (h : (p, i) ∈ doc.elements)
      (large : 2 ^ 64 ≤ p.baseAddress.toNat + i.distance)
  | cluster {p : Peripheral} {i : Instance} (h : (p, i) ∈ doc.elements)
      {nest : List (Cluster × Instance)} (hn : nest ∈ p.nests) (large : 2 ^ 64 ≤ offsetOf nest)
  | register {p : Peripheral} {i : Instance} (h : (p, i) ∈ doc.elements) {r : Placement}
      (hr : r ∈ p.placements) (large : 2 ^ 64 ≤ r.offset)
  | field {p : Peripheral} {i : Instance} (h : (p, i) ∈ doc.elements) {r : Placement}
      (hr : r ∈ p.placements) {bitOffset : Nat} (hf : bitOffset ∈ r.bitOffsets)
      (large : 2 ^ 32 ≤ bitOffset)

theorem Placement.fits_iff {r : Placement} :
    r.Fits ↔ r.offset < 2 ^ 64 ∧ ∀ n ∈ r.bitOffsets, n < 2 ^ 32 := by
  constructor
  · rintro ⟨offset, fields⟩
    refine ⟨offset, fun n hn => ?_⟩
    obtain ⟨f, hf, i, hi, rfl⟩ := mem_bitOffsets_iff.1 hn
    exact fields f hf i hi
  · rintro ⟨offset, fields⟩
    exact ⟨offset, fun f hf i hi => fields _ (mem_bitOffsets_iff.2 ⟨f, hf, i, hi, rfl⟩)⟩

/-- The register list of a peripheral can be unrolled if its clusters and placements fit. -/
theorem exists_mapM_unrollRegisters_iff {p : Peripheral} :
    (∃ registers, p.registers.mapM unrollRegisters = .ok registers) ↔
      (∀ nest ∈ p.nests, offsetOf nest < 2 ^ 64) ∧ ∀ r ∈ p.placements, r.Fits := by
  rw [Peripheral.nests, Peripheral.placements]
  cases p.registers with
  | none => simp [pure, Except.pure]
  | some entries =>
    simp only [Option.mapM_some, map_eq_ok_iff, Option.elim_some]
    constructor
    · rintro ⟨_, registers, h, -⟩
      have fits := (exists_unrollRegisters_iff entries).1 ⟨registers, h⟩
      exact ⟨fits.clusters, fits.placements⟩
    · rintro ⟨clusters, placements⟩
      obtain ⟨registers, h⟩ := (exists_unrollRegisters_iff entries).2 ⟨clusters, placements⟩
      exact ⟨_, registers, h, rfl⟩

theorem exists_address_start_iff {name : String} {shape : Option ArrayShape} {i : Instance}
    (hi : i ∈ instances name shape) {start : UInt64} :
    (∃ a, i.address start = .ok a) ↔ start.toNat + i.distance < 2 ^ 64 := by
  simp only [Instance.address_eq_ok_iff hi]
  exact ⟨fun ⟨a, ha⟩ => ha ▸ a.toNat_lt, fun h => ⟨_, UInt64.toNat_ofNat_of_lt' h⟩⟩

/-- A document has a description if and only if all exact positions fit into their words. -/
theorem exists_describe_iff {doc : Document} :
    (∃ described, doc.describe = .ok described) ↔ ∀ p i, (p, i) ∈ doc.elements →
      p.baseAddress.toNat + i.distance < 2 ^ 64 ∧
        (∀ nest ∈ p.nests, offsetOf nest < 2 ^ 64) ∧ ∀ r ∈ p.placements, r.Fits := by
  simp only [Document.describe, Document.unroll, Peripheral.unroll, exists_bind_eq_ok_iff, pure,
    Except.pure, Except.ok.injEq, exists_eq', and_true, exists_mapM_eq_ok_iff, exists_and_right,
    exists_mapM_unrollRegisters_iff, mem_elements_iff, and_imp]
  constructor
  · intro h p i hp hi
    obtain ⟨address, registers⟩ := h p hp i hi
    exact ⟨(exists_address_start_iff hi).1 address, registers⟩
  · intro h p hp i hi
    obtain ⟨address, registers⟩ := h p i hp hi
    exact ⟨(exists_address_start_iff hi).2 address, registers⟩

/-- A document has no description if and only if some exact position does not fit into its word. -/
theorem exists_describe_error_iff {doc : Document} :
    (∃ cause, doc.describe = .error cause) ↔ doc.Exceeds := by
  rw [exists_error_iff, exists_describe_iff]
  constructor
  · intro h
    by_contra fits
    refine h fun p i hpi => ⟨?_, fun nest hn => ?_, fun r hr => ?_⟩
    · exact Nat.lt_of_not_le fun large => fits (.baseAddress hpi large)
    · exact Nat.lt_of_not_le fun large => fits (.cluster hpi hn large)
    · refine Placement.fits_iff.2 ⟨?_, fun n hn => ?_⟩
      · exact Nat.lt_of_not_le fun large => fits (.register hpi hr large)
      · exact Nat.lt_of_not_le fun large => fits (.field hpi hr hn large)
  · intro exceeds h
    cases exceeds with
    | baseAddress hpi large => exact absurd (h _ _ hpi).1 (Nat.not_lt.2 large)
    | cluster hpi hn large => exact absurd ((h _ _ hpi).2.1 _ hn) (Nat.not_lt.2 large)
    | register hpi hr large =>
      exact absurd (Placement.fits_iff.1 ((h _ _ hpi).2.2 _ hr)).1 (Nat.not_lt.2 large)
    | field hpi hr hf large =>
      exact absurd ((Placement.fits_iff.1 ((h _ _ hpi).2.2 _ hr)).2 _ hf) (Nat.not_lt.2 large)

/-! ## Positions of a description -/

/-- The positions of a described register are those of a placement. -/
structure Placement.IsExact (p : Placement) (r : Description.Register) : Prop where
  addressOffset : r.addressOffset.map (·.toNat) = some p.offset
  bitOffsets : (r.fields.getD []).map (·.bitOffset.map (·.toNat)) = p.bitOffsets.map some

/-- The positions of a described peripheral and of its registers and fields are those of an element
of a document. -/
structure IsExact (element : Peripheral × Instance) (p : Description.Peripheral) : Prop where
  baseAddress : p.baseAddress.map (·.toNat) =
    some (element.1.baseAddress.toNat + element.2.distance)
  registers : List.Forall₂ Placement.IsExact element.1.placements (p.registers.getD [])

theorem map_snd_content_elements (fields : Option (List Field)) :
    (fields.map (·.flatMap Field.elements)).elim [] (·.map fun content => content.2.1) =
      (fields.getD []).flatMap fun f =>
        (instances f.name f.array).map fun i => f.bitOffset.toNat + i.distance := by
  cases fields with
  | none => rfl
  | some list => simp [Field.elements, List.map_flatMap, Function.comp_def]

theorem Placement.isExact_of_describes {doc : Document} {p : Placement} (hp : p.IsElement)
    {r : Description.Register} (h : p.Describes doc r) : p.IsExact r := by
  obtain ⟨single, hs, rfl⟩ := h
  have gives := gives_of_unroll hp hs
  refine ⟨congrArg some gives.addressOffset, ?_⟩
  have fields := congrArg (Option.elim · [] (List.map fun content => content.2.1)) gives.fields
  rw [map_snd_content_elements] at fields
  rw [Placement.bitOffsets, ← fields, SingleRegister.describe]
  cases single.fields with
  | none => rfl
  | some singles => simp [SingleField.describe, SingleField.content, Function.comp_def]

theorem isElement_of_mem_placements {p : Peripheral} {r : Placement} (h : r ∈ p.placements) :
    r.IsElement := by
  obtain ⟨entries, -, hr⟩ := mem_elim_placed.1 h
  exact isElement_of_mem_placementsOf hr

/-- The positions of a description are exact. -/
theorem isExact_of_describe {doc : Document} {described : Described}
    (h : doc.describe = .ok described) :
    List.Forall₂ IsExact doc.elements described.device.peripherals := by
  obtain ⟨singles, hs, h⟩ := bind_eq_ok_iff.1 h
  obtain rfl := Except.ok.inj h
  obtain ⟨lists, hl, hs⟩ := bind_eq_ok_iff.1 hs
  obtain rfl := Except.ok.inj hs
  rw [List.forall₂_map_right_iff]
  refine forall₂_flatMap_flatten ((mapM_eq_ok_iff.1 hl).imp fun p list hp => ?_)
  rw [List.forall₂_map_left_iff]
  refine forall₂_imp_of_mem (mapM_eq_ok_iff.1 hp) fun i hi single h => ?_
  obtain ⟨address, ha, h⟩ := bind_eq_ok_iff.1 h
  obtain ⟨registers, hr, h⟩ := bind_eq_ok_iff.1 h
  obtain rfl := Except.ok.inj h
  refine ⟨congrArg some ((Instance.address_eq_ok_iff hi).1 ha), ?_⟩
  have described : (SinglePeripheral.describe doc ⟨i.name, address, registers, p⟩).registers.getD
      [] = (registers.getD []).map (·.describe doc) := by
    rw [SinglePeripheral.describe]
    cases registers <;> rfl
  rw [described, List.forall₂_map_right_iff]
  refine forall₂_imp_of_mem (elim_placementsOf_of_mapM hr) fun r hmem single hsingle => ?_
  exact Placement.isExact_of_describes (isElement_of_mem_placements hmem) ⟨single, hsingle, rfl⟩

/-! ## Positions that always fit -/

theorem Instance.distance_le {name : String} {shape : Option ArrayShape} {i : Instance}
    (h : i ∈ instances name shape) : i.distance ≤ (2 ^ 32 - 2) * (2 ^ 32 - 1) := by
  have position : i.position ≤ 2 ^ 32 - 2 := Nat.le_of_lt_succ (position_lt h)
  have increment := i.increment.toNat_lt
  exact Nat.mul_le_mul position (by omega)

/-- Outside all clusters the address offset of a register always fits. -/
theorem Placement.offset_lt_of_outside {r : Placement} (hr : r.IsElement) (h : r.clusters = []) :
    r.offset < 2 ^ 64 := by
  have distance := Instance.distance_le hr.element
  have offset := r.register.addressOffset.toNat_lt
  rw [Placement.offset, h, offsetOf, List.map_nil, List.sum_nil]
  omega

/-- A document has no description if and only if the exact position of one of its elements does not
fit into its word, and otherwise all positions of the description are exact. Distances in arrays are
exact products of 64-bit words, and the address offsets of registers outside all clusters always
fit. The elements of an array are as many as it counts, each at its position times the increment. -/
theorem describe_overflows_iff (doc : Document) :
    ((∃ cause, doc.describe = .error cause) ↔ doc.Exceeds) ∧
    (∀ described, doc.describe = .ok described →
      List.Forall₂ IsExact doc.elements described.device.peripherals) ∧
    (∀ name shape, ∀ i ∈ instances name shape,
      (i.position.toUInt64 * i.increment.toUInt64).toNat = i.position * i.increment.toNat) ∧
    (∀ p i, (p, i) ∈ doc.elements → ∀ r ∈ p.placements, r.clusters = [] → r.offset < 2 ^ 64) ∧
    ∀ name shape n i, (instances name shape)[n]? = some i ↔ IsElementAt name shape n i := by
  refine ⟨exists_describe_error_iff, fun _ => isExact_of_describe, ?_, ?_, ?_⟩
  · exact fun name shape i hi => Instance.toNat_product hi
  · exact fun p i _ r hr outside =>
      Placement.offset_lt_of_outside (isElement_of_mem_placements hr) outside
  · exact fun name shape n i => getElem?_instances_eq_some_iff

/-- Two elements of a cluster, with a register that has two fields at the given distance. -/
def spreadEntries (distance : UInt32) : List Entry := [
  .cluster { name := "C%s", array := some ⟨2, 4294967295, []⟩, addressOffset := 16, size := none
             access := none } [
    .register {
      name := "R", array := none, derivedFrom := none, addressOffset := 4, size := none
      access := none, description := none
      fields := some [{
        name := "F%s", array := some ⟨2, distance, []⟩, derivedFrom := none, access := none
        bitOffset := 1, bitWidth := 1, description := none, blocks := [] }] }]]

/-- A document with these registers in two peripherals. -/
def spreadDocument (distance : UInt32) : Document where
  name := "D"
  description := none
  size := none
  access := none
  peripherals := [{
    name := "P%s", array := some ⟨2, 4096, []⟩, derivedFrom := none, baseAddress := 0, size := none
    access := none, description := none, registers := some (spreadEntries distance) }]

/-- The second field would be at bit `2 ^ 32`, or is at bit 9. -/
theorem spreadDocument_positions :
    (∃ cause, (spreadDocument 4294967295).describe = .error cause) ∧
    ∃ described, (spreadDocument 8).describe = .ok described ∧
      (declaredRegisters described.device).map (·.element.addressOffset) =
        [some 20, some 4294967315, some 20, some 4294967315] ∧
      List.Forall₂ IsExact (spreadDocument 8).elements described.device.peripherals := by
  constructor
  · obtain ⟨⟨p, i⟩, h, r, hr, large⟩ : ∃ element ∈ (spreadDocument 4294967295).elements,
        ∃ r ∈ element.1.placements, 2 ^ 32 ∈ r.bitOffsets := by decide +kernel
    exact (describe_overflows_iff _).1.2 (.field h hr large (Nat.le_refl _))
  · have computed : ∃ described, (spreadDocument 8).describe = .ok described ∧
        (declaredRegisters described.device).map (·.element.addressOffset) =
          [some 20, some 4294967315, some 20, some 4294967315] :=
      exists_ok_of_decide (by decide +kernel)
    obtain ⟨described, hd, offsets⟩ := computed
    exact ⟨described, hd, offsets, (describe_overflows_iff _).2.1 described hd⟩

end RegisterHeaders.Svd
