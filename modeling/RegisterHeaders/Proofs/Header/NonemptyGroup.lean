import RegisterHeaders.Proofs.Derivation.Meaning
import RegisterHeaders.Proofs.Header.Success
import RegisterHeaders.Svd.Description

/-!
# Groups have constants

A description could give a field an empty list of enumerated values, and the group of the field
would then have no constant. The description in a document does not: a field without a value that
has a number has no list at all. Resolution adds no lists, since the list of a field of the model is
one that some field of the description declares. So every group that the headers of a document
define has a constant (`groups_have_constants`).
-/

namespace RegisterHeaders.Svd

/-! ## Fields of a description -/

theorem Document.enumeratedValues_ne_nil {doc : Document} {f : Field} :
    doc.enumeratedValues f ≠ some [] := by
  rw [enumeratedValues]
  split
  · exact nofun
  · next hne => exact fun h => hne (Option.some.inj h)

theorem exists_of_mem_getD_map {α β : Type} {o : Option (List α)} {g : α → β} {b : β}
    (h : b ∈ (o.map (·.map g)).getD []) : ∃ a, g a = b := by
  cases o with
  | none => cases h
  | some list =>
    obtain ⟨a, -, ha⟩ := List.mem_map.1 h
    exact ⟨a, ha⟩

/-- A field of the description in a document describes a single field. -/
theorem exists_single_of_describe {doc : Document} {described : Described}
    (h : doc.describe = .ok described) {p : Description.Peripheral}
    (hp : p ∈ described.device.peripherals) {r : Description.Register}
    (hr : r ∈ p.registers.getD []) {f : Description.Field} (hf : f ∈ r.fields.getD []) :
    ∃ single : SingleField, single.describe doc = f := by
  obtain ⟨peripherals, -, h⟩ := Steps.bind_eq_ok_iff.1 h
  obtain rfl := Except.ok.inj h
  obtain ⟨singlePeripheral, -, rfl⟩ := List.mem_map.1 hp
  obtain ⟨singleRegister, rfl⟩ := exists_of_mem_getD_map hr
  exact exists_of_mem_getD_map hf

/-- The fields of the description in a document have no empty lists of enumerated values. -/
theorem enumeratedValues_ne_nil_of_describe {doc : Document} {described : Described}
    (h : doc.describe = .ok described) :
    ∀ p ∈ described.device.peripherals, ∀ r ∈ p.registers.getD [], ∀ f ∈ r.fields.getD [],
      f.enumeratedValues ≠ some [] := by
  intro p hp r hr f hf
  obtain ⟨single, rfl⟩ := exists_single_of_describe h hp hr hf
  exact Document.enumeratedValues_ne_nil

end RegisterHeaders.Svd

namespace RegisterHeaders.Derivation

open Steps

/-! ## Fields of a model -/

variable {d : Description.Device}

/-- The list of enumerated values of a field is declared along its derivation chain. -/
theorem MeansField.exists_declared {access : Access} {f : FieldAt} {m : Field}
    (hm : MeansField d access f m) (hf : f ∈ declaredFields d) {values : List EnumValue}
    (hv : m.enumeratedValues = some values) :
    ∃ g ∈ declaredFields d, g.element.enumeratedValues = some values := by
  obtain ⟨chain, hc, -, -, -, -, -, henum⟩ := hm
  obtain ⟨g, hg, hgv⟩ := List.exists_of_findSome?_eq_some (henum.symm.trans hv)
  exact ⟨g, hc.subset (fieldLinks_within d) hf hg, hgv⟩

theorem MeansRegister.exists_field {baseAddress : UInt64} {access : Access} {width : UInt32}
    {r : RegisterAt} {m : Register} (hm : MeansRegister d baseAddress access width r m)
    (hr : r ∈ declaredRegisters d) {field : Field} (hf : field ∈ m.fields) :
    ∃ f ∈ declaredFields d, MeansField d m.access f field := by
  obtain ⟨chain, hc, -, -, -, -, -, -, hfields⟩ := hm
  rw [← fieldList_of_chain hr hc] at hfields
  obtain ⟨f, hmem, hmeans⟩ := forall₂_mem_right hfields hf
  exact ⟨f, mem_of_fieldList hr hmem, hmeans⟩

theorem MeansPeripheral.exists_register {access : Access} {width : UInt32} {p : PeripheralAt}
    {m : Peripheral} (hm : MeansPeripheral d access width p m) (hp : p ∈ placedPeripherals d)
    {register : Register} (hr : register ∈ m.registers) :
    ∃ r ∈ declaredRegisters d, MeansRegister d m.baseAddress m.access m.width r register := by
  obtain ⟨chain, hc, -, -, -, -, -, hregisters⟩ := hm
  rw [← registerList_of_chain hp hc] at hregisters
  obtain ⟨r, hmem, hmeans⟩ := forall₂_mem_right hregisters hr
  exact ⟨r, mem_of_registerList hp hmem, hmeans⟩

/-- The list of enumerated values of a field of the model is declared in the description. -/
theorem exists_declared_of_resolve {device : Device} (h : resolve d = .ok device)
    {p : Peripheral} (hp : p ∈ device.peripherals) {r : Register} (hr : r ∈ p.registers)
    {f : Field} (hf : f ∈ r.fields) {values : List EnumValue}
    (hv : f.enumeratedValues = some values) :
    ∃ g ∈ declaredFields d, g.element.enumeratedValues = some values := by
  obtain ⟨-, -, -, -, hperipherals⟩ := means_of_resolve h
  obtain ⟨pAt, hpAt, meansPeripheral⟩ := forall₂_mem_right hperipherals hp
  obtain ⟨rAt, hrAt, meansRegister⟩ := meansPeripheral.exists_register hpAt hr
  obtain ⟨fAt, hfAt, meansField⟩ := meansRegister.exists_field hrAt hf
  exact meansField.exists_declared hfAt hv

/-- If a description declares no empty lists of enumerated values, its model has none. -/
theorem enumeratedValues_ne_nil_of_resolve {device : Device} (h : resolve d = .ok device)
    (hne : ∀ p ∈ d.peripherals, ∀ r ∈ p.registers.getD [], ∀ f ∈ r.fields.getD [],
      f.enumeratedValues ≠ some []) :
    ∀ p ∈ device.peripherals, ∀ r ∈ p.registers, ∀ f ∈ r.fields,
      f.enumeratedValues ≠ some [] := by
  intro p hp r hr f hf empty
  obtain ⟨g, hg, hgv⟩ := exists_declared_of_resolve h hp hr hf empty
  have hmem := List.mem_map_of_mem (f := FieldAt.element) hg
  rw [map_element_declaredFields] at hmem
  obtain ⟨p', hp', hmem⟩ := List.mem_flatMap.1 hmem
  obtain ⟨r', hr', hmem⟩ := List.mem_flatMap.1 hmem
  exact hne p' hp' r' hr' g.element hmem hgv

end RegisterHeaders.Derivation

namespace RegisterHeaders.Header

open Steps

/-! ## Groups of a run -/

variable {maxWidth : UInt32}

/-- Only an empty list of enumerated values makes a group without constants. -/
theorem exists_constant_of_groupValues {field : Field} (hne : field.enumeratedValues ≠ some [])
    {values : Group.Values} (h : field.groupValues maxWidth = some values) :
    ∃ first rest, values.constants = .ok (first :: rest) := by
  obtain ⟨constants, hc⟩ := constants_of_groupValues h
  suffices nonempty : constants ≠ [] by
    obtain ⟨first, rest, rfl⟩ := List.exists_cons_of_ne_nil nonempty
    exact ⟨first, rest, hc⟩
  cases values with
  | explicit list =>
    have explicit : field.enumeratedValues = some list := by
      rcases Field.groupValues_eq_some_iff.1 h with ⟨_, listed, ⟨⟩⟩ | ⟨-, -, hs⟩
      · exact listed
      · cases hs
    obtain rfl := Except.ok.inj hc
    intro empty
    exact hne (List.map_eq_nil_iff.1 empty ▸ explicit)
  | synthesized width =>
    rw [Group.Values.constants] at hc
    split at hc
    · obtain rfl := Except.ok.inj hc
      simp [Nat.shiftLeft_eq]
    · cases hc

/-- A group of a run has the values of a field of one of the peripherals. -/
theorem exists_field_of_group {peripherals : List Peripheral} {e : Emission}
    (he : e ∈ emissions maxWidth .empty peripherals) {id : String} {values : Group.Values}
    (hg : .group id values ∈ e.declarations.declared) :
    ∃ p ∈ peripherals, ∃ r ∈ p.registers, ∃ f ∈ r.fields,
      f.groupValues maxWidth = some values := by
  have declared : .group id values ∈ allDeclared (emissions maxWidth .empty peripherals) :=
    List.mem_flatMap.2 ⟨e, he, hg⟩
  rw [declared_emissions] at declared
  obtain ⟨named, hn, _, hd⟩ := exists_register_of_request (mem_of_mem_firstRequests declared)
  obtain ⟨p, hp, hn⟩ := List.mem_flatMap.1 hn
  obtain ⟨r, hr, rfl⟩ := List.mem_map.1 hn
  rcases request_cases hd with ⟨f, hf, _, hv, hvalues⟩ | hplaceholder
  · obtain ⟨-, rfl⟩ := Declaration.group.inj hvalues
    exact ⟨p, hp, r, hr, f, hf, hv⟩
  · simp only [reduceCtorEq] at hplaceholder

theorem mem_peripherals_of_selected {device : Device} {filter : Option String} {p : Peripheral}
    (h : p ∈ device.selected filter) : p ∈ device.peripherals := by
  cases filter with
  | none => exact h
  | some name => exact List.mem_of_mem_filter h

/-- Where a document is turned into headers, a field of its description or its model has a nonempty
list of enumerated values or none, and every group that the headers define has a constant. -/
theorem groups_have_constants {doc : Svd.Document} {described : Svd.Described} {device : Device}
    {options : Options} {filter : Option String} {run : Generated}
    (hd : doc.describe = .ok described) (hr : Derivation.resolve described.device = .ok device)
    (hg : generate device options filter = .ok run) :
    (∀ p ∈ described.device.peripherals, ∀ r ∈ p.registers.getD [], ∀ f ∈ r.fields.getD [],
      f.enumeratedValues ≠ some []) ∧
    (∀ p ∈ device.peripherals, ∀ r ∈ p.registers, ∀ f ∈ r.fields,
      f.enumeratedValues ≠ some []) ∧
    List.Forall₂ (Emission.Renders options device.name) (emissionsOf device options filter)
      run.headers ∧
    ∀ e ∈ emissionsOf device options filter, ∀ id values,
      .group id values ∈ e.declarations.declared →
        ∃ first rest, values.constants = .ok (first :: rest) ∧
          (Declaration.group id values).lines = .ok (groupLines id (first :: rest)) := by
  have raw := Svd.enumeratedValues_ne_nil_of_describe hd
  have model := Derivation.enumeratedValues_ne_nil_of_resolve hr raw
  refine ⟨raw, model, (generate_eq_ok_iff.1 hg).2.1, fun e he id values hgroup => ?_⟩
  obtain ⟨p, hp, r, hr, f, hf, hv⟩ := exists_field_of_group he hgroup
  have hne := model p (mem_peripherals_of_selected hp) r hr f hf
  obtain ⟨first, rest, hc⟩ := exists_constant_of_groupValues hne hv
  exact ⟨first, rest, hc, by rw [Declaration.lines, hc]; rfl⟩

/-- A field with the given blocks of enumerated values. -/
def blockField (name : String) (derivedFrom : Option String) (bitOffset : UInt32)
    (blocks : List Svd.Block) : Svd.Field where
  name
  array := none
  derivedFrom
  access := none
  bitOffset
  bitWidth := 2
  description := none
  blocks

/-- A document with four fields. Only the block of the first has a value with a number. The second
has a block of its own but takes the values of the first. The block of the third refers to a block
that does not exist, and the block of the last to that of the second. -/
def blocksDocument : Svd.Document where
  name := "D"
  description := none
  size := none
  access := none
  peripherals := [{
    name := "P", array := none, derivedFrom := none, baseAddress := 0, size := none, access := none
    description := none
    registers := some [.register {
      name := "R", array := none, derivedFrom := none, addressOffset := 0, size := none
      access := none, description := none
      fields := some [
        blockField "MODE" none 0 [⟨none, none, [⟨"on", some 1, none⟩, ⟨"other", none, none⟩]⟩],
        blockField "COPY" (some "MODE") 2 [⟨some "rest", none, [⟨"other", none, none⟩]⟩],
        blockField "LOST" none 4 [⟨none, some "gone", []⟩],
        blockField "REST" none 6 [⟨none, some "rest", []⟩]] }] }]

theorem blocksDocument_outcome : ∃ described device, blocksDocument.describe = .ok described ∧
    Derivation.resolve described.device = .ok device ∧
    device.peripherals.map (·.registers.map (·.fields.map (·.enumeratedValues))) =
      [[[some [⟨"on", 1, none⟩], some [⟨"on", 1, none⟩], none, none]]] := by
  have computed : (blocksDocument.describe.toOption.any fun described =>
      (Derivation.resolve described.device).toOption.any fun device => decide (
        device.peripherals.map (·.registers.map (·.fields.map (·.enumeratedValues))) =
          [[[some [⟨"on", 1, none⟩], some [⟨"on", 1, none⟩], none, none]]])) = true := by
    decide +kernel
  obtain ⟨described, hd, computed⟩ := any_toOption_iff.1 computed
  obtain ⟨device, hr, computed⟩ := any_toOption_iff.1 computed
  exact ⟨described, device, hd, hr, of_decide_eq_true computed⟩

theorem blocksDocument_constants : ∃ described device run,
    blocksDocument.describe = .ok described ∧
    Derivation.resolve described.device = .ok device ∧
    device.peripherals.map (·.registers.map (·.fields.map (·.enumeratedValues))) =
      [[[some [⟨"on", 1, none⟩], some [⟨"on", 1, none⟩], none, none]]] ∧
    generate device {} none = .ok run ∧
    ∀ e ∈ emissionsOf device {} none, ∀ id values,
      .group id values ∈ e.declarations.declared →
        ∃ first rest, values.constants = .ok (first :: rest) := by
  obtain ⟨described, device, hd, hr, hvalues⟩ := blocksDocument_outcome
  obtain ⟨run, hg⟩ := @exists_generate {} rfl device none
  refine ⟨described, device, run, hd, hr, hvalues, hg, fun e he id values hgroup => ?_⟩
  obtain ⟨first, rest, hc, -⟩ := (groups_have_constants hd hr hg).2.2.2 e he id values hgroup
  exact ⟨first, rest, hc⟩

end RegisterHeaders.Header
