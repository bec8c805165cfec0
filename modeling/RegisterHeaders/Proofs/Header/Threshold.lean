import RegisterHeaders.Proofs.Header.WidthReport

/-!
# The threshold of narrow fields

A field without enumerated values has a group if its width is at most the threshold of the options,
up to 16 bits. Raising the threshold gives groups to more fields. The first field of a group can
then be another one, so the conflicts under the two thresholds need not have anything in common. But
all fields that have a group keep it, and whether there is a conflict at all is a question about any
two of them: a run without conflicts has none under a lower threshold either
(`conflicts_eq_nil_anti`).

From 16 bits on the threshold makes no difference. Both the conflicts and the headers know it only
through the groups that it gives to fields, so all runs with such thresholds are the same
(`generate_congr`).
-/

namespace RegisterHeaders.Header

variable {m n : UInt32} {peripherals : List Peripheral}

/-! ## A higher threshold -/

theorem groupValues_mono (h : m ≤ n) {field : Field} {values : Group.Values}
    (hv : field.groupValues m = some values) : field.groupValues n = some values := by
  rw [Field.groupValues_eq_some_iff] at hv ⊢
  rcases hv with explicit | ⟨unlisted, ⟨narrow, capped⟩, hv⟩
  · exact Or.inl explicit
  · exact Or.inr ⟨unlisted, ⟨UInt32.le_trans narrow h, capped⟩, hv⟩

/-- A field that has a group has the same alias under a higher threshold. -/
theorem fieldAlias_mono (h : m ≤ n) (peripheral : String) (register : Register) {field : Field}
    {values : Group.Values} (hv : field.groupValues m = some values) :
    fieldAlias n peripheral register field = fieldAlias m peripheral register field := by
  simp only [fieldAlias, hv, groupValues_mono h hv]

theorem groupedFields_sublist (h : m ≤ n) (peripherals : List Peripheral) :
    (groupedFields m peripherals).Sublist (groupedFields n peripherals) := by
  apply List.monotone_filter_right
  intro f hf
  obtain ⟨values, hv⟩ := Option.isSome_iff_exists.1 hf
  simp [groupValues_mono h hv]

/-- Without conflicts, there are none under a lower threshold: any two fields that share a group
under it share that group under the higher one, and so have the same width. -/
theorem conflicts_eq_nil_anti (h : m ≤ n) (hn : Group.conflicts n peripherals = []) :
    Group.conflicts m peripherals = [] := by
  rw [conflicts_eq_nil_iff_widths] at hn ⊢
  have kept := (groupedFields_sublist h peripherals).subset
  intro f hf g hg same
  exact hn f (kept hf) g (kept hg) same

/-! ## Thresholds that give the same groups -/

theorem groupValues_of_widest_le (h : Group.widestSynthesized ≤ m) :
    Field.groupValues m = Field.groupValues Group.widestSynthesized := by
  funext field
  have capped : field.bitWidth ≤ m ∧ field.bitWidth ≤ Group.widestSynthesized ↔
      field.bitWidth ≤ Group.widestSynthesized ∧ field.bitWidth ≤ Group.widestSynthesized := by
    constructor
    · exact fun ⟨_, narrow⟩ => ⟨narrow, narrow⟩
    · exact fun ⟨narrow, _⟩ => ⟨UInt32.le_trans narrow h, narrow⟩
  simp only [Field.groupValues, capped]

section Congruence

variable (same : Field.groupValues m = Field.groupValues n)

include same

theorem conflicts_congr (peripherals : List Peripheral) :
    Group.conflicts m peripherals = Group.conflicts n peripherals := by
  simp only [Group.conflicts, Group.uses, same]

theorem fieldAlias_congr : fieldAlias m = fieldAlias n := by
  funext peripheral register field
  simp only [fieldAlias, same]

theorem requestGroup_congr : requestGroup m = requestGroup n := by
  funext peripheral register s field
  simp only [requestGroup, same]

theorem declareRegister_congr : declareRegister m = declareRegister n := by
  funext peripheral s register
  simp only [declareRegister, fieldAlias_congr same, requestGroup_congr same]

theorem declareRegisters_congr (peripheral : String) (s : State) (registers : List Register) :
    declareRegisters m peripheral s registers = declareRegisters n peripheral s registers := by
  induction registers generalizing s with
  | nil => rfl
  | cons register rest ih => simp only [declareRegisters, declareRegister_congr same, ih]

theorem peripheralHeaders_congr (options : Options) (device : String) (registry : Group.Registry)
    (p : Peripheral) :
    peripheralHeaders { options with narrowFieldMaxWidth := m } device registry p =
      peripheralHeaders { options with narrowFieldMaxWidth := n } device registry p := by
  simp only [peripheralHeaders, declarePeripheral, declareRegisters_congr same]
  rfl

theorem headersOf_congr (options : Options) (device : String) (registry : Group.Registry)
    (peripherals : List Peripheral) :
    headersOf { options with narrowFieldMaxWidth := m } device registry peripherals =
      headersOf { options with narrowFieldMaxWidth := n } device registry peripherals := by
  induction peripherals generalizing registry with
  | nil => rfl
  | cons p rest ih => simp only [headersOf, peripheralHeaders_congr same, ih]

/-- A run depends on its threshold only through the groups that it gives to fields. -/
theorem generate_congr (device : Device) (options : Options) (filter : Option String) :
    generate device { options with narrowFieldMaxWidth := m } filter =
      generate device { options with narrowFieldMaxWidth := n } filter := by
  simp only [generate, conflicts_congr same, headersOf_congr same]

end Congruence

/-! ## The threshold of a run -/

/-- Under a higher threshold, the fields of the selected peripherals that have a group keep its
values and their aliases. If there is no width conflict under the higher threshold there is none
under the lower one, so a strict run that gives headers under the higher one gives some under the
lower one. Runs with thresholds of 16 or more are the same: their headers, warnings and errors are.
-/
theorem threshold_monotone_capped (device : Device) (filter : Option String) :
    (∀ m n : UInt32, m ≤ n →
      (∀ p ∈ device.selected filter, ∀ r ∈ p.registers, ∀ f ∈ r.fields, ∀ values,
        f.groupValues m = some values →
          f.groupValues n = some values ∧ fieldAlias n p.name r f = fieldAlias m p.name r f) ∧
      (Group.conflicts n (device.selected filter) = [] →
        Group.conflicts m (device.selected filter) = []) ∧
      ∀ options : Options, options.strictEnumWidths = true →
        (∃ run, generate device { options with narrowFieldMaxWidth := n } filter = .ok run) →
          ∃ run, generate device { options with narrowFieldMaxWidth := m } filter = .ok run) ∧
    ∀ (options : Options) (m n : UInt32), 16 ≤ m → 16 ≤ n →
      generate device { options with narrowFieldMaxWidth := m } filter =
        generate device { options with narrowFieldMaxWidth := n } filter := by
  constructor
  · intro m n h
    refine ⟨?_, conflicts_eq_nil_anti h, ?_⟩
    · intro p _ r _ f _ values hv
      exact ⟨groupValues_mono h hv, fieldAlias_mono h p.name r hv⟩
    · intro options strict passes
      have hn := exists_generate_iff.1 passes strict
      exact exists_generate_iff.2 fun _ => conflicts_eq_nil_anti h hn
  · intro options m n hm hn
    apply generate_congr
    rw [groupValues_of_widest_le hm, groupValues_of_widest_le hn]

/-- A register with a field of three bits. -/
def modeRegister (name : String) (address : UInt64) (values : Option (List EnumValue)) :
    Register where
  name
  address
  offset := address
  access := .readWrite
  width := 32
  description := none
  fields := [
    { name := "MODE", access := .readWrite, bitOffset := 0, bitWidth := 3, description := none
      enumeratedValues := values }]

/-- A device with two registers that share a group. Only the field of the second one has enumerated
values, so it is the first of the group under thresholds below three bits. -/
def modeDevice : Device where
  name := "D"
  description := none
  access := .readWrite
  width := 32
  peripherals := [
    { name := "TIMER", baseAddress := 0, access := .readWrite, width := 32, description := none
      registers := [modeRegister "CR1" 0 none, modeRegister "CR2" 4 (some [⟨"ON", 1, none⟩])] }]

theorem modeDevice_thresholds :
    (2 : UInt32) ≤ 3 ∧ Group.conflicts 3 modeDevice.peripherals = [] ∧
    Group.conflicts 2 modeDevice.peripherals = [] ∧
    (∃ run, generate modeDevice { narrowFieldMaxWidth := 3, strictEnumWidths := true } none =
      .ok run) ∧
    (∃ run, generate modeDevice { narrowFieldMaxWidth := 2, strictEnumWidths := true } none =
      .ok run) ∧
    generate modeDevice { narrowFieldMaxWidth := 16 } none =
      generate modeDevice { narrowFieldMaxWidth := 4294967295 } none := by
  have h : (2 : UInt32) ≤ 3 := by decide
  have hn : Group.conflicts 3 modeDevice.peripherals = [] := by decide +kernel
  obtain ⟨raised, capped⟩ := threshold_monotone_capped modeDevice none
  obtain ⟨-, conflicts, strict⟩ := raised 2 3 h
  have passes : ∃ run, generate modeDevice { narrowFieldMaxWidth := 3, strictEnumWidths := true }
      none = .ok run :=
    exists_generate_iff.2 fun _ => hn
  exact ⟨h, hn, conflicts hn, passes, strict { strictEnumWidths := true } rfl passes,
    capped {} 16 4294967295 (by decide) (by decide)⟩

end RegisterHeaders.Header
