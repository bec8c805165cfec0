import RegisterHeaders.Proofs.Header.Run

/-!
# Runs that succeed

The number of constants of a synthesized group could overflow, but a field only has such a group if
it is narrow. So what the registers request always has a text, the headers of a peripheral are
always made, and nothing but a width conflict in a strict run keeps a run from giving headers
(`exists_generate_iff`).
-/

namespace RegisterHeaders.Header

open Steps

variable {maxWidth : UInt32} {peripheral : String} {register : Register}

/-! ## The texts of what is requested -/

theorem constants_of_groupValues {field : Field} {values : Group.Values}
    (h : field.groupValues maxWidth = some values) :
    ∃ constants, values.constants = .ok constants := by
  rcases Field.groupValues_eq_some_iff.1 h with ⟨list, -, rfl⟩ | ⟨-, ⟨-, capped⟩, rfl⟩
  · exact ⟨_, rfl⟩
  · have narrow : field.bitWidth.toNat ≤ 16 := UInt32.le_iff_toNat_le.1 capped
    exact ⟨_, if_pos (by omega)⟩

/-- A register requests the groups of its fields, or its placeholder. -/
theorem request_cases {defined : List String} {d : Declaration}
    (h : d ∈ registerRequests maxWidth peripheral defined register) :
    (∃ field ∈ register.fields, ∃ values, field.groupValues maxWidth = some values ∧
      d = .group (Group.identifier peripheral register.name field.name) values) ∨
    d = .placeholder (Group.placeholder peripheral register.name) := by
  rw [registerRequests] at h
  split at h
  · obtain ⟨field, hf, hd⟩ := List.mem_filterMap.1 h
    obtain ⟨values, hv, rfl⟩ := Option.map_eq_some_iff.1 hd
    exact Or.inl ⟨field, hf, values, hv, rfl⟩
  · split at h
    · cases h
    · exact Or.inr (List.mem_singleton.1 h)

/-- What a register requests has a text: synthesized groups are narrow. -/
theorem lines_of_registerRequest {defined : List String} {d : Declaration}
    (h : d ∈ registerRequests maxWidth peripheral defined register) :
    ∃ lines, d.lines = .ok lines := by
  rcases request_cases h with ⟨field, -, values, hv, rfl⟩ | rfl
  · obtain ⟨constants, hc⟩ := constants_of_groupValues hv
    exact ⟨_, by rw [Declaration.lines, hc]; rfl⟩
  · exact ⟨_, rfl⟩

theorem exists_register_of_request {defined : List String} {registers : List (String × Register)}
    {d : Declaration} (h : d ∈ runRequests maxWidth defined registers) :
    ∃ r ∈ registers, ∃ defined', d ∈ registerRequests maxWidth r.1 defined' r.2 := by
  induction registers generalizing defined with
  | nil => cases h
  | cons r rest ih =>
    rw [runRequests] at h
    rcases List.mem_append.1 h with h | h
    · exact ⟨r, List.mem_cons_self, defined, h⟩
    · obtain ⟨r', hr, h⟩ := ih h
      exact ⟨r', List.mem_cons_of_mem r hr, h⟩

theorem lines_of_request {defined : List String} {registers : List (String × Register)}
    {d : Declaration} (h : d ∈ runRequests maxWidth defined registers) :
    ∃ lines, d.lines = .ok lines := by
  obtain ⟨r, -, defined', h⟩ := exists_register_of_request h
  exact lines_of_registerRequest h

theorem exists_declarationLines (options : Options) (registry : Group.Registry) (p : Peripheral) :
    ∃ lines, (declarePeripheral options.narrowFieldMaxWidth registry p).1.declared.mapM
      Declaration.lines = .ok lines := by
  refine exists_mapM_eq_ok fun d hd => ?_
  rw [declared_declarePeripheral] at hd
  exact lines_of_request (mem_of_mem_firstRequests hd)

/-! ## Runs that succeed -/

/-- The headers of a peripheral are always made. -/
theorem exists_peripheralHeaders (options : Options) (device : String) (registry : Group.Registry)
    (p : Peripheral) :
    ∃ headers, peripheralHeaders options device registry p =
      .ok (headers, (declarePeripheral options.narrowFieldMaxWidth registry p).2) := by
  obtain ⟨lines, hl⟩ := exists_declarationLines options registry p
  have text : ∃ text, enumerationsText options device p
      (declarePeripheral options.narrowFieldMaxWidth registry p).1.declared = .ok text := by
    rw [enumerationsText, hl]
    exact ⟨_, rfl⟩
  obtain ⟨text, ht⟩ := text
  exact ⟨_, peripheralHeaders_eq_ok_iff.2 ⟨⟨text, ht, rfl⟩, rfl⟩⟩

theorem exists_headersOf (options : Options) (device : String) (registry : Group.Registry)
    (peripherals : List Peripheral) :
    ∃ headers, headersOf options device registry peripherals = .ok headers := by
  induction peripherals generalizing registry with
  | nil => exact ⟨[], rfl⟩
  | cons p rest ih =>
    obtain ⟨first, hf⟩ := exists_peripheralHeaders options device registry p
    obtain ⟨others, ho⟩ := ih (declarePeripheral options.narrowFieldMaxWidth registry p).2
    exact ⟨first :: others, bind_eq_ok_iff.2 ⟨_, hf, bind_eq_ok_iff.2 ⟨_, ho, rfl⟩⟩⟩

/-- A run gives headers unless it is strict and has a width conflict. -/
theorem exists_generate_iff {device : Device} {options : Options} {filter : Option String} :
    (∃ run, generate device options filter = .ok run) ↔
      (options.strictEnumWidths = true →
        Group.conflicts options.narrowFieldMaxWidth (device.selected filter) = []) := by
  constructor
  · rintro ⟨run, h⟩
    exact (generate_eq_ok_iff.1 h).1
  · intro h
    obtain ⟨headers, hh⟩ := exists_headersOf options device.name .empty (device.selected filter)
    exact ⟨⟨headers, _⟩, generate_eq_ok_iff.2 ⟨h, headersOf_eq_ok_iff.1 hh, rfl⟩⟩

/-- A run that gives no headers is strict and reports its first width conflict. -/
theorem generate_eq_error_iff {device : Device} {options : Options} {filter : Option String}
    {cause : GenerationError} :
    generate device options filter = .error cause ↔
      options.strictEnumWidths = true ∧ ∃ conflict rest,
        Group.conflicts options.narrowFieldMaxWidth (device.selected filter) = conflict :: rest ∧
          cause = .widthConflict conflict := by
  obtain ⟨headers, made⟩ := exists_headersOf options device.name .empty (device.selected filter)
  rw [generate, made]
  rcases options.strictEnumWidths with _ | _ <;>
    rcases Group.conflicts options.narrowFieldMaxWidth (device.selected filter) with _ | ⟨c, cs⟩ <;>
    simp [eq_comm]

/-- A run that is not strict always gives headers. -/
theorem exists_generate {options : Options} (h : options.strictEnumWidths = false)
    (device : Device) (filter : Option String) :
    ∃ run, generate device options filter = .ok run := by
  refine exists_generate_iff.2 fun strict => ?_
  rw [h] at strict
  exact Bool.noConfusion strict

end RegisterHeaders.Header
