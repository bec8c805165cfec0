import RegisterHeaders.Proofs.Header.Run

/-!
# The definition of a group

An alias that names a group needs its definition: the marker and the constants. A run writes it
once, no later than the alias, unless a register takes the identifier of the group for its
placeholder first: then the run has written the marker alone, and the fields that ask for the group
afterwards get a reference to a definition that is nowhere. `TakesPlaceholder` says when a register
does that. The main result is that this is the only way for a group to be left without a definition.
-/

namespace RegisterHeaders.Header

open Steps

variable {maxWidth : UInt32} {registry : Group.Registry} {id : String}

/-! ## Definitions -/

/-- Whether a declaration is the definition of the group `id`. -/
def Declaration.definesGroup (id : String) : Declaration → Bool
  | group other _ => other = id
  | placeholder _ => false

/-- The run defines the group `id` once, and it is one of the emissions `early` that does. -/
def DefinedOnce (run early : List Emission) (id : String) : Prop :=
  (allDeclared run).countP (Declaration.definesGroup id) = 1 ∧
    ∃ values, .group id values ∈ allDeclared early

theorem definesGroup_iff {d : Declaration} :
    d.definesGroup id = true ↔ ∃ values, d = .group id values := by
  cases d with
  | group other values => simp [Declaration.definesGroup]
  | placeholder other => simp [Declaration.definesGroup]

theorem countP_definesGroup_le {declared : List Declaration}
    (h : (declared.map Declaration.id).Nodup) :
    declared.countP (Declaration.definesGroup id) ≤ 1 := by
  calc declared.countP (Declaration.definesGroup id)
      ≤ declared.countP ((· == id) ∘ Declaration.id) := by
        refine List.countP_mono_left fun d _ hd => ?_
        obtain ⟨values, rfl⟩ := definesGroup_iff.1 hd
        exact beq_self_eq_true id
    _ = (declared.map Declaration.id).count id := by
        rw [List.count, List.countP_map]
    _ ≤ 1 := List.nodup_iff_count_le_one.1 h id

/-- A group that an alias names is defined once, by its own peripheral or an earlier one, if and
only if its identifier is not that of a placeholder. -/
theorem definedOnce_iff {peripherals : List Peripheral} {before after : List Emission}
    {e : Emission} (h : emissions maxWidth .empty peripherals = before ++ e :: after)
    {struct : RegisterStruct} (hs : struct ∈ e.declarations.structs) {a : FieldAlias}
    (ha : a ∈ struct.aliases) (he : a.enumerated = true) :
    DefinedOnce (emissions maxWidth .empty peripherals) (before ++ [e]) a.identifier ↔
      .placeholder a.identifier ∉ allDeclared (emissions maxWidth .empty peripherals) := by
  have hn := nodup_allDeclared maxWidth .empty peripherals
  have early : allDeclared (before ++ [e]) ⊆
      allDeclared (emissions maxWidth .empty peripherals) := by
    intro d hd
    rw [h, List.append_cons, allDeclared_append]
    exact List.mem_append_left _ hd
  constructor
  · rintro ⟨-, values, hg⟩ hp
    have := List.inj_on_of_nodup_map hn (early hg) hp rfl
    exact Declaration.noConfusion this
  · intro hp
    rcases exists_declared_of_alias h hs ha he with hd | ⟨d, hd, hi⟩
    · simp [Group.Registry.empty] at hd
    · cases d with
      | group id values =>
        obtain rfl : id = a.identifier := hi
        have hpos := List.countP_pos_iff.2 ⟨_, early hd, definesGroup_iff.2 ⟨values, rfl⟩⟩
        exact ⟨Nat.le_antisymm (countP_definesGroup_le hn) hpos, values, hd⟩
      | placeholder id =>
        obtain rfl : id = a.identifier := hi
        exact absurd (early hd) hp

/-! ## Placeholders -/

/-- A register takes `id` for its placeholder when `defined` is defined: its names make `id`, none
of its fields has a group, and neither `id` nor the identifier of a field is defined. -/
def TakesPlaceholder (maxWidth : UInt32) (defined : List String) (peripheral : String)
    (register : Register) (id : String) : Prop :=
  Group.placeholder peripheral register.name = id ∧ id ∉ defined ∧
    ∀ field ∈ register.fields, field.groupValues maxWidth = none ∧
      Group.identifier peripheral register.name field.name ∉ defined

/-- One of the registers takes `id` for its placeholder, given what those before it request. -/
def TakenByPlaceholder (maxWidth : UInt32) (registers : List (String × Register)) (id : String) :
    Prop :=
  ∃ before peripheral register after, registers = before ++ (peripheral, register) :: after ∧
    TakesPlaceholder maxWidth (definedAfter [] (runRequests maxWidth [] before)) peripheral register
      id

theorem placeholder_not_mem_groupRequests {peripheral : String} {register : Register} :
    .placeholder id ∉ groupRequests maxWidth peripheral register := by
  intro h
  obtain ⟨field, -, hf⟩ := List.mem_filterMap.1 h
  obtain ⟨values, -, hv⟩ := Option.map_eq_some_iff.1 hf
  exact Declaration.noConfusion hv

theorem placeholder_mem_firstRequests_register_iff {defined : List String} {peripheral : String}
    {register : Register} :
    .placeholder id ∈ firstRequests defined
        (registerRequests maxWidth peripheral defined register) ↔
      TakesPlaceholder maxWidth defined peripheral register id := by
  rw [TakesPlaceholder, registerRequests]
  by_cases hg : groupRequests maxWidth peripheral register = []
  · have groupless := groupRequests_eq_nil_iff.1 hg
    rw [if_neg (not_not_intro hg)]
    by_cases hf : ∃ field ∈ register.fields,
        Group.identifier peripheral register.name field.name ∈ defined
    · rw [if_pos hf]
      obtain ⟨field, hm, hd⟩ := hf
      refine ⟨fun h => absurd (mem_of_mem_firstRequests h) List.not_mem_nil, ?_⟩
      rintro ⟨-, -, h⟩
      exact absurd hd (h field hm).2
    · rw [if_neg hf, mem_firstRequests_singleton_iff, Declaration.placeholder.injEq]
      exact and_congr_right fun _ => (and_iff_left fun field hm =>
        ⟨groupless field hm, fun hd => hf ⟨field, hm, hd⟩⟩).symm
  · rw [if_pos hg]
    refine ⟨fun h => absurd (mem_of_mem_firstRequests h) placeholder_not_mem_groupRequests, ?_⟩
    rintro ⟨-, -, h⟩
    exact absurd (groupRequests_eq_nil_iff.2 fun field hm => (h field hm).1) hg

/-- A run writes the marker of `id` alone if and only if one of its registers takes `id` for its
placeholder. -/
theorem placeholder_mem_allDeclared_iff {peripherals : List Peripheral} :
    .placeholder id ∈ allDeclared (emissions maxWidth .empty peripherals) ↔
      TakenByPlaceholder maxWidth (runRegisters peripherals) id := by
  simp only [declared_emissions, mem_firstRequests_run_iff,
    placeholder_mem_firstRequests_register_iff]
  rfl

/-! ## The groups of a run -/

/-- The headers of a run are the texts of its emissions. A group that one of their aliases names is
defined once in the run, in the enumerations of the same peripheral or of an earlier one, unless a
register takes its identifier for a placeholder; then the run writes the marker alone. -/
theorem generate_defines_groups {device : Device} {options : Options} {filter : Option String}
    {run : Generated} (h : generate device options filter = .ok run) :
    List.Forall₂ (Emission.Renders options device.name) (emissionsOf device options filter)
      run.headers ∧
    (∀ before e after, emissionsOf device options filter = before ++ e :: after →
      ∀ struct ∈ e.declarations.structs, ∀ a ∈ struct.aliases, a.enumerated = true →
        (DefinedOnce (emissionsOf device options filter) (before ++ [e]) a.identifier ↔
          ¬ TakenByPlaceholder options.narrowFieldMaxWidth (runRegisters (device.selected filter))
            a.identifier)) ∧
    ∀ id, .placeholder id ∈ allDeclared (emissionsOf device options filter) ↔
      TakenByPlaceholder options.narrowFieldMaxWidth (runRegisters (device.selected filter)) id := by
  refine ⟨(generate_eq_ok_iff.1 h).2.1, ?_, fun id => placeholder_mem_allDeclared_iff⟩
  intro before e after hsplit struct hs a ha he
  rw [emissionsOf, definedOnce_iff hsplit hs ha he, placeholder_mem_allDeclared_iff]

/-- A device whose first register takes, for its placeholder, the identifier of the group of the
only field of its second register: the letters of `B_C` are those of `B` and `C`. -/
def lettersDevice : Device where
  name := "D"
  description := none
  access := .readWrite
  width := 32
  peripherals := [
    { name := "A", baseAddress := 0, access := .readWrite, width := 32, description := none
      registers := [
        { name := "B_C", address := 0, offset := 0, access := .readWrite, width := 32
          description := none, fields := [] },
        { name := "B", address := 4, offset := 4, access := .readWrite, width := 32
          description := none
          fields := [
            { name := "C", access := .readWrite, bitOffset := 0, bitWidth := 1
              description := none, enumeratedValues := none }] }] }]

theorem lettersDevice_generates : ∃ run, generate lettersDevice {} none = .ok run := by
  have computed : ((generate lettersDevice {} none).toOption.any fun _ => true) = true := by
    decide +kernel
  obtain ⟨run, h, -⟩ := any_toOption_iff.1 computed
  exact ⟨run, h⟩

theorem lettersDevice_groups : ∃ run, generate lettersDevice {} none = .ok run ∧
    List.Forall₂ (Emission.Renders {} "D") (emissionsOf lettersDevice {} none) run.headers ∧
    ∀ e, emissionsOf lettersDevice {} none = [e] →
      ∀ struct ∈ e.declarations.structs, ∀ a ∈ struct.aliases, a.enumerated = true →
        (DefinedOnce (emissionsOf lettersDevice {} none) [e] a.identifier ↔
          ¬ TakenByPlaceholder 5 (runRegisters lettersDevice.peripherals) a.identifier) := by
  obtain ⟨run, h⟩ := lettersDevice_generates
  obtain ⟨texts, defined, -⟩ := generate_defines_groups h
  exact ⟨run, h, texts, fun e he => defined [] e [] he⟩

/-- The alias of the field `C` names a group that the run never defines. -/
theorem lettersDevice_lacks_definition : ∃ run e, generate lettersDevice {} none = .ok run ∧
    emissionsOf lettersDevice {} none = [e] ∧ ∃ struct ∈ e.declarations.structs,
      ∃ a ∈ struct.aliases, a.enumerated = true ∧ a.identifier = "ABCValues" ∧
        ¬ DefinedOnce (emissionsOf lettersDevice {} none) [e] a.identifier := by
  obtain ⟨run, h⟩ := lettersDevice_generates
  obtain ⟨e, he⟩ : ∃ e, emissionsOf lettersDevice {} none = [e] := ⟨_, rfl⟩
  have declared : allDeclared (emissionsOf lettersDevice {} none) = [.placeholder "ABCValues"] := by
    decide +kernel
  have aliases : ∃ e ∈ emissionsOf lettersDevice {} none, ∃ struct ∈ e.declarations.structs,
      ∃ a ∈ struct.aliases, a.enumerated = true ∧ a.identifier = "ABCValues" := by
    decide +kernel
  obtain ⟨e', hm, struct, hs, a, ha, hen, hid⟩ := aliases
  obtain rfl : e' = e := by simpa [he] using hm
  refine ⟨run, e', h, he, struct, hs, a, ha, hen, hid, ?_⟩
  rintro ⟨-, values, hv⟩
  rw [← he, declared, List.mem_singleton] at hv
  exact Declaration.noConfusion hv

end RegisterHeaders.Header
