import RegisterHeaders.Proofs.Group.FirstUse
import RegisterHeaders.Proofs.Header.Success

/-!
# The field that defines a group

A group is defined while the headers are made, by the field whose request is the first of its
identifier. The width conflicts are found before, by another walk over the same fields. A
`FieldSite` is a field of a run with everything that stands before it, and its state is the one that
the generation has reached there. So it can be said which field defines a group: it is the first
with the group, and the one that the width conflicts are measured against. In a strict run, which
has no conflicts, all fields of a defined group therefore have the width of its constants.
-/

namespace RegisterHeaders.Header

variable {maxWidth : UInt32} {peripheral : String} {register : Register} {id : String}
  {values : Group.Values} {peripherals : List Peripheral}

/-! ## The fields of a run -/

/-- A field with the names of its peripheral and its register. -/
structure NamedField where
  peripheral : String
  register : String
  field : Field

namespace NamedField

/-- The identifier that the names of the field make. -/
def identifier (f : NamedField) : String :=
  Group.identifier f.peripheral f.register f.field.name

/-- The field as a user of its group. -/
def use (f : NamedField) : Group.Use where
  group := f.identifier
  path := f.peripheral ++ "." ++ f.register ++ "." ++ f.field.name
  width := f.field.bitWidth

theorem use_group (f : NamedField) : f.use.group = f.identifier :=
  rfl

/-- The field has values of the group `id`. -/
def HasGroup (maxWidth : UInt32) (id : String) (f : NamedField) : Prop :=
  (f.field.groupValues maxWidth).isSome = true ∧ f.identifier = id

instance : DecidablePred (HasGroup maxWidth id) := fun _ => inferInstanceAs (Decidable (_ ∧ _))

end NamedField

/-- The fields of a register in document order. -/
def registerFields (peripheral : String) (register : Register) : List NamedField :=
  register.fields.map (⟨peripheral, register.name, ·⟩)

/-- The fields of a list of registers in document order. -/
def runFields (registers : List (String × Register)) : List NamedField :=
  registers.flatMap fun r => registerFields r.1 r.2

theorem runFields_append (first rest : List (String × Register)) :
    runFields (first ++ rest) = runFields first ++ runFields rest :=
  List.flatMap_append

/-- The uses of groups are those of the fields that have one. -/
theorem uses_eq (maxWidth : UInt32) (peripherals : List Peripheral) :
    Group.uses maxWidth peripherals =
      ((runFields (runRegisters peripherals)).filter
        fun f => (f.field.groupValues maxWidth).isSome).map NamedField.use := by
  simp only [Group.uses, runFields, runRegisters, registerFields, List.flatMap_assoc,
    List.flatMap_map, List.filter_flatMap, List.map_flatMap, List.filter_map, List.map_map]
  rfl

/-- The first use of a group is that of the first field that has it. -/
theorem find?_uses :
    (Group.uses maxWidth peripherals).find? (·.group = id) =
      ((runFields (runRegisters peripherals)).find? (NamedField.HasGroup maxWidth id)).map
        NamedField.use := by
  have same (f : NamedField) :
      decide ((f.field.groupValues maxWidth).isSome = true ∧
        decide (f.use.group = id) = true) = decide (f.HasGroup maxWidth id) := by
    rw [decide_eq_decide, decide_eq_true_iff, NamedField.use_group, NamedField.HasGroup]
  rw [uses_eq, List.find?_map, List.find?_filter]
  simp only [Function.comp_apply, same]

/-- A field with a group makes a request of the group's identifier. -/
theorem exists_groupRequest_of_hasGroup {f : NamedField}
    (hf : f ∈ registerFields peripheral register) (hg : f.HasGroup maxWidth id) :
    ∃ d ∈ groupRequests maxWidth peripheral register, d.id = id := by
  obtain ⟨field, hm, rfl⟩ := List.mem_map.1 hf
  obtain ⟨hv, rfl⟩ := hg
  change ∃ d ∈ groupRequests maxWidth peripheral register,
    d.id = (fieldAlias maxWidth peripheral register field).identifier
  exact exists_groupRequest (List.mem_map_of_mem hm) hv

theorem exists_runRequest_of_hasGroup {registers : List (String × Register)} {f : NamedField}
    (hf : f ∈ runFields registers) (hg : f.HasGroup maxWidth id) (defined : List String) :
    ∃ d ∈ runRequests maxWidth defined registers, d.id = id := by
  induction registers generalizing defined with
  | nil => cases hf
  | cons r rest ih =>
    rw [runFields, List.flatMap_cons, List.mem_append] at hf
    rw [runRequests]
    rcases hf with hf | hf
    · obtain ⟨d, hd, hi⟩ := exists_groupRequest_of_hasGroup hf hg
      exact ⟨d, List.mem_append_left _ (groupRequests_subset hd), hi⟩
    · obtain ⟨d, hd, hi⟩ := ih hf _
      exact ⟨d, List.mem_append_right _ hd, hi⟩

/-! ## Sites -/

/-- A field of a run, with what stands before it: the peripherals before its peripheral, the
registers of its peripheral before its register, the fields of its register before it. -/
structure FieldSite where
  earlierPeripherals : List Peripheral
  peripheral : Peripheral
  earlierRegisters : List Register
  register : Register
  earlierFields : List Field
  field : Field

namespace FieldSite

/-- The site is one of a run over the given peripherals. -/
structure In (site : FieldSite) (peripherals : List Peripheral) : Prop where
  peripherals : ∃ later, peripherals = site.earlierPeripherals ++ site.peripheral :: later
  registers : ∃ later,
    site.peripheral.registers = site.earlierRegisters ++ site.register :: later
  fields : ∃ later, site.register.fields = site.earlierFields ++ site.field :: later

def named (site : FieldSite) : NamedField :=
  ⟨site.peripheral.name, site.register.name, site.field⟩

/-- The registers before that of the site. -/
def registersBefore (site : FieldSite) : List (String × Register) :=
  runRegisters site.earlierPeripherals ++ site.earlierRegisters.map (site.peripheral.name, ·)

/-- The register of the site, as far as it stands before the site. -/
def registerBefore (site : FieldSite) : Register :=
  { site.register with fields := site.earlierFields }

/-- The fields before the site, in document order. -/
def fieldsBefore (site : FieldSite) : List NamedField :=
  runFields site.registersBefore ++ registerFields site.peripheral.name site.registerBefore

/-- The state in which a run that starts with nothing defined comes to the site. -/
def state (maxWidth : UInt32) (site : FieldSite) : State :=
  let registry := registryAfter maxWidth .empty site.earlierPeripherals
  let s := (declareRegisters maxWidth site.peripheral.name ⟨registry, []⟩ site.earlierRegisters).2
  site.earlierFields.foldl (requestGroup maxWidth site.peripheral.name site.register) s

/-- At the site, the run declares the group `id` with the given values. -/
def Defines (maxWidth : UInt32) (id : String) (values : Group.Values) (site : FieldSite) : Prop :=
  let s := site.state maxWidth
  (requestGroup maxWidth site.peripheral.name site.register s site.field).declared =
    s.declared ++ [.group id values]

/-- What is requested before the site. -/
def requestsBefore (maxWidth : UInt32) (site : FieldSite) : List Declaration :=
  runRequests maxWidth [] site.registersBefore ++
    groupRequests maxWidth site.peripheral.name site.registerBefore

variable {site : FieldSite}

theorem In.exists_runRegisters_eq (h : site.In peripherals) :
    ∃ later, runRegisters peripherals =
      site.registersBefore ++ (site.peripheral.name, site.register) :: later := by
  obtain ⟨laterPeripherals, rfl⟩ := h.peripherals
  obtain ⟨laterRegisters, hr⟩ := h.registers
  refine ⟨laterRegisters.map (site.peripheral.name, ·) ++ runRegisters laterPeripherals, ?_⟩
  simp [runRegisters, registersBefore, hr]

/-- The fields of a run are those before a site of it, the field of the site, and others. -/
theorem In.exists_runFields_eq (h : site.In peripherals) :
    ∃ later, runFields (runRegisters peripherals) = site.fieldsBefore ++ site.named :: later := by
  obtain ⟨laterRegisters, hr⟩ := h.exists_runRegisters_eq
  obtain ⟨laterFields, hf⟩ := h.fields
  refine ⟨laterFields.map (⟨site.peripheral.name, site.register.name, ·⟩) ++
    runFields laterRegisters, ?_⟩
  rw [hr, runFields_append, fieldsBefore]
  simp [runFields, registerFields, registerBefore, named, hf]

/-- At a site, what was requested before it is defined. -/
theorem defined_state :
    (site.state maxWidth).registry.defined = definedAfter [] (site.requestsBefore maxWidth) := by
  have fields (s : State) :
      site.earlierFields.foldl (requestGroup maxWidth site.peripheral.name site.register) s =
        (groupRequests maxWidth site.peripheral.name site.registerBefore).foldl State.request s :=
    @foldl_requestGroup maxWidth site.peripheral.name s site.registerBefore
  simp only [state]
  rw [fields, defined_foldl_request, declareRegisters_snd, defined_foldl_request,
    defined_registryAfter, requestsBefore, registersBefore, runRequests_append,
    definedAfter_append, definedAfter_append]
  rfl

/-- A field defines its group if the identifier is not defined where the run comes to it. -/
theorem defines_iff :
    site.Defines maxWidth id values ↔
      site.field.groupValues maxWidth = some values ∧ site.named.identifier = id ∧
        id ∉ definedAfter [] (site.requestsBefore maxWidth) := by
  rw [Defines, requestGroup, ← defined_state]
  generalize site.state maxWidth = s
  have hid : site.named.identifier =
    Group.identifier site.peripheral.name site.register.name site.field.name := rfl
  rw [← hid]
  generalize site.named.identifier = own
  cases site.field.groupValues maxWidth with
  | none => simp
  | some found =>
    by_cases hm : own ∈ s.registry.defined
    · have kept : s.request (.group own found) = s := request_of_mem hm
      simp only [kept]
      constructor
      · intro h
        simp at h
      · rintro ⟨-, rfl, hn⟩
        exact absurd hm hn
    · have added : (s.request (.group own found)).declared = s.declared ++ [.group own found] :=
        declared_request_of_not_mem hm
      simp only [added, List.append_cancel_left_eq, List.cons.injEq, and_true,
        Declaration.group.injEq, Option.some.injEq]
      constructor
      · rintro ⟨rfl, rfl⟩
        exact ⟨rfl, rfl, hm⟩
      · rintro ⟨rfl, rfl, -⟩
        exact ⟨rfl, rfl⟩

end FieldSite

/-! ## The definitions of a run -/

theorem mem_firstRequests_filterMap_iff {α : Type} {defined : List String} {d : Declaration}
    {request : α → Option Declaration} {xs : List α} :
    d ∈ firstRequests defined (xs.filterMap request) ↔
      ∃ before x after, xs = before ++ x :: after ∧ request x = some d ∧
        d.id ∉ definedAfter defined (before.filterMap request) := by
  rw [mem_firstRequests_iff_append]
  constructor
  · rintro ⟨before, after, hr, hd⟩
    obtain ⟨first, rest, rfl, rfl, hrest⟩ := List.filterMap_eq_append_iff.1 hr
    obtain ⟨skipped, x, others, rfl, hskipped, hx, rfl⟩ := List.filterMap_eq_cons_iff.1 hrest
    refine ⟨first ++ skipped, x, others, by rw [List.append_assoc], hx, ?_⟩
    rwa [List.filterMap_append, List.filterMap_eq_nil_iff.2 hskipped, List.append_nil]
  · rintro ⟨before, x, after, rfl, hx, hd⟩
    refine ⟨_, after.filterMap request, ?_, hd⟩
    rw [List.filterMap_append, List.filterMap_cons, hx]

theorem group_mem_firstRequests_register_iff {defined : List String} :
    .group id values ∈ firstRequests defined
        (registerRequests maxWidth peripheral defined register) ↔
      ∃ before field after, register.fields = before ++ field :: after ∧
        field.groupValues maxWidth = some values ∧
        Group.identifier peripheral register.name field.name = id ∧
        id ∉ definedAfter defined
          (groupRequests maxWidth peripheral { register with fields := before }) := by
  have groups : .group id values ∈ firstRequests defined
        (registerRequests maxWidth peripheral defined register) ↔
      .group id values ∈ firstRequests defined (groupRequests maxWidth peripheral register) := by
    rw [registerRequests]
    split
    · rfl
    · next hg =>
      rw [not_not.1 hg]
      split
      · rfl
      · rw [mem_firstRequests_singleton_iff]
        simp [firstRequests]
  rw [groups, groupRequests, mem_firstRequests_filterMap_iff]
  simp only [Option.map_eq_some_iff, Declaration.group.injEq, Declaration.id, groupRequests]
  constructor
  · rintro ⟨before, field, after, hr, ⟨own, hv, hi, rfl⟩, hd⟩
    exact ⟨before, field, after, hr, hv, hi, hd⟩
  · rintro ⟨before, field, after, hr, hv, hi, hd⟩
    exact ⟨before, field, after, hr, ⟨values, hv, hi, rfl⟩, hd⟩

theorem exists_peripheral_of_runRegisters_eq {before after : List (String × Register)}
    (h : runRegisters peripherals = before ++ (peripheral, register) :: after) :
    ∃ ps p ps' rs rs', peripherals = ps ++ p :: ps' ∧ p.registers = rs ++ register :: rs' ∧
      p.name = peripheral ∧ before = runRegisters ps ++ rs.map (p.name, ·) := by
  induction peripherals generalizing before with
  | nil => simp [runRegisters] at h
  | cons p rest ih =>
    -- the register is one of the first peripheral, or one of the others
    have later (before' : List (String × Register))
        (hb : before = p.registers.map (p.name, ·) ++ before')
        (hrest : runRegisters rest = before' ++ (peripheral, register) :: after) :
        ∃ ps q ps' rs rs', p :: rest = ps ++ q :: ps' ∧ q.registers = rs ++ register :: rs' ∧
          q.name = peripheral ∧ before = runRegisters ps ++ rs.map (q.name, ·) := by
      obtain ⟨ps, q, ps', rs, rs', rfl, hrs, hname, rfl⟩ := ih hrest
      exact ⟨p :: ps, q, ps', rs, rs', rfl, hrs, hname, by rw [hb, runRegisters_cons,
        List.append_assoc]⟩
    rw [runRegisters_cons, List.append_eq_append_iff] at h
    rcases h with ⟨before', hb, hrest⟩ | ⟨_ | ⟨r, own⟩, hown, hrest⟩
    · exact later before' hb hrest
    · exact later [] (by rw [hown, List.append_nil, List.append_nil]) hrest.symm
    · obtain ⟨rfl, -⟩ := List.cons.inj hrest
      obtain ⟨rs, rs', hrs, rfl, hr⟩ := List.map_eq_append_iff.1 hown
      obtain ⟨register', rs'', rfl, hr, -⟩ := List.map_eq_cons_iff.1 hr
      obtain ⟨rfl, rfl⟩ := Prod.mk.inj hr
      exact ⟨[], p, rest, rs, rs'', rfl, hrs, rfl, rfl⟩

/-- A run declares a group where one of its fields defines it. -/
theorem group_mem_allDeclared_iff :
    .group id values ∈ allDeclared (emissions maxWidth .empty peripherals) ↔
      ∃ site : FieldSite, site.In peripherals ∧ site.Defines maxWidth id values := by
  rw [declared_emissions, mem_firstRequests_run_iff]
  simp only [group_mem_firstRequests_register_iff, FieldSite.defines_iff,
    FieldSite.requestsBefore, definedAfter_append]
  constructor
  · rintro ⟨before, name, register, after, hr, fields, field, later, hf, hv, hi, hd⟩
    obtain ⟨ps, p, ps', rs, rs', hp, hrs, rfl, rfl⟩ := exists_peripheral_of_runRegisters_eq hr
    exact ⟨⟨ps, p, rs, register, fields, field⟩, ⟨⟨ps', hp⟩, ⟨rs', hrs⟩, ⟨later, hf⟩⟩, hv, hi, hd⟩
  · rintro ⟨site, hin, hv, hi, hd⟩
    obtain ⟨after, hr⟩ := hin.exists_runRegisters_eq
    obtain ⟨later, hf⟩ := hin.fields
    exact ⟨_, _, _, after, hr, _, _, later, hf, hv, hi, hd⟩

/-! ## First uses -/

/-- The site is the first use of the group `id`: no field before it has the group, and the width
conflicts are found and reported against it. The constants are those of its field. -/
structure FieldSite.IsFirstUse (maxWidth : UInt32) (peripherals : List Peripheral) (id : String)
    (values : Group.Values) (site : FieldSite) : Prop where
  identifier : site.named.identifier = id
  groupValues : site.field.groupValues maxWidth = some values
  first : ∀ f ∈ site.fieldsBefore, ¬ f.HasGroup maxWidth id
  recorded : (Group.firstUses (Group.uses maxWidth peripherals)).find? (·.group = id) =
    some site.named.use
  reported : ∀ c ∈ Group.conflicts maxWidth peripherals, c.group = id →
    c.first = site.named.use.path ∧ c.firstWidth = site.field.bitWidth
  lines : ∃ constants, values.constants = .ok constants ∧
    (Declaration.group id values).lines = .ok (groupLines id constants)

namespace FieldSite

variable {site : FieldSite}

theorem not_hasGroup_of_not_mem (h : id ∉ definedAfter [] (site.requestsBefore maxWidth)) :
    ∀ f ∈ site.fieldsBefore, ¬ f.HasGroup maxWidth id := by
  intro f hf hg
  rw [mem_definedAfter_iff] at h
  refine h (Or.inr ?_)
  rcases List.mem_append.1 hf with hf | hf
  · obtain ⟨d, hd, hi⟩ := exists_runRequest_of_hasGroup hf hg []
    exact ⟨d, List.mem_append_left _ hd, hi⟩
  · obtain ⟨d, hd, hi⟩ := exists_groupRequest_of_hasGroup hf hg
    exact ⟨d, List.mem_append_right _ hd, hi⟩

/-- The first field with a group is the one that the width conflicts are found against. -/
theorem In.find?_firstUses (hin : site.In peripherals) (hg : site.named.HasGroup maxWidth id)
    (hfirst : ∀ f ∈ site.fieldsBefore, ¬ f.HasGroup maxWidth id) :
    (Group.firstUses (Group.uses maxWidth peripherals)).find? (·.group = id) =
      some site.named.use := by
  obtain ⟨later, hfields⟩ := hin.exists_runFields_eq
  rw [Group.find?_firstUses, find?_uses, hfields, List.find?_append,
    List.find?_eq_none.2 (by simpa using hfirst), Option.none_or,
    List.find?_cons_of_pos (by simpa using hg), Option.map_some]

/-- A field that defines a group is the first use of it. -/
theorem In.isFirstUse (hin : site.In peripherals) (hd : site.Defines maxWidth id values) :
    site.IsFirstUse maxWidth peripherals id values := by
  obtain ⟨hv, hid, hn⟩ := defines_iff.1 hd
  have hfirst := not_hasGroup_of_not_mem hn
  have recorded := hin.find?_firstUses ⟨Option.isSome_iff_exists.2 ⟨values, hv⟩, hid⟩ hfirst
  refine ⟨hid, hv, hfirst, recorded, ?_, ?_⟩
  · intro c hc hcid
    obtain ⟨use, -, first, hf, -, rfl⟩ := Group.mem_conflicts_iff.1 hc
    obtain rfl : use.group = id := hcid
    obtain rfl : site.named.use = first := Option.some.inj (recorded.symm.trans hf)
    exact ⟨rfl, rfl⟩
  · obtain ⟨constants, hc⟩ := constants_of_groupValues hv
    exact ⟨constants, hc, by rw [Declaration.lines, hc]; rfl⟩

end FieldSite

/-! ## Strict runs -/

theorem exists_register_of_alias {registry : Group.Registry} {e : Emission}
    (he : e ∈ emissions maxWidth registry peripherals) {struct : RegisterStruct}
    (hs : struct ∈ e.declarations.structs) {a : FieldAlias} (ha : a ∈ struct.aliases) :
    ∃ r ∈ runRegisters peripherals, a ∈ r.2.fields.map (fieldAlias maxWidth r.1 r.2) := by
  induction peripherals generalizing registry with
  | nil => cases he
  | cons p rest ih =>
    rw [runRegisters_cons]
    rw [emissions_cons] at he
    rcases List.mem_cons.1 he with rfl | he
    · obtain ⟨register, hr, haliases⟩ := aliases_of_mem_declareRegisters hs
      exact ⟨(p.name, register), List.mem_append_left _ (List.mem_map_of_mem hr), haliases ▸ ha⟩
    · obtain ⟨r, hr, ha⟩ := ih he
      exact ⟨r, List.mem_append_right _ hr, ha⟩

/-- An enumerated alias is a use of its group. -/
theorem exists_use_of_alias {registry : Group.Registry} {e : Emission}
    (he : e ∈ emissions maxWidth registry peripherals) {struct : RegisterStruct}
    (hs : struct ∈ e.declarations.structs) {a : FieldAlias} (ha : a ∈ struct.aliases)
    (hen : a.enumerated = true) :
    ∃ use ∈ Group.uses maxWidth peripherals,
      use.group = a.identifier ∧ use.width = a.bitWidth := by
  obtain ⟨r, hr, ha⟩ := exists_register_of_alias he hs ha
  obtain ⟨field, hf, rfl⟩ := List.mem_map.1 ha
  refine ⟨NamedField.use ⟨r.1, r.2.name, field⟩, ?_, rfl, rfl⟩
  rw [uses_eq]
  refine List.mem_map_of_mem (List.mem_filter.2 ⟨?_, hen⟩)
  exact List.mem_flatMap.2 ⟨r, hr, List.mem_map_of_mem hf⟩

/-- Without conflicts, the enumerated aliases have the width of the field that defines their
group. -/
theorem bitWidth_eq_of_conflicts_eq_nil (h : Group.conflicts maxWidth peripherals = [])
    {site : FieldSite} (hsite : site.IsFirstUse maxWidth peripherals id values)
    {registry : Group.Registry} {e : Emission}
    (he : e ∈ emissions maxWidth registry peripherals) {struct : RegisterStruct}
    (hs : struct ∈ e.declarations.structs) {a : FieldAlias} (ha : a ∈ struct.aliases)
    (hen : a.enumerated = true) (hid : a.identifier = id) : a.bitWidth = site.field.bitWidth := by
  obtain ⟨use, hu, hgroup, hwidth⟩ := exists_use_of_alias he hs ha hen
  have same := Group.conflicts_eq_nil_iff.1 h use hu site.named.use
    (by rw [hgroup, hid]; exact hsite.recorded)
  exact hwidth.symm.trans same.symm

/-- A run that starts with nothing defined declares a group where a field defines it, and this field
is the first use of the group, the one that the width conflicts are found against. So if a strict
run gives headers, the enumerated aliases have the width of the field that defines their group. -/
theorem groups_defined_by_first_use (device : Device) (options : Options)
    (filter : Option String) (maxWidth : UInt32) (peripherals : List Peripheral) :
    (∀ id values, .group id values ∈ allDeclared (emissions maxWidth .empty peripherals) ↔
      ∃ site : FieldSite, site.In peripherals ∧ site.Defines maxWidth id values) ∧
    (∀ site : FieldSite, site.In peripherals → ∀ id values, site.Defines maxWidth id values →
      site.IsFirstUse maxWidth peripherals id values) ∧
    (options.strictEnumWidths = true → ∀ run, generate device options filter = .ok run →
      List.Forall₂ (Emission.Renders options device.name) (emissionsOf device options filter)
        run.headers ∧
      ∀ e ∈ emissionsOf device options filter, ∀ struct ∈ e.declarations.structs,
        ∀ a ∈ struct.aliases, a.enumerated = true →
          ∀ site : FieldSite, site.In (device.selected filter) → ∀ values,
            site.Defines options.narrowFieldMaxWidth a.identifier values →
              a.bitWidth = site.field.bitWidth) := by
  refine ⟨fun id values => group_mem_allDeclared_iff,
    fun site hin id values => hin.isFirstUse, ?_⟩
  intro strict run hrun
  obtain ⟨hconflicts, hrenders, -⟩ := generate_eq_ok_iff.1 hrun
  refine ⟨hrenders, ?_⟩
  intro e he struct hs a ha hen site hin values hd
  exact bitWidth_eq_of_conflicts_eq_nil (hconflicts strict) (hin.isFirstUse hd) he hs ha hen rfl

/-- A register with one status bit. -/
def statusRegister (name : String) (address : UInt64) : Register where
  name
  address
  offset := address
  access := .readWrite
  width := 32
  description := none
  fields := [
    { name := "STATUS", access := .readWrite, bitOffset := 0, bitWidth := 1, description := none
      enumeratedValues := none }]

/-- A device with two registers that share the group of their status bits. -/
def statusDevice : Device where
  name := "D"
  description := none
  access := .readWrite
  width := 32
  peripherals := [
    { name := "TIMER", baseAddress := 0, access := .readWrite, width := 32, description := none
      registers := [statusRegister "SR1" 4, statusRegister "SR2" 8] }]

theorem exists_status_site : ∃ site : FieldSite, site.In statusDevice.peripherals ∧
    site.register = statusRegister "SR1" 4 ∧ site.field.bitWidth = 1 ∧
    site.Defines 5 "TimerSrStatusValues" (.synthesized 1) := by
  refine ⟨⟨[], _, [], _, [], _⟩, ⟨⟨[], rfl⟩, ⟨[statusRegister "SR2" 8], rfl⟩, ⟨[], rfl⟩⟩, rfl, rfl,
    ?_⟩
  rw [FieldSite.Defines]
  decide +kernel

theorem statusDevice_width : ∃ run site,
    generate statusDevice { strictEnumWidths := true } none = .ok run ∧
    FieldSite.In site statusDevice.peripherals ∧ site.register = statusRegister "SR1" 4 ∧
    site.Defines 5 "TimerSrStatusValues" (.synthesized 1) ∧
    site.IsFirstUse 5 statusDevice.peripherals "TimerSrStatusValues" (.synthesized 1) ∧
    ∀ e ∈ emissionsOf statusDevice { strictEnumWidths := true } none,
      ∀ struct ∈ e.declarations.structs, ∀ a ∈ struct.aliases, a.enumerated = true →
        a.identifier = "TimerSrStatusValues" → a.bitWidth = 1 := by
  have noConflict : Group.conflicts 5 statusDevice.peripherals = [] := by decide +kernel
  obtain ⟨run, hrun⟩ : ∃ run, generate statusDevice { strictEnumWidths := true } none = .ok run :=
    exists_generate_iff.2 fun _ => noConflict
  obtain ⟨site, hin, hregister, hwidth, hd⟩ := exists_status_site
  obtain ⟨-, first, strict⟩ := groups_defined_by_first_use statusDevice
    { strictEnumWidths := true } none 5 statusDevice.peripherals
  refine ⟨run, site, hrun, hin, hregister, hd, first site hin _ _ hd, ?_⟩
  intro e he struct hs a ha hen hid
  rw [← hwidth]
  exact (strict rfl run hrun).2 e he struct hs a ha hen site hin (.synthesized 1) (hid ▸ hd)

end RegisterHeaders.Header
