import Mathlib.Data.List.Basic
import Mathlib.Data.List.Find
import RegisterHeaders.Proofs.Header.Success

/-!
# Marker types

Every group and every placeholder has a marker type, an empty structure that the registers headers
name: the alias of an enumerated field and the packed alias of a register each take one.
`markerOfLine` reads the marker types off the lines of an enumerations header.

Any number of peripherals can be generated with one registry, each for a device and with options of
its own (`Call`). The registry holds the identifiers whose markers have been emitted,
and a register only names markers of the registry as it is after the register; so over the whole
sequence a marker is emitted at most once, and no later than its first use.
-/

namespace RegisterHeaders.Header

open Steps

variable {maxWidth : UInt32} {peripheral : String} {s : State} {registry : Group.Registry}
  {register : Register} {id : String}

/-! ## The marker types of an enumerations header -/

/-- The marker type that a line defines, if it defines one. -/
def markerOfLine (line : String) : Option String := do
  let rest ← line.toList.dropPrefix? "struct ".toList
  let marker ← rest.dropSuffix? " \x7b\x7d ;".toList
  return String.ofList marker

theorem markerOfLine_eq_some_iff {line marker : String} :
    markerOfLine line = some marker ↔ line = "struct " ++ marker ++ " \x7b\x7d ;" := by
  simp only [markerOfLine, Option.bind_eq_bind, Option.bind_eq_some_iff, pure, Option.some.injEq,
    List.dropPrefix?_eq_some_iff, List.dropSuffix?_eq_some_iff, beq_iff_eq]
  constructor
  · rintro ⟨_, ⟨_, hline, rfl⟩, m, ⟨_, rfl, rfl⟩, rfl⟩
    apply String.toList_injective
    simp [hline, String.toList_append]
  · rintro rfl
    refine ⟨marker.toList ++ " \x7b\x7d ;".toList, ⟨_, ?_, rfl⟩, marker.toList, ⟨_, rfl, rfl⟩,
      by simp⟩
    simp [String.toList_append]

theorem markerOfLine_markerLine (id : String) :
    markerOfLine ("struct " ++ Group.markerName id ++ " \x7b\x7d ;") = some (Group.markerName id) :=
  markerOfLine_eq_some_iff.2 rfl

/-- A line that does not begin and end like that of a marker type defines none. -/
theorem markerOfLine_eq_none {line : String}
    (h : line.toList.head? ≠ some 's' ∨ line.toList.getLast? ≠ some ';') :
    markerOfLine line = none := by
  rw [Option.eq_none_iff_forall_not_mem]
  intro marker hm
  obtain rfl := markerOfLine_eq_some_iff.1 hm
  simp [String.toList_append, List.getLast?_cons, List.getLast?_append] at h

/-- A declaration defines one marker type, that of its identifier. -/
theorem filterMap_markerOfLine_lines {d : Declaration} {lines : List String}
    (h : d.lines = .ok lines) :
    lines.filterMap markerOfLine = [Group.markerName d.id] := by
  have own (id : String) : (markerLines id).filterMap markerOfLine = [Group.markerName id] := by
    have blank : markerOfLine "" = none := markerOfLine_eq_none (by simp)
    simp [markerLines, markerOfLine_markerLine, blank]
  cases d with
  | placeholder id =>
    obtain rfl := Except.ok.inj h
    exact own id
  | group id values =>
    rw [Declaration.lines, bind_eq_ok_iff] at h
    obtain ⟨constants, -, h⟩ := h
    obtain rfl := Except.ok.inj h
    -- no other line of a group both begins with an `s` and ends with a semicolon
    have others : ∀ line ∈ (groupLines id constants).drop 2,
        line.toList.head? ≠ some 's' ∨ line.toList.getLast? ≠ some ';' := by
      intro line hl
      rcases List.mem_cons.1 hl with rfl | hl
      · exact Or.inl (by simp)
      rcases List.mem_cons.1 hl with rfl | hl
      · exact Or.inr (by simp [String.toList_append, List.getLast?_cons, List.getLast?_append])
      have hrest : line ∈ "\x7b" :: (constants.map constantLine ++ ["\x7d ;", ""]) := hl
      simp only [List.mem_cons, List.mem_append, List.mem_map, List.not_mem_nil, or_false] at hrest
      left
      rcases hrest with rfl | ⟨c, -, rfl⟩ | rfl | rfl
      · simp
      · simp [constantLine, String.toList_append]
      · simp
      · simp
    have split : groupLines id constants = markerLines id ++ (groupLines id constants).drop 2 := rfl
    rw [split, List.filterMap_append, own, List.filterMap_eq_nil_iff.2 fun line hl =>
      markerOfLine_eq_none (others line hl)]
    rfl

/-- The marker types that a list of declarations defines, read off its lines. -/
def definedMarkers (declared : List Declaration) : List String :=
  ((declared.mapM Declaration.lines).toOption.getD []).flatten.filterMap markerOfLine

theorem definedMarkers_eq {declared : List Declaration} {lines : List (List String)}
    (h : declared.mapM Declaration.lines = .ok lines) :
    definedMarkers declared = declared.map fun d => Group.markerName d.id := by
  have read : lines.flatten.filterMap markerOfLine =
      declared.map fun d => Group.markerName d.id := by
    have texts := mapM_eq_ok_iff.1 h
    clear h
    induction texts with
    | nil => rfl
    | @cons d ls declared lines hd _ ih =>
      rw [List.flatten_cons, List.filterMap_append, ih, filterMap_markerOfLine_lines hd]
      rfl
  rw [definedMarkers, h]
  exact read

/-! ## The marker types of a registers header -/

/-- The identifiers whose markers the lines of a register name: those of its enumerated aliases and
that of its packed alias. -/
def RegisterStruct.named (r : RegisterStruct) : List String :=
  (r.aliases.filter (·.enumerated)).map (·.identifier) ++ [r.marker]

theorem mem_defined_declareRegister_iff :
    id ∈ (declareRegister maxWidth peripheral s register).2.registry.defined ↔
      id ∈ s.registry.defined ∨
        ∃ d ∈ registerRequests maxWidth peripheral s.registry.defined register, d.id = id := by
  rw [declareRegister_snd, defined_foldl_request, mem_definedAfter_iff]

/-- The aliases of the fields of a register. -/
def registerAliases (maxWidth : UInt32) (peripheral : String) (register : Register) :
    List FieldAlias :=
  register.fields.map (fieldAlias maxWidth peripheral register)

theorem marker_eq :
    (declareRegister maxWidth peripheral s register).1.marker =
      (knownGroup ((groupRequests maxWidth peripheral register).foldl State.request s).registry
        (registerAliases maxWidth peripheral register)).getD
          (Group.placeholder peripheral register.name) := by
  rw [← foldl_requestGroup]
  rfl

/-- A field with a group has requested it, so only what is defined counts. -/
theorem knownGroup_eq :
    knownGroup ((groupRequests maxWidth peripheral register).foldl State.request s).registry
        (registerAliases maxWidth peripheral register) =
      (register.fields.map fun f => Group.identifier peripheral register.name f.name).find?
        (· ∈ definedAfter s.registry.defined (groupRequests maxWidth peripheral register)) := by
  have known : ∀ a ∈ registerAliases maxWidth peripheral register,
      (a.enumerated || ((groupRequests maxWidth peripheral register).foldl State.request
        s).registry.contains a.identifier) =
      decide (a.identifier ∈
        definedAfter s.registry.defined (groupRequests maxWidth peripheral register)) := by
    intro a ha
    rw [Bool.eq_iff_iff, Bool.or_eq_true, decide_eq_true_iff, Group.Registry.contains,
      List.contains_iff_mem, defined_foldl_request, or_iff_right_iff_imp]
    intro he
    exact mem_definedAfter_iff.2 (Or.inr (exists_groupRequest ha he))
  have identifiers : register.fields.map (fun f => Group.identifier peripheral register.name f.name)
      = (registerAliases maxWidth peripheral register).map FieldAlias.identifier := by
    rw [registerAliases, List.map_map]
    rfl
  rw [knownGroup, List.find?_congr known, identifiers, List.find?_map]
  rfl

/-- The marker of a register is defined after it: it is that of a known group, or of the placeholder
that the register requests because it knows none. -/
theorem marker_declareRegister :
    (declareRegister maxWidth peripheral s register).1.marker ∈
      (declareRegister maxWidth peripheral s register).2.registry.defined := by
  rw [mem_defined_declareRegister_iff, marker_eq]
  set after := (groupRequests maxWidth peripheral register).foldl State.request s with hafter
  cases hk : knownGroup after.registry (registerAliases maxWidth peripheral register) with
  | none =>
    rw [registerAliases, knownGroup_eq_none_iff, hafter, defined_foldl_request] at hk
    obtain ⟨hgroups, hfields⟩ := hk
    rw [hgroups, definedAfter_nil] at hfields
    refine Or.inr ⟨.placeholder (Group.placeholder peripheral register.name), ?_, rfl⟩
    rw [registerRequests, if_neg (not_not_intro hgroups), if_neg hfields]
    exact List.mem_singleton_self _
  | some id =>
    rw [hafter, knownGroup_eq] at hk
    have hid := List.find?_some hk
    rw [decide_eq_true_iff, mem_definedAfter_iff] at hid
    rcases hid with hid | ⟨d, hd, hid⟩
    · exact Or.inl hid
    · exact Or.inr ⟨d, groupRequests_subset hd, hid⟩

theorem named_declareRegister {id : String}
    (h : id ∈ (declareRegister maxWidth peripheral s register).1.named) :
    id ∈ (declareRegister maxWidth peripheral s register).2.registry.defined := by
  rcases List.mem_append.1 h with h | h
  · obtain ⟨a, ha, rfl⟩ := List.mem_map.1 h
    obtain ⟨ha, he⟩ := List.mem_filter.1 ha
    obtain ⟨d, hd, hid⟩ := exists_groupRequest ha he
    exact mem_defined_declareRegister_iff.2 (Or.inr ⟨d, groupRequests_subset hd, hid⟩)
  · obtain rfl := List.mem_singleton.1 h
    exact marker_declareRegister

theorem named_declareRegisters {registers : List Register} {struct : RegisterStruct}
    (hs : struct ∈ (declareRegisters maxWidth peripheral s registers).1) (h : id ∈ struct.named) :
    id ∈ (declareRegisters maxWidth peripheral s registers).2.registry.defined := by
  induction registers generalizing s with
  | nil => cases hs
  | cons register rest ih =>
    simp only [declareRegisters] at hs ⊢
    rcases List.mem_cons.1 hs with rfl | hs
    · rw [declareRegisters_snd, defined_foldl_request, mem_definedAfter_iff]
      exact Or.inl (named_declareRegister h)
    · exact ih hs

/-- What the registers of a peripheral name is defined after the peripheral. -/
theorem named_declarePeripheral {p : Peripheral} {struct : RegisterStruct}
    (hs : struct ∈ (declarePeripheral maxWidth registry p).1.structs) (h : id ∈ struct.named) :
    id ∈ (declarePeripheral maxWidth registry p).2.defined :=
  named_declareRegisters hs h

/-! ## Calls that share a registry -/

/-- A request for the headers of one peripheral of the device called `device`. -/
structure Call where
  options : Options
  device : String
  peripheral : Peripheral

/-- The headers that calls give one after the other, each with the registry after it. -/
def headersOfCalls (registry : Group.Registry) :
    List Call → Except Overflow (List (Headers × Group.Registry))
  | [] => return []
  | c :: rest => do
    let (headers, registry) ← peripheralHeaders c.options c.device registry c.peripheral
    return (headers, registry) :: (← headersOfCalls registry rest)

/-- A call, what its headers declare, and the registry after it. -/
structure CallRecord where
  call : Call
  declarations : PeripheralDeclarations
  registry : Group.Registry

/-- The records of calls one after the other. -/
def recordsOf (registry : Group.Registry) : List Call → List CallRecord
  | [] => []
  | c :: rest =>
    let (declarations, registry) :=
      declarePeripheral c.options.narrowFieldMaxWidth registry c.peripheral
    ⟨c, declarations, registry⟩ :: recordsOf registry rest

theorem recordsOf_cons (c : Call) (rest : List Call) :
    recordsOf registry (c :: rest) =
      ⟨c, (declarePeripheral c.options.narrowFieldMaxWidth registry c.peripheral).1,
        (declarePeripheral c.options.narrowFieldMaxWidth registry c.peripheral).2⟩ ::
        recordsOf (declarePeripheral c.options.narrowFieldMaxWidth registry c.peripheral).2 rest :=
  rfl

/-- The outcome of a call consists of the texts of what is declared, and the registry. -/
def CallRecord.Renders (r : CallRecord) (outcome : Headers × Group.Registry) : Prop :=
  Emission.Renders r.call.options r.call.device ⟨r.call.peripheral, r.declarations⟩ outcome.1 ∧
    r.registry = outcome.2

/-- The marker types that the enumerations headers of some calls define. -/
def emittedMarkers (records : List CallRecord) : List String :=
  records.flatMap fun r => definedMarkers r.declarations.declared

theorem headersOfCalls_cons_eq_ok {c : Call} {rest : List Call} {headers : Headers}
    {after : Group.Registry} {outcomes : List (Headers × Group.Registry)}
    (first : peripheralHeaders c.options c.device registry c.peripheral = .ok (headers, after))
    (others : headersOfCalls after rest = .ok outcomes) :
    headersOfCalls registry (c :: rest) = .ok ((headers, after) :: outcomes) := by
  rw [headersOfCalls, bind_eq_ok_iff]
  exact ⟨_, first, bind_eq_ok_iff.2 ⟨outcomes, others, rfl⟩⟩

theorem exists_headersOfCalls (registry : Group.Registry) (calls : List Call) :
    ∃ outcomes, headersOfCalls registry calls = .ok outcomes ∧
      List.Forall₂ CallRecord.Renders (recordsOf registry calls) outcomes := by
  induction calls generalizing registry with
  | nil => exact ⟨[], rfl, .nil⟩
  | cons c rest ih =>
    obtain ⟨headers, hh⟩ := exists_peripheralHeaders c.options c.device registry c.peripheral
    obtain ⟨outcomes, ho, hr⟩ :=
      ih (declarePeripheral c.options.narrowFieldMaxWidth registry c.peripheral).2
    exact ⟨(headers, _) :: outcomes, headersOfCalls_cons_eq_ok hh ho,
      .cons ⟨(peripheralHeaders_eq_ok_iff.1 hh).1, rfl⟩ hr⟩

theorem definedMarkers_declarePeripheral (options : Options) (registry : Group.Registry)
    (p : Peripheral) :
    definedMarkers (declarePeripheral options.narrowFieldMaxWidth registry p).1.declared =
      ((declarePeripheral options.narrowFieldMaxWidth registry p).1.declared.map
        Declaration.id).map Group.markerName := by
  obtain ⟨lines, hl⟩ := exists_declarationLines options registry p
  rw [definedMarkers_eq hl, List.map_map]
  rfl

/-- After every call the registry holds the identifiers whose markers have been emitted by then, and
those it held at first. -/
theorem markers_registry {registry : Group.Registry} {calls : List Call}
    {before after : List CallRecord} {r : CallRecord}
    (h : recordsOf registry calls = before ++ r :: after) :
    r.registry.defined.map Group.markerName =
      registry.defined.map Group.markerName ++ emittedMarkers (before ++ [r]) := by
  induction calls generalizing registry before with
  | nil => simp [recordsOf] at h
  | cons c rest ih =>
    have step := definedMarkers_declarePeripheral c.options registry c.peripheral
    have grow :
        (declarePeripheral c.options.narrowFieldMaxWidth registry c.peripheral).2.defined.map
          Group.markerName = registry.defined.map Group.markerName ++ definedMarkers
            (declarePeripheral c.options.narrowFieldMaxWidth registry c.peripheral).1.declared := by
      rw [defined_declarePeripheral_eq_append, List.map_append, step]
    rw [recordsOf_cons] at h
    rcases before with _ | ⟨r', before⟩
    · obtain ⟨rfl, -⟩ := List.cons.inj h
      simpa only [emittedMarkers, List.nil_append, List.flatMap_singleton] using grow
    · obtain ⟨rfl, hrest⟩ := List.cons.inj h
      rw [ih hrest, grow, List.append_assoc]
      rfl

/-- What a call names is in the registry after it. -/
theorem named_of_recordsOf {calls : List Call} {r : CallRecord} (hr : r ∈ recordsOf registry calls)
    {struct : RegisterStruct} (hs : struct ∈ r.declarations.structs) (h : id ∈ struct.named) :
    id ∈ r.registry.defined := by
  induction calls generalizing registry with
  | nil => cases hr
  | cons c rest ih =>
    rw [recordsOf_cons] at hr
    rcases List.mem_cons.1 hr with rfl | hr
    · exact named_declarePeripheral hs h
    · exact ih hr

theorem markerName_injective : Function.Injective Group.markerName := by
  intro a b h
  have := congrArg String.toList h
  simp only [Group.markerName, String.toList_append, List.append_cancel_right_eq] at this
  exact String.toList_injective this

theorem nodup_emittedMarkers (calls : List Call) :
    (emittedMarkers (recordsOf .empty calls)).Nodup := by
  rcases List.eq_nil_or_concat (recordsOf .empty calls) with h | ⟨before, r, h⟩
  · rw [h]
    exact List.nodup_nil
  · rw [List.concat_eq_append] at h
    have last := markers_registry h
    rw [Group.Registry.empty, List.map_nil, List.nil_append] at last
    rw [h, ← last]
    exact r.registry.nodup.map markerName_injective

/-- Calls that share a registry, empty at first, all give headers. No marker type is emitted twice;
after every call the size of the registry is the number of marker types emitted so far; and what the
registers header of a call names has been emitted by this call or an earlier one. -/
theorem markers_of_calls (calls : List Call) :
    ∃ outcomes, headersOfCalls .empty calls = .ok outcomes ∧
      List.Forall₂ CallRecord.Renders (recordsOf .empty calls) outcomes ∧
      (emittedMarkers (recordsOf .empty calls)).Nodup ∧
      ∀ before r after, recordsOf .empty calls = before ++ r :: after →
        r.registry.size = (emittedMarkers (before ++ [r])).length ∧
        ∀ struct ∈ r.declarations.structs, ∀ id ∈ struct.named,
          Group.markerName id ∈ emittedMarkers (before ++ [r]) := by
  obtain ⟨outcomes, ho, hr⟩ := exists_headersOfCalls .empty calls
  refine ⟨outcomes, ho, hr, nodup_emittedMarkers calls, ?_⟩
  intro before r after h
  have held : r.registry.defined.map Group.markerName = emittedMarkers (before ++ [r]) :=
    markers_registry h
  constructor
  · rw [← held, List.length_map]
    rfl
  · intro struct hs id hid
    have hmem : r ∈ recordsOf .empty calls := by
      rw [h]
      exact List.mem_append_right before List.mem_cons_self
    rw [← held]
    exact List.mem_map_of_mem (named_of_recordsOf hmem hs hid)

end RegisterHeaders.Header
