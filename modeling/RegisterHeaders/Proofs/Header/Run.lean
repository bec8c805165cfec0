import RegisterHeaders.Generation
import RegisterHeaders.Proofs.Header.Request
import RegisterHeaders.Proofs.Steps

/-!
# The declarations of a run

A run makes the headers of one peripheral after the other, and hands the registry on. `emissions`
lists what the headers of all of them declare. Two facts carry over from a register to the whole
run: the declarations are the first requests of all registers, taken together in document order
(`declared_emissions`), and every alias that names a group finds its identifier declared, by its own
peripheral or an earlier one (`exists_declared_of_alias`). The headers that `generate` returns are
the texts of the emissions (`generate_eq_ok_iff`).
-/

namespace RegisterHeaders.Header

open Steps

variable {maxWidth : UInt32} {peripheral : String} {s : State} {registry : Group.Registry}

/-! ## The registers of a run -/

/-- The registers of a list of peripherals in document order, each with the name of its
peripheral. -/
def runRegisters (peripherals : List Peripheral) : List (String × Register) :=
  peripherals.flatMap fun p => p.registers.map (p.name, ·)

theorem runRegisters_cons (p : Peripheral) (rest : List Peripheral) :
    runRegisters (p :: rest) = p.registers.map (p.name, ·) ++ runRegisters rest :=
  rfl

/-- What a list of registers requests when `defined` is defined before the first of them. -/
def runRequests (maxWidth : UInt32) (defined : List String) :
    List (String × Register) → List Declaration
  | [] => []
  | (peripheral, register) :: rest =>
    let requests := registerRequests maxWidth peripheral defined register
    requests ++ runRequests maxWidth (definedAfter defined requests) rest

theorem runRequests_append {defined : List String} (first rest : List (String × Register)) :
    runRequests maxWidth defined (first ++ rest) =
      runRequests maxWidth defined first ++
        runRequests maxWidth (definedAfter defined (runRequests maxWidth defined first)) rest := by
  induction first generalizing defined with
  | nil => rw [runRequests, definedAfter_nil]; rfl
  | cons r first ih =>
    obtain ⟨peripheral, register⟩ := r
    simp only [List.cons_append, runRequests, ih, definedAfter_append, List.append_assoc]

theorem declareRegisters_snd (registers : List Register) :
    (declareRegisters maxWidth peripheral s registers).2 =
      (runRequests maxWidth s.registry.defined (registers.map (peripheral, ·))).foldl
        State.request s := by
  induction registers generalizing s with
  | nil => rfl
  | cons register rest ih =>
    simp only [declareRegisters, List.map_cons, runRequests, List.foldl_append]
    rw [ih, declareRegister_snd, defined_foldl_request]

theorem aliases_of_mem_declareRegisters {registers : List Register} {struct : RegisterStruct}
    (h : struct ∈ (declareRegisters maxWidth peripheral s registers).1) :
    ∃ register ∈ registers,
      struct.aliases = register.fields.map (fieldAlias maxWidth peripheral register) := by
  induction registers generalizing s with
  | nil => simp [declareRegisters] at h
  | cons register rest ih =>
    simp only [declareRegisters, List.mem_cons] at h
    rcases h with rfl | h
    · exact ⟨register, List.mem_cons_self, rfl⟩
    · obtain ⟨register', hr, ha⟩ := ih h
      exact ⟨register', List.mem_cons_of_mem register hr, ha⟩

/-- What a run declares is declared for one of its registers, after the registers before it. -/
theorem mem_firstRequests_run_iff {defined : List String} {registers : List (String × Register)}
    {d : Declaration} :
    d ∈ firstRequests defined (runRequests maxWidth defined registers) ↔
      ∃ before peripheral register after, registers = before ++ (peripheral, register) :: after ∧
        d ∈ firstRequests (definedAfter defined (runRequests maxWidth defined before))
          (registerRequests maxWidth peripheral
            (definedAfter defined (runRequests maxWidth defined before)) register) := by
  induction registers generalizing defined with
  | nil => simp [runRequests, firstRequests]
  | cons r rest ih =>
    obtain ⟨peripheral, register⟩ := r
    rw [runRequests, firstRequests_append, List.mem_append, ih]
    constructor
    · rintro (hr | ⟨before, p, r, after, rfl, hr⟩)
      · exact ⟨[], peripheral, register, rest, rfl, by rwa [runRequests, definedAfter_nil]⟩
      · refine ⟨(peripheral, register) :: before, p, r, after, rfl, ?_⟩
        rwa [runRequests, definedAfter_append]
    · rintro ⟨_ | ⟨_, before⟩, p, r, after, h, hr⟩
      · obtain ⟨hpr, rfl⟩ := List.cons.inj h
        obtain ⟨rfl, rfl⟩ := Prod.mk.inj hpr
        exact Or.inl (by rwa [runRequests, definedAfter_nil] at hr)
      · obtain ⟨rfl, rfl⟩ := List.cons.inj h
        exact Or.inr ⟨before, p, r, after, rfl, by rwa [runRequests, definedAfter_append] at hr⟩

/-- The register of an enumerated alias requests the group of the alias. -/
theorem exists_request_of_alias {registers : List Register} {register : Register}
    {a : FieldAlias} {defined : List String} (hr : register ∈ registers)
    (ha : a ∈ register.fields.map (fieldAlias maxWidth peripheral register))
    (he : a.enumerated = true) :
    ∃ d ∈ runRequests maxWidth defined (registers.map (peripheral, ·)), d.id = a.identifier := by
  obtain ⟨d, hd, hi⟩ := exists_groupRequest ha he
  obtain ⟨before, after, rfl⟩ := List.append_of_mem hr
  refine ⟨d, ?_, hi⟩
  rw [List.map_append, runRequests_append, List.map_cons, runRequests]
  exact List.mem_append_right _ (List.mem_append_left _ (groupRequests_subset hd))

/-! ## One peripheral -/

theorem declared_declarePeripheral (p : Peripheral) :
    (declarePeripheral maxWidth registry p).1.declared =
      firstRequests registry.defined
        (runRequests maxWidth registry.defined (p.registers.map (p.name, ·))) := by
  simp only [declarePeripheral]
  rw [declareRegisters_snd, declared_foldl_request, List.nil_append]

theorem defined_declarePeripheral (p : Peripheral) :
    (declarePeripheral maxWidth registry p).2.defined =
      definedAfter registry.defined
        (runRequests maxWidth registry.defined (p.registers.map (p.name, ·))) := by
  simp only [declarePeripheral]
  rw [declareRegisters_snd, defined_foldl_request]

/-- After a peripheral, what was defined before and what it declares is defined. -/
theorem defined_declarePeripheral_eq_append (p : Peripheral) :
    (declarePeripheral maxWidth registry p).2.defined = registry.defined ++
      (declarePeripheral maxWidth registry p).1.declared.map Declaration.id := by
  rw [defined_declarePeripheral, declared_declarePeripheral, definedAfter]

/-! ## A run -/

/-- A peripheral of a run and what its headers declare. -/
structure Emission where
  peripheral : Peripheral
  declarations : PeripheralDeclarations

/-- What the headers of a list of peripherals declare when `registry` is defined before. -/
def emissions (maxWidth : UInt32) (registry : Group.Registry) : List Peripheral → List Emission
  | [] => []
  | p :: rest =>
    let (declarations, registry) := declarePeripheral maxWidth registry p
    ⟨p, declarations⟩ :: emissions maxWidth registry rest

theorem emissions_cons (p : Peripheral) (rest : List Peripheral) :
    emissions maxWidth registry (p :: rest) =
      ⟨p, (declarePeripheral maxWidth registry p).1⟩ ::
        emissions maxWidth (declarePeripheral maxWidth registry p).2 rest :=
  rfl

/-- What is defined after the headers of a list of peripherals. -/
def registryAfter (maxWidth : UInt32) (registry : Group.Registry) (peripherals : List Peripheral) :
    Group.Registry :=
  peripherals.foldl (fun registry p => (declarePeripheral maxWidth registry p).2) registry

theorem defined_registryAfter (peripherals : List Peripheral) :
    (registryAfter maxWidth registry peripherals).defined =
      definedAfter registry.defined
        (runRequests maxWidth registry.defined (runRegisters peripherals)) := by
  induction peripherals generalizing registry with
  | nil => exact definedAfter_nil.symm
  | cons p rest ih =>
    rw [registryAfter, List.foldl_cons, ← registryAfter, ih, defined_declarePeripheral,
      runRegisters_cons, runRequests_append, definedAfter_append]

theorem emissions_append (first rest : List Peripheral) :
    emissions maxWidth registry (first ++ rest) =
      emissions maxWidth registry first ++
        emissions maxWidth (registryAfter maxWidth registry first) rest := by
  induction first generalizing registry with
  | nil => rfl
  | cons p first ih =>
    rw [List.cons_append, emissions_cons, emissions_cons, ih, List.cons_append]
    rfl

theorem map_peripheral_emissions (peripherals : List Peripheral) :
    (emissions maxWidth registry peripherals).map (·.peripheral) = peripherals := by
  induction peripherals generalizing registry with
  | nil => rfl
  | cons p rest ih => rw [emissions_cons, List.map_cons, ih]

theorem length_emissions (peripherals : List Peripheral) :
    (emissions maxWidth registry peripherals).length = peripherals.length := by
  rw [← List.length_map (·.peripheral), map_peripheral_emissions]

/-- What the headers of the peripherals that the filter selects declare. -/
def emissionsOf (device : Device) (options : Options) (filter : Option String) : List Emission :=
  emissions options.narrowFieldMaxWidth .empty (device.selected filter)

/-- The declarations of all enumerations headers of a run, in order. -/
def allDeclared (run : List Emission) : List Declaration :=
  run.flatMap (·.declarations.declared)

theorem allDeclared_append (first rest : List Emission) :
    allDeclared (first ++ rest) = allDeclared first ++ allDeclared rest :=
  List.flatMap_append

/-- A run declares the first requests of its registers. -/
theorem declared_emissions (peripherals : List Peripheral) :
    allDeclared (emissions maxWidth registry peripherals) =
      firstRequests registry.defined
        (runRequests maxWidth registry.defined (runRegisters peripherals)) := by
  induction peripherals generalizing registry with
  | nil => rfl
  | cons p rest ih =>
    simp only [allDeclared] at ih ⊢
    rw [emissions_cons, List.flatMap_cons, ih, declared_declarePeripheral,
      defined_declarePeripheral, runRegisters_cons, runRequests_append, firstRequests_append]

/-- No identifier is declared twice in a run. -/
theorem nodup_allDeclared (maxWidth : UInt32) (registry : Group.Registry)
    (peripherals : List Peripheral) :
    ((allDeclared (emissions maxWidth registry peripherals)).map Declaration.id).Nodup := by
  rw [declared_emissions]
  exact (List.nodup_append.1 (nodup_definedAfter registry.nodup)).2.1

/-- An enumerated alias finds its identifier defined before the run, or declared by its own
peripheral or an earlier one. -/
theorem exists_declared_of_alias {peripherals : List Peripheral} {before after : List Emission}
    {e : Emission} (h : emissions maxWidth registry peripherals = before ++ e :: after)
    {struct : RegisterStruct} (hs : struct ∈ e.declarations.structs) {a : FieldAlias}
    (ha : a ∈ struct.aliases) (he : a.enumerated = true) :
    a.identifier ∈ registry.defined ∨
      ∃ d ∈ allDeclared (before ++ [e]), d.id = a.identifier := by
  induction peripherals generalizing registry before with
  | nil => simp [emissions] at h
  | cons p rest ih =>
    rw [emissions_cons] at h
    rcases before with _ | ⟨e', before⟩
    · obtain ⟨rfl, -⟩ := List.cons.inj h
      obtain ⟨register, hr, hf⟩ := aliases_of_mem_declareRegisters hs
      have hd : a.identifier ∈ (declarePeripheral maxWidth registry p).2.defined := by
        rw [defined_declarePeripheral, mem_definedAfter_iff]
        exact Or.inr (exists_request_of_alias hr (hf ▸ ha) he)
      rw [defined_declarePeripheral_eq_append, List.mem_append, List.mem_map] at hd
      simpa [allDeclared] using hd
    · -- what the first peripheral declares is part of the registry that the others start with
      obtain ⟨rfl, h'⟩ := List.cons.inj h
      rcases ih h' with hd | ⟨d, hd, hi⟩
      · rw [defined_declarePeripheral_eq_append, List.mem_append, List.mem_map] at hd
        rcases hd with hd | ⟨d, hd, hi⟩
        · exact Or.inl hd
        · exact Or.inr ⟨d, List.mem_append_left _ hd, hi⟩
      · exact Or.inr ⟨d, List.mem_append_right _ hd, hi⟩

/-! ## The headers of a run -/

/-- `headers` are the texts of what an emission declares, for the device called `device`. -/
def Emission.Renders (options : Options) (device : String) (e : Emission) (headers : Headers) :
    Prop :=
  ∃ enumerations,
    enumerationsText options device e.peripheral e.declarations.declared = .ok enumerations ∧
    headers = {
      peripheral := e.peripheral.name
      registersFile := registersFile e.peripheral.name
      registers := registersText options device e.peripheral e.declarations.structs
      enumerationsFile := enumerationsFile e.peripheral.name
      enumerations }

theorem peripheralHeaders_eq_ok_iff {options : Options} {device : String} {p : Peripheral}
    {headers : Headers} {registry' : Group.Registry} :
    peripheralHeaders options device registry p = .ok (headers, registry') ↔
      Emission.Renders options device
        ⟨p, (declarePeripheral options.narrowFieldMaxWidth registry p).1⟩ headers ∧
      (declarePeripheral options.narrowFieldMaxWidth registry p).2 = registry' := by
  rw [peripheralHeaders, Emission.Renders]
  generalize declarePeripheral options.narrowFieldMaxWidth registry p = result
  obtain ⟨declarations, after⟩ := result
  simp only [bind_eq_ok_iff, pure, Except.pure, Except.ok.injEq, Prod.mk.injEq]
  constructor
  · rintro ⟨text, ht, hh, hr⟩
    exact ⟨⟨text, ht, hh.symm⟩, hr⟩
  · rintro ⟨⟨text, ht, hh⟩, hr⟩
    exact ⟨text, ht, hh.symm, hr⟩

theorem headersOf_eq_ok_iff {options : Options} {device : String} {peripherals : List Peripheral}
    {headers : List Headers} :
    headersOf options device registry peripherals = .ok headers ↔
      List.Forall₂ (Emission.Renders options device)
        (emissions options.narrowFieldMaxWidth registry peripherals) headers := by
  induction peripherals generalizing registry headers with
  | nil => simp [headersOf, emissions, pure, Except.pure, eq_comm]
  | cons p rest ih =>
    simp only [headersOf, bind_eq_ok_iff, pure, Except.pure, Except.ok.injEq, Prod.exists,
      peripheralHeaders_eq_ok_iff, ih, emissions_cons, List.forall₂_cons_left_iff]
    constructor
    · rintro ⟨first, _, ⟨hf, rfl⟩, others, ho, rfl⟩
      exact ⟨first, others, hf, ho, rfl⟩
    · rintro ⟨first, others, hf, ho, rfl⟩
      exact ⟨first, _, ⟨hf, rfl⟩, others, ho, rfl⟩

/-- The headers are those of the given peripherals, in their order. -/
theorem peripherals_of_headersOf {options : Options} {device : String}
    {peripherals : List Peripheral} {headers : List Headers}
    (h : headersOf options device registry peripherals = .ok headers) :
    headers.map (·.peripheral) = peripherals.map (·.name) := by
  have names : List.Forall₂ (fun (e : Emission) (headers : Headers) =>
      headers.peripheral = e.peripheral.name)
      (emissions options.narrowFieldMaxWidth registry peripherals) headers := by
    refine (headersOf_eq_ok_iff.1 h).imp fun e headers he => ?_
    obtain ⟨-, -, rfl⟩ := he
    rfl
  have made : (emissions options.narrowFieldMaxWidth registry peripherals).map (·.peripheral) =
      peripherals := map_peripheral_emissions _
  rw [← made, List.map_map, ← List.forall₂_eq_eq_eq, List.forall₂_map_left_iff,
    List.forall₂_map_right_iff]
  exact names.flip

theorem generated_eq_iff {headers : List Headers} {warnings : List Group.WidthConflict}
    {run : Generated} :
    (⟨headers, warnings⟩ : Generated) = run ↔ headers = run.headers ∧ run.warnings = warnings := by
  cases run
  rw [Generated.mk.injEq, eq_comm (a := warnings)]

/-- A run gives headers unless it is strict and has a width conflict, or a text overflows. Its
headers are the texts of the emissions of the selected peripherals. -/
theorem generate_eq_ok_iff {device : Device} {options : Options} {filter : Option String}
    {run : Generated} :
    generate device options filter = .ok run ↔
      (options.strictEnumWidths = true →
        Group.conflicts options.narrowFieldMaxWidth (device.selected filter) = []) ∧
      List.Forall₂ (Emission.Renders options device.name) (emissionsOf device options filter)
        run.headers ∧
      run.warnings = Group.conflicts options.narrowFieldMaxWidth (device.selected filter) := by
  rw [emissionsOf, ← headersOf_eq_ok_iff, generate]
  rcases options.strictEnumWidths with _ | _ <;>
    rcases Group.conflicts options.narrowFieldMaxWidth (device.selected filter) with _ | ⟨c, cs⟩ <;>
    rcases headersOf options device.name .empty (device.selected filter) with e | headers <;>
    simp [← generated_eq_iff]

/-- A run gives headers for the selected peripherals, in their order. -/
theorem peripherals_of_generate {device : Device} {options : Options} {filter : Option String}
    {run : Generated} (h : generate device options filter = .ok run) :
    run.headers.map (·.peripheral) = (device.selected filter).map (·.name) :=
  peripherals_of_headersOf (headersOf_eq_ok_iff.2 (generate_eq_ok_iff.1 h).2.1)

theorem headers_eq_nil_iff {device : Device} {options : Options} {filter : Option String}
    {run : Generated} (h : generate device options filter = .ok run) :
    run.headers = [] ↔ device.selected filter = [] := by
  rw [← List.map_eq_nil_iff (f := (·.peripheral)), peripherals_of_generate h, List.map_eq_nil_iff]

end RegisterHeaders.Header
