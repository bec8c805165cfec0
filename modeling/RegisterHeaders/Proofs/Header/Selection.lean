import RegisterHeaders.Proofs.Header.Marker
import RegisterHeaders.Proofs.Text

/-!
# The choice of a peripheral

A run can be restricted to the peripherals of one name. It then starts the registry without the
groups of the others, and the packed alias of a register, which takes the marker of a group that is
defined by then, may take another one. Everything else in a registers header is a function of the
peripheral: the structures are given by the peripheral and the list of its markers (`structsOf`),
the markers by what is defined before it (`packMarkers`), and the text determines the markers.
-/

namespace RegisterHeaders.Header

open Text

variable {maxWidth : UInt32} {peripheral : String} {register : Register} {s : State}

/-! ## Markers of packed aliases -/

/-- The identifier whose marker the packed alias of a register takes: that of the first field whose
identifier is defined after the fields have made their requests, or else a placeholder. -/
def packMarker (maxWidth : UInt32) (defined : List String) (peripheral : String)
    (register : Register) : String :=
  ((register.fields.map fun f => Group.identifier peripheral register.name f.name).find?
    (· ∈ definedAfter defined (groupRequests maxWidth peripheral register))).getD
      (Group.placeholder peripheral register.name)

/-- The markers of the registers of a peripheral, one after the other. -/
def packMarkers (maxWidth : UInt32) (defined : List String) (peripheral : String) :
    List Register → List String
  | [] => []
  | register :: rest =>
    let after := definedAfter defined (registerRequests maxWidth peripheral defined register)
    packMarker maxWidth defined peripheral register :: packMarkers maxWidth after peripheral rest

/-- The structure of a register whose packed alias takes the marker of `marker`. -/
def structOf (maxWidth : UInt32) (peripheral : String) (register : Register) (marker : String) :
    RegisterStruct where
  name := Identifier.camelCase register.name
  address := register.address
  width := register.width
  access := register.access
  aliases := registerAliases maxWidth peripheral register
  marker

/-- The structures of a peripheral whose packed aliases take the given markers. -/
def structsOf (maxWidth : UInt32) (p : Peripheral) (markers : List String) : List RegisterStruct :=
  List.zipWith (structOf maxWidth p.name) p.registers markers

theorem declareRegister_fst :
    (declareRegister maxWidth peripheral s register).1 =
      structOf maxWidth peripheral register
        (packMarker maxWidth s.registry.defined peripheral register) := by
  have marker : (declareRegister maxWidth peripheral s register).1.marker =
      packMarker maxWidth s.registry.defined peripheral register := by
    rw [marker_eq, knownGroup_eq, packMarker]
  rw [← marker]
  rfl

theorem declareRegisters_fst (registers : List Register) :
    (declareRegisters maxWidth peripheral s registers).1 =
      List.zipWith (structOf maxWidth peripheral) registers
        (packMarkers maxWidth s.registry.defined peripheral registers) := by
  induction registers generalizing s with
  | nil => rfl
  | cons register rest ih =>
    simp only [declareRegisters, packMarkers, List.zipWith_cons_cons]
    rw [ih, declareRegister_fst, declareRegister_snd, defined_foldl_request]

theorem structs_declarePeripheral (registry : Group.Registry) (p : Peripheral) :
    (declarePeripheral maxWidth registry p).1.structs =
      structsOf maxWidth p (packMarkers maxWidth registry.defined p.name p.registers) :=
  declareRegisters_fst p.registers

theorem length_packMarkers (defined : List String) (registers : List Register) :
    (packMarkers maxWidth defined peripheral registers).length = registers.length := by
  induction registers generalizing defined with
  | nil => rfl
  | cons register rest ih => rw [packMarkers, List.length_cons, List.length_cons, ih]

/-! ## What a registers header tells -/

theorem notMem_letters {c : Char} (hc : Unicode.isAlphabetic c = false) (hu : c ≠ '_')
    (name : String) : c ∉ (Identifier.letters name).toList := by
  simp [Identifier.letters, hc, hu]

/-- A marker is the name of the group of a field, or the placeholder. -/
theorem packMarker_cases (maxWidth : UInt32) (defined : List String) (peripheral : String)
    (register : Register) :
    (∃ f ∈ register.fields, packMarker maxWidth defined peripheral register =
      Group.identifier peripheral register.name f.name) ∨
    packMarker maxWidth defined peripheral register =
      Group.placeholder peripheral register.name := by
  rw [packMarker]
  cases hk : (register.fields.map fun f => Group.identifier peripheral register.name f.name).find?
      (· ∈ definedAfter defined (groupRequests maxWidth peripheral register)) with
  | none => exact Or.inr rfl
  | some id =>
    obtain ⟨f, hf, rfl⟩ := List.mem_map.1 (List.mem_of_find?_eq_some hk)
    exact Or.inl ⟨f, hf, rfl⟩

/-- A marker has letters and underscores only. -/
theorem notMem_packMarker {c : Char} (hc : Unicode.isAlphabetic c = false) (hu : c ≠ '_')
    {defined : List String} : c ∉ (packMarker maxWidth defined peripheral register).toList := by
  rcases packMarker_cases maxWidth defined peripheral register with ⟨f, -, marker⟩ | marker
  · rw [marker]
    exact notMem_letters hc hu _
  · rw [marker]
    exact notMem_letters hc hu _

theorem comma_not_mem_packMarkers {defined : List String} {registers : List Register} :
    ∀ marker ∈ packMarkers maxWidth defined peripheral registers, ',' ∉ marker.toList := by
  have comma : Unicode.isAlphabetic ',' = false := by decide +kernel
  induction registers generalizing defined with
  | nil => simp [packMarkers]
  | cons register rest ih =>
    rw [packMarkers]
    exact List.forall_mem_cons.2 ⟨notMem_packMarker comma (by decide), ih⟩

/-- The marker is followed by a comma in the lines of a register, and nothing else in them depends
on it. -/
theorem exists_lines_structOf (owner : String) (maxWidth : UInt32) (peripheral : String)
    (register : Register) :
    ∃ start rest, ∀ marker,
      ((structOf maxWidth peripheral register marker).lines owner).flatMap
          (fun line => line.toList ++ ['\n']) =
        start ++ (Group.markerName marker).toList ++ ',' :: rest := by
  let arguments := (structOf maxWidth peripheral register "").arguments
  let name := Identifier.camelCase register.name
  let before := ["  struct " ++ name ++ " : public RegisterBase<" ++ arguments ++ ">", "  \x7b"] ++
    (registerAliases maxWidth peripheral register).map (FieldAlias.line (owner ++ "::" ++ name)) ++
    ["  \x7d ;", "", "  template<typename... T>"]
  refine ⟨before.flatMap (fun line => line.toList ++ ['\n']) ++
    ("  using " ++ name ++ "Pack = Register<" ++ arguments ++ ", ").toList,
    " T...> ;\n\n".toList, fun marker => ?_⟩
  have lines : (structOf maxWidth peripheral register marker).lines owner =
      before ++ ["  using " ++ name ++ "Pack = Register<" ++ arguments ++ ", " ++
        Group.markerName marker ++ ", T...> ;", ""] := by
    simp only [RegisterStruct.lines, before, List.append_assoc]
    rfl
  rw [lines, List.flatMap_append]
  simp [String.toList_append]

/-- The lines of the registers of a peripheral determine the markers. -/
theorem markers_eq_of_lines_eq (owner : String) {registers : List Register}
    {markers others : List String} (hm : markers.length = registers.length)
    (ho : others.length = registers.length) (cm : ∀ marker ∈ markers, ',' ∉ marker.toList)
    (co : ∀ marker ∈ others, ',' ∉ marker.toList) {x y : List Char}
    (h : ((List.zipWith (structOf maxWidth peripheral) registers markers).flatMap
        (RegisterStruct.lines owner)).flatMap (fun line => line.toList ++ ['\n']) ++ x =
      ((List.zipWith (structOf maxWidth peripheral) registers others).flatMap
        (RegisterStruct.lines owner)).flatMap (fun line => line.toList ++ ['\n']) ++ y) :
    markers = others := by
  induction registers generalizing markers others with
  | nil => rw [List.length_eq_zero_iff.1 hm, List.length_eq_zero_iff.1 ho]
  | cons register rest ih =>
    obtain ⟨marker, markers, rfl⟩ := List.exists_of_length_succ markers hm
    obtain ⟨other, others, rfl⟩ := List.exists_of_length_succ others ho
    obtain ⟨hcm, cm⟩ := List.forall_mem_cons.1 cm
    obtain ⟨hco, co⟩ := List.forall_mem_cons.1 co
    obtain ⟨start, tail, lines⟩ := exists_lines_structOf owner maxWidth peripheral register
    have noComma {id : String} (hid : ',' ∉ id.toList) : ',' ∉ (Group.markerName id).toList := by
      simpa [Group.markerName, String.toList_append] using hid
    simp only [List.zipWith_cons_cons, List.flatMap_cons, List.flatMap_append, lines,
      List.append_assoc, List.append_cancel_left_eq, List.cons_append] at h
    obtain ⟨hname, htail⟩ := append_cons_inj (noComma hcm) (noComma hco) h
    rw [markerName_injective (String.toList_injective hname),
      ih (Nat.succ.inj hm) (Nat.succ.inj ho) cm co (List.append_cancel_left htail)]

/-- The texts of two registers headers of a peripheral are the same if and only if the markers of
its packed aliases are. -/
theorem registersText_eq_iff (options : Options) (device : String) (p : Peripheral)
    (defined defined' : List String) :
    registersText options device p
        (structsOf maxWidth p (packMarkers maxWidth defined p.name p.registers)) =
      registersText options device p
        (structsOf maxWidth p (packMarkers maxWidth defined' p.name p.registers)) ↔
      packMarkers maxWidth defined p.name p.registers =
        packMarkers maxWidth defined' p.name p.registers := by
  constructor
  · intro h
    have chars := congrArg String.toList h
    simp only [registersText, fileLines, structLines, toList_unlines, List.flatMap_append,
      List.append_assoc, List.append_cancel_left_eq] at chars
    exact markers_eq_of_lines_eq _ (length_packMarkers _ _) (length_packMarkers _ _)
      comma_not_mem_packMarkers comma_not_mem_packMarkers chars
  · intro h
    rw [h]

/-! ## Runs over a selection -/

/-- The markers of the packed aliases of a peripheral in a run that comes to it after others. -/
def markersAfter (maxWidth : UInt32) (before : List Peripheral) (p : Peripheral) : List String :=
  packMarkers maxWidth (definedAfter [] (runRequests maxWidth [] (runRegisters before))) p.name
    p.registers

/-- The registers header is that of the peripheral whose packed aliases take the given markers. -/
def Headers.TakesMarkers (options : Options) (device : String) (p : Peripheral)
    (markers : List String) (headers : Headers) : Prop :=
  headers.peripheral = p.name ∧ headers.registers =
    registersText options device p (structsOf options.narrowFieldMaxWidth p markers)

theorem exists_headers_of_generate {device : Device} {options : Options} {filter : Option String}
    {run : Generated} (h : generate device options filter = .ok run)
    {before after : List Peripheral} {p : Peripheral}
    (hsplit : device.selected filter = before ++ p :: after) :
    ∃ headers, run.headers[before.length]? = some headers ∧
      headers.TakesMarkers options device.name p
        (markersAfter options.narrowFieldMaxWidth before p) := by
  have renders := (generate_eq_ok_iff.1 h).2.1
  rw [emissionsOf, hsplit, emissions_append, emissions_cons] at renders
  have place : (emissions options.narrowFieldMaxWidth .empty before).length = before.length :=
    length_emissions before
  obtain ⟨headers, hh, _, _, rfl⟩ := Steps.forall₂_getElem? renders.flip (i := before.length)
    (by rw [List.getElem?_append_right place.le, place, Nat.sub_self]; rfl)
  have start : Group.Registry.empty.defined = [] := rfl
  refine ⟨_, hh, rfl, ?_⟩
  simp only [structs_declarePeripheral, defined_registryAfter, start, markersAfter]

/-! ## Runs over all peripherals and over some -/

/-- The peripherals of a name, as a filter selects them. -/
def peripheralsNamed (name : String) (peripherals : List Peripheral) : List Peripheral :=
  peripherals.filter fun p => sameName p.name name

/-- Restricting a run that is not strict to the peripherals of one name selects their headers. It
changes nothing in their registers headers but the markers of packed aliases, and nothing at all if
and only if these are the same. -/
theorem selection_changes_only_markers (device : Device) (name : String) {options : Options}
    (h : options.strictEnumWidths = false) :
    ∃ all picked, generate device options none = .ok all ∧
      generate device options (some name) = .ok picked ∧
      picked.headers.map (·.peripheral) =
        (peripheralsNamed name device.peripherals).map (·.name) ∧
      ∀ before p after, device.peripherals = before ++ p :: after → sameName p.name name = true →
        ∃ whole part, all.headers[before.length]? = some whole ∧
          picked.headers[(peripheralsNamed name before).length]? = some part ∧
          whole.TakesMarkers options device.name p
            (markersAfter options.narrowFieldMaxWidth before p) ∧
          part.TakesMarkers options device.name p
            (markersAfter options.narrowFieldMaxWidth (peripheralsNamed name before) p) ∧
          (part.registers = whole.registers ↔
            markersAfter options.narrowFieldMaxWidth (peripheralsNamed name before) p =
              markersAfter options.narrowFieldMaxWidth before p) := by
  obtain ⟨all, hall⟩ := exists_generate h device none
  obtain ⟨picked, hpicked⟩ := exists_generate h device (some name)
  refine ⟨all, picked, hall, hpicked, peripherals_of_generate hpicked, ?_⟩
  intro before p after hsplit hname
  have hselected : device.selected (some name) =
      peripheralsNamed name before ++ p :: peripheralsNamed name after := by
    have own : peripheralsNamed name (p :: after) = p :: peripheralsNamed name after :=
      List.filter_cons_of_pos hname
    rw [← own]
    simp only [Device.selected, hsplit, peripheralsNamed, List.filter_append]
  obtain ⟨whole, hw, hwhole⟩ := exists_headers_of_generate hall hsplit
  obtain ⟨part, hp, hpart⟩ := exists_headers_of_generate hpicked hselected
  refine ⟨whole, part, hw, hp, hwhole, hpart, ?_⟩
  rw [hwhole.2, hpart.2]
  exact registersText_eq_iff options device.name p _ _

/-- A timer whose status field has the given width. -/
def timer (name : String) (address : UInt64) (statusWidth : UInt32) : Peripheral where
  name
  baseAddress := address
  access := .readWrite
  width := 32
  description := none
  registers := [
    { name := "SR", address, offset := 0, access := .readWrite, width := 32, description := none
      fields := [
        { name := "STATUS", access := .readWrite, bitOffset := 0, bitWidth := statusWidth
          description := none, enumeratedValues := none }] }]

/-- A device whose first timer defines a group with the letters of the second one's plain field. -/
def timersDevice : Device where
  name := "D"
  description := none
  access := .readWrite
  width := 32
  peripherals := [timer "TIM1" 0 1, timer "TIM2" 1024 8]

theorem markersAfter_first_timer :
    markersAfter 5 [timer "TIM1" 0 1] (timer "TIM2" 1024 8) = ["TimSrStatusValues"] := by
  decide +kernel

theorem markersAfter_no_timer : markersAfter 5 [] (timer "TIM2" 1024 8) = ["TimSrValues"] := by
  decide +kernel

theorem peripheralsNamed_first_timer : peripheralsNamed "TIM2" [timer "TIM1" 0 1] = [] :=
  List.filter_cons_of_neg (by decide)

theorem peripheralsNamed_timers :
    peripheralsNamed "TIM2" timersDevice.peripherals = [timer "TIM2" 1024 8] := by
  have second : peripheralsNamed "TIM2" [timer "TIM2" 1024 8] = [timer "TIM2" 1024 8] :=
    List.filter_cons_of_pos (by decide)
  rw [← second]
  exact List.filter_cons_of_neg (by decide)

theorem timersDevice_selection : ∃ all picked, generate timersDevice {} none = .ok all ∧
    generate timersDevice {} (some "TIM2") = .ok picked ∧
    picked.headers.map (·.peripheral) = ["TIM2"] ∧
    ∃ whole part, all.headers[1]? = some whole ∧ picked.headers[0]? = some part ∧
      whole.TakesMarkers {} "D" (timer "TIM2" 1024 8) ["TimSrStatusValues"] ∧
      part.TakesMarkers {} "D" (timer "TIM2" 1024 8) ["TimSrValues"] := by
  have plain : ({} : Options).strictEnumWidths = false := rfl
  obtain ⟨all, picked, hall, hpicked, hnames, headers⟩ :=
    selection_changes_only_markers timersDevice "TIM2" plain
  obtain ⟨whole, part, hw, hp, hwhole, hpart, -⟩ :=
    headers [timer "TIM1" 0 1] (timer "TIM2" 1024 8) [] rfl (by decide)
  rw [peripheralsNamed_first_timer] at hp hpart
  rw [peripheralsNamed_timers] at hnames
  rw [← markersAfter_first_timer, ← markersAfter_no_timer]
  exact ⟨all, picked, hall, hpicked, hnames, whole, part, hw, hp, hwhole, hpart⟩

/-- The second timer gets another registers header if it is generated alone. -/
theorem timersDevice_registers_differ : ∃ all picked whole part,
    generate timersDevice {} none = .ok all ∧
    generate timersDevice {} (some "TIM2") = .ok picked ∧
    all.headers[1]? = some whole ∧ picked.headers[0]? = some part ∧
    whole.peripheral = "TIM2" ∧ part.peripheral = "TIM2" ∧ part.registers ≠ whole.registers := by
  have plain : ({} : Options).strictEnumWidths = false := rfl
  obtain ⟨all, hall⟩ := exists_generate plain timersDevice none
  obtain ⟨picked, hpicked⟩ := exists_generate plain timersDevice (some "TIM2")
  have both : timersDevice.selected none = [timer "TIM1" 0 1] ++ timer "TIM2" 1024 8 :: [] := rfl
  have alone : timersDevice.selected (some "TIM2") = [] ++ timer "TIM2" 1024 8 :: [] :=
    peripheralsNamed_timers
  obtain ⟨whole, hw, hwhole⟩ := exists_headers_of_generate hall both
  obtain ⟨part, hp, hpart⟩ := exists_headers_of_generate hpicked alone
  refine ⟨all, picked, whole, part, hall, hpicked, hw, hp, hwhole.1, hpart.1, fun h => ?_⟩
  rw [hwhole.2, hpart.2] at h
  have markers : markersAfter 5 [] (timer "TIM2" 1024 8) =
      markersAfter 5 [timer "TIM1" 0 1] (timer "TIM2" 1024 8) :=
    (registersText_eq_iff _ _ _ _ _).1 h
  rw [markersAfter_no_timer, markersAfter_first_timer] at markers
  exact absurd markers (by decide)

end RegisterHeaders.Header
