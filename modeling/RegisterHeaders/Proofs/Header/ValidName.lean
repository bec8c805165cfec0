import RegisterHeaders.Proofs.Header.AliasName
import RegisterHeaders.Proofs.Header.Success
import RegisterHeaders.Proofs.Identifier

/-!
# Valid names

The headers are C++ text, so the names that they declare have to be identifiers. `declaredName`
reads them off the lines. If the names of a description are identifiers, each declared name is made
of one of them in title case, or is that of a group, and `declared_names_valid_iff` says of every
single one whether it is an identifier.
-/

namespace RegisterHeaders

/-! ## Descriptions with names -/

/-- A register whose names are identifiers with a letter or digit: its own, those of its fields and
those of their enumerated values. -/
structure Register.IsNamed (r : Register) : Prop where
  name : Identifier.IsName r.name
  fields : ∀ f ∈ r.fields, Identifier.IsName f.name
  values : ∀ f ∈ r.fields, ∀ values ∈ f.enumeratedValues, ∀ v ∈ values, Identifier.IsName v.name

/-- A peripheral whose names are identifiers with a letter or digit. -/
structure Peripheral.IsNamed (p : Peripheral) : Prop where
  name : Identifier.IsName p.name
  registers : ∀ r ∈ p.registers, r.IsNamed

namespace Header

open Identifier Steps

/-! ## The names that lines declare -/

/-- The name that a line declares: what follows `struct` or `using`, up to the first character that
no identifier has. -/
def declaredName (line : String) : Option String := do
  let text := line.toList.dropWhile (· = ' ')
  let rest ← (text.dropPrefix? "struct ".toList).or (text.dropPrefix? "using ".toList)
  return String.ofList (rest.takeWhile isIdentifierPart)

/-- Whether a text consists of blanks and a keyword. -/
def IsOpening (text : String) : Prop :=
  text.toList.dropWhile (· = ' ') = "struct ".toList ∨
    text.toList.dropWhile (· = ' ') = "using ".toList

instance : DecidablePred IsOpening :=
  fun _ => inferInstanceAs (Decidable (_ ∨ _))

variable {opening name rest : String}

theorem declaredName_append (ho : IsOpening opening) (hn : HasParts name)
    (hr : rest.toList.head?.any isIdentifierPart = false) :
    declaredName (opening ++ (name ++ rest)) = some name := by
  have text := hn.takeWhile_append hr
  rw [declaredName, String.toList_append, List.dropWhile_append]
  rcases ho with ho | ho <;> simp [ho, List.dropPrefix?, -String.toList_append, text]

/-- A line that begins with neither keyword declares no name. -/
theorem declaredName_eq_none {line : String}
    (h : ∀ c ∈ (line.toList.dropWhile (· = ' ')).head?, c ≠ 's' ∧ c ≠ 'u') :
    declaredName line = none := by
  cases hl : line.toList.dropWhile (· = ' ') with
  | nil => simp [declaredName, hl, List.dropPrefix?]
  | cons c text =>
    obtain ⟨hs, hu⟩ := h c (by rw [hl]; rfl)
    simp [declaredName, hl, List.dropPrefix?, hs, hu]

/-! ## The registers header -/

variable {maxWidth : UInt32} {peripheral : String} {s : State} {register : Register}

theorem declaredName_aliasLine {a : FieldAlias} (owner : String) (hn : HasParts a.name) :
    declaredName (a.line owner) = some a.name := by
  rw [FieldAlias.line]
  split
  all_goals
    simp only [String.append_assoc]
    exact declaredName_append (by decide) hn (by simp; decide)

theorem filterMap_declaredName_lines {r : RegisterStruct} (owner : String) (hn : HasParts r.name)
    (ha : ∀ a ∈ r.aliases, HasParts a.name) :
    (r.lines owner).filterMap declaredName =
      r.name :: (r.aliases.map (·.name) ++ [r.name ++ "Pack"]) := by
  have struct : declaredName ("  struct " ++ r.name ++ " : public RegisterBase<" ++ r.arguments ++
      ">") = some r.name := by
    simp only [String.append_assoc]
    exact declaredName_append (by decide) hn (by simp; decide)
  have packed : declaredName ("  using " ++ r.name ++ "Pack = Register<" ++ r.arguments ++ ", " ++
      Group.markerName r.marker ++ ", T...> ;") = some (r.name ++ "Pack") := by
    have line : "  using " ++ r.name ++ "Pack = Register<" ++ r.arguments ++ ", " ++
        Group.markerName r.marker ++ ", T...> ;" = "  using " ++ (r.name ++ "Pack" ++
          (" = Register<" ++ r.arguments ++ ", " ++ Group.markerName r.marker ++ ", T...> ;")) := by
      simp [← String.toList_inj]
    rw [line]
    exact declaredName_append (by decide) (hn.append (by decide)) (by simp; decide)
  have aliases : (r.aliases.map (FieldAlias.line (owner ++ "::" ++ r.name))).filterMap
      declaredName = r.aliases.map (·.name) := by
    rw [List.filterMap_map, ← List.filterMap_eq_map]
    exact List.filterMap_congr fun a h => declaredName_aliasLine _ (ha a h)
  have others : declaredName "  \x7b" = none ∧ declaredName "  \x7d ;" = none ∧
      declaredName "" = none ∧ declaredName "  template<typename... T>" = none :=
    ⟨declaredName_eq_none (by simp), declaredName_eq_none (by simp), declaredName_eq_none (by simp),
      declaredName_eq_none (by simp)⟩
  simp [RegisterStruct.lines, struct, packed, aliases, others]

/-- Whether a name that is made of another one is an identifier exactly if that begins with a
letter. -/
def ValidAs (source name : String) : Prop :=
  IsIdentifier name ↔ BeginsWithLetter source

/-- The names of a register in the order in which its lines declare a name made of them. -/
def sourcesOfRegister (r : Register) : List String :=
  r.name :: (r.fields.map (·.name) ++ [r.name])

theorem validAs_camelCase_append {source ending : String} (h : IsName source)
    (he : HasParts ending) :
    ValidAs source (camelCase source ++ ending) :=
  isIdentifier_camelCase_append_iff h he

theorem validAs_camelCase {source : String} (h : IsName source) :
    ValidAs source (camelCase source) := by
  have bare : ValidAs source (camelCase source ++ "") := validAs_camelCase_append h (by decide)
  rwa [String.append_empty] at bare

theorem exists_aliasName_eq (register field : String) :
    ∃ ending, HasParts ending ∧ aliasName register field = camelCase field ++ ending := by
  rw [aliasName]
  split
  · exact ⟨"Field", by decide, rfl⟩
  · exact ⟨"", by decide, String.append_empty.symm⟩

theorem validAs_aliasName {field : String} (h : IsName field) :
    HasParts (aliasName register.name field) ∧ ValidAs field (aliasName register.name field) := by
  obtain ⟨ending, he, ha⟩ := exists_aliasName_eq register.name field
  rw [ha]
  exact ⟨h.1.2.camelCase.append he, validAs_camelCase_append h he⟩

/-- Every name that the lines of a register declare is valid as the name that it is made of. -/
theorem validAs_register (owner : String) (h : register.IsNamed) :
    List.Forall₂ ValidAs (sourcesOfRegister register)
      (((declareRegister maxWidth peripheral s register).1.lines owner).filterMap declaredName) := by
  have aliases := aliases_declareRegister maxWidth peripheral s register
  have parts : ∀ a ∈ (declareRegister maxWidth peripheral s register).1.aliases,
      HasParts a.name := by
    rw [← List.forall_mem_map, aliases, aliasNames, List.forall_mem_map]
    exact fun f hf => (validAs_aliasName (h.fields f hf)).1
  have fields : List.Forall₂ ValidAs (register.fields.map (·.name)) (aliasNames register) := by
    rw [aliasNames, List.forall₂_map_left_iff, List.forall₂_map_right_iff, List.forall₂_same]
    exact fun f hf => (validAs_aliasName (h.fields f hf)).2
  have name : (declareRegister maxWidth peripheral s register).1.name = camelCase register.name :=
    rfl
  rw [filterMap_declaredName_lines owner (name ▸ h.name.1.2.camelCase) parts, aliases, name]
  exact .cons (validAs_camelCase h.name)
    (List.rel_append fields (.cons (validAs_camelCase_append h.name (by decide)) .nil))

theorem validAs_registers (owner : String) {registers : List Register}
    (h : ∀ r ∈ registers, r.IsNamed) :
    List.Forall₂ ValidAs (registers.flatMap sourcesOfRegister)
      (((declareRegisters maxWidth peripheral s registers).1.flatMap
        (RegisterStruct.lines owner)).filterMap declaredName) := by
  induction registers generalizing s with
  | nil => exact .nil
  | cons register rest ih =>
    obtain ⟨hr, hrest⟩ := List.forall_mem_cons.1 h
    simp only [declareRegisters, List.flatMap_cons, List.filterMap_append]
    exact List.rel_append (validAs_register owner hr) (ih hrest)

/-- Every name that the structure of a peripheral declares is valid as the one that it is made of.
-/
theorem validAs_structLines (registry : Group.Registry) {p : Peripheral} (h : p.IsNamed) :
    List.Forall₂ ValidAs (p.name :: p.registers.flatMap sourcesOfRegister)
      ((structLines (camelCase p.name) (declarePeripheral maxWidth registry p).1.structs).filterMap
        declaredName) := by
  have struct : declaredName ("struct " ++ camelCase p.name) = some (camelCase p.name) := by
    have line : declaredName ("struct " ++ (camelCase p.name ++ "")) = some (camelCase p.name) :=
      declaredName_append (by decide) h.name.1.2.camelCase (by decide)
    rwa [String.append_empty] at line
  have others : declaredName "\x7b" = none ∧ declaredName "\x7d ;" = none ∧
      declaredName "" = none :=
    ⟨declaredName_eq_none (by simp), declaredName_eq_none (by simp), declaredName_eq_none (by simp)⟩
  have registers : List.Forall₂ ValidAs (p.registers.flatMap sourcesOfRegister)
      (((declareRegisters maxWidth p.name ⟨registry, []⟩ p.registers).1.flatMap
        (RegisterStruct.lines (camelCase p.name))).filterMap declaredName) :=
    validAs_registers (camelCase p.name) h.registers
  simp only [structLines, declarePeripheral, List.filterMap_append]
  simpa [struct, others] using ⟨validAs_camelCase h.name, registers⟩

/-! ## The enumerations header -/

/-- What the names of the constants of a group are made of. -/
def sourcesOfValues : Group.Values → List String
  | .explicit values => values.map (·.name)
  | .synthesized width => (List.range (1 <<< width.toNat)).map fun _ => "Value"

/-- What the names of a declaration are made of: its marker and its group of the identifier, and the
names of its constants. -/
def Declaration.sources : Declaration → List String
  | group id values => id :: id :: sourcesOfValues values
  | placeholder id => [id]

theorem filterMap_declaredName_markerLines {id : String} (h : HasParts id) :
    (markerLines id).filterMap declaredName = [Group.markerName id] := by
  have marker : declaredName ("struct " ++ Group.markerName id ++ " \x7b\x7d ;") =
      some (Group.markerName id) := by
    rw [String.append_assoc]
    exact declaredName_append (by decide) (h.append (by decide)) (by decide)
  have blank : declaredName "" = none := declaredName_eq_none (by simp)
  simp [markerLines, marker, blank]

theorem filterMap_declaredName_groupLines {id : String} {constants : List Group.Constant}
    (h : HasParts id) (hc : ∀ c ∈ constants, HasParts c.name) :
    (groupLines id constants).filterMap declaredName =
      Group.markerName id :: id :: constants.map (·.name) := by
  have struct : declaredName ("struct " ++ id ++
      ": public RegisterField<Reg, offset, size, AccessMode>") = some id := by
    rw [String.append_assoc]
    exact declaredName_append (by decide) h (by rw [String.toList_ofList]; decide)
  have lines : (constants.map constantLine).filterMap declaredName = constants.map (·.name) := by
    rw [List.filterMap_map, ← List.filterMap_eq_map]
    refine List.filterMap_congr fun c hm => ?_
    simp only [Function.comp_apply, constantLine, String.append_assoc]
    exact declaredName_append (by decide) (hc c hm) (by simp; decide)
  have parameters : declaredName
      "template <typename Reg, size_t offset, size_t size, typename AccessMode, typename BaseType>" =
        none :=
    declaredName_eq_none (by rw [String.toList_ofList]; simp)
  have others : declaredName "\x7b" = none ∧ declaredName "\x7d ;" = none ∧
      declaredName "" = none :=
    ⟨declaredName_eq_none (by simp), declaredName_eq_none (by simp), declaredName_eq_none (by simp)⟩
  simp [groupLines, filterMap_declaredName_markerLines h, struct, lines, parameters, others]

theorem isWord_value : IsWord "Value" :=
  ⟨by decide, List.all_eq_true.1 (by decide)⟩

theorem validAs_of_isWord {word ending : String} (h : IsWord word) (he : HasParts ending) :
    ValidAs word (word ++ ending) :=
  iff_of_true (h.isIdentifier.append he) h.beginsWithLetter

/-- Declarations whose identifier is a word, and whose enumerated values have names. -/
structure Declaration.IsNamed (d : Declaration) : Prop where
  id : IsWord d.id
  values : ∀ id values, d = .group id (.explicit values) → ∀ v ∈ values, IsName v.name

theorem validAs_constants {id : String} {values : Group.Values} {constants : List Group.Constant}
    (h : Declaration.IsNamed (.group id values)) (hc : values.constants = .ok constants) :
    (∀ c ∈ constants, HasParts c.name) ∧
      List.Forall₂ ValidAs (sourcesOfValues values) (constants.map (·.name)) := by
  cases values with
  | explicit values =>
    obtain rfl := Except.ok.inj hc
    have named := h.values id values rfl
    rw [List.forall_mem_map, sourcesOfValues, List.map_map, List.forall₂_map_left_iff,
      List.forall₂_map_right_iff, List.forall₂_same]
    exact ⟨fun v hv => (named v hv).1.2.camelCase, fun v hv => validAs_camelCase (named v hv)⟩
  | synthesized width =>
    rw [Group.Values.constants] at hc
    split at hc
    · obtain rfl := Except.ok.inj hc
      rw [List.forall_mem_map, sourcesOfValues, List.map_map]
      refine ⟨fun n _ => isWord_value.hasParts.append (hasParts_repr n), ?_⟩
      rw [List.forall₂_map_left_iff, List.forall₂_map_right_iff, List.forall₂_same]
      exact fun n _ => validAs_of_isWord isWord_value (hasParts_repr n)
    · cases hc

theorem validAs_declaration {d : Declaration} {lines : List String} (h : d.IsNamed)
    (hl : d.lines = .ok lines) :
    List.Forall₂ ValidAs d.sources (lines.filterMap declaredName) := by
  have marker : ValidAs d.id (Group.markerName d.id) := validAs_of_isWord h.id (by decide)
  cases d with
  | placeholder id =>
    obtain rfl := Except.ok.inj hl
    have word : IsWord id := h.id
    rw [filterMap_declaredName_markerLines word.hasParts]
    exact .cons marker .nil
  | group id values =>
    rw [Declaration.lines, bind_eq_ok_iff] at hl
    obtain ⟨constants, hc, hl⟩ := hl
    obtain rfl := Except.ok.inj hl
    obtain ⟨parts, valid⟩ := validAs_constants h hc
    have word : IsWord id := h.id
    have own : ValidAs id id := iff_of_true word.isIdentifier word.beginsWithLetter
    rw [filterMap_declaredName_groupLines word.hasParts parts]
    exact .cons marker (.cons own valid)

theorem validAs_declarations {declared : List Declaration} {lines : List (List String)}
    (h : ∀ d ∈ declared, d.IsNamed) (hl : declared.mapM Declaration.lines = .ok lines) :
    List.Forall₂ ValidAs (declared.flatMap Declaration.sources)
      (lines.flatten.filterMap declaredName) := by
  have texts := mapM_eq_ok_iff.1 hl
  clear hl
  induction texts with
  | nil => exact .nil
  | @cons d ls declared lines hd _ ih =>
    obtain ⟨hfirst, hrest⟩ := List.forall_mem_cons.1 h
    rw [List.flatMap_cons, List.flatten_cons, List.filterMap_append]
    exact List.rel_append (validAs_declaration hfirst hd) (ih hrest)

/-- What a peripheral declares is made of its own names. -/
theorem isNamed_of_mem_declared {registry : Group.Registry} {p : Peripheral} (h : p.IsNamed)
    {d : Declaration} (hd : d ∈ (declarePeripheral maxWidth registry p).1.declared) : d.IsNamed := by
  rw [declared_declarePeripheral] at hd
  obtain ⟨r, hr, defined, hd⟩ := exists_register_of_request (mem_of_mem_firstRequests hd)
  obtain ⟨register, hmem, rfl⟩ := List.mem_map.1 hr
  have named := h.registers register hmem
  rcases request_cases hd with ⟨field, hf, values, hv, rfl⟩ | rfl
  · refine ⟨isWord_identifier h.name.1.2 named.name.1.2 (named.fields field hf).1.2, ?_⟩
    intro id listed he v hmem
    obtain ⟨-, rfl⟩ := Declaration.group.inj he
    have explicit : field.enumeratedValues = some listed := by
      rcases Field.groupValues_eq_some_iff.1 hv with ⟨_, found, ⟨⟩⟩ | ⟨-, -, hs⟩
      · exact found
      · cases hs
    exact named.values field hf listed explicit v hmem
  · refine ⟨isWord_placeholder h.name.1.2 named.name.1.2, ?_⟩
    intro id values he
    cases he

/-! ## Both headers -/

/-- A name of a description that is an identifier, with a letter or digit in it, gives an identifier
in title case exactly if it begins with a letter, underscores apart. If all names of a peripheral
are such identifiers, every name that its headers declare is valid as the one that it is made of;
the identifiers of groups always are. -/
theorem declared_names_valid_iff {name : String} (hn : IsName name) (maxWidth : UInt32)
    (registry : Group.Registry) {p : Peripheral} (h : p.IsNamed) :
    (IsIdentifier (camelCase name) ↔ BeginsWithLetter name) ∧
      let declarations := (declarePeripheral maxWidth registry p).1
      List.Forall₂ ValidAs (p.name :: p.registers.flatMap sourcesOfRegister)
        ((structLines (camelCase p.name) declarations.structs).filterMap declaredName) ∧
      ∃ lines, declarations.declared.mapM Declaration.lines = .ok lines ∧
        List.Forall₂ ValidAs (declarations.declared.flatMap Declaration.sources)
          (lines.flatten.filterMap declaredName) ∧
        ∀ d ∈ declarations.declared, IsIdentifier d.id ∧ BeginsWithLetter d.id := by
  have named : ∀ d ∈ (declarePeripheral maxWidth registry p).1.declared, d.IsNamed :=
    fun _ => isNamed_of_mem_declared h
  obtain ⟨lines, hl⟩ := exists_declarationLines { narrowFieldMaxWidth := maxWidth } registry p
  refine ⟨validAs_camelCase hn, validAs_structLines registry h, lines, hl,
    validAs_declarations named hl, ?_⟩
  intro d hd
  have word := (named d hd).id
  exact ⟨word.isIdentifier, word.beginsWithLetter⟩

/-- A peripheral whose prescaler has the values `_0` and `DIV_2`. -/
def prescalerPeripheral : Peripheral where
  name := "RCC"
  baseAddress := 0
  access := .readWrite
  width := 32
  description := none
  registers := [
    { name := "_CFGR", address := 0, offset := 0, access := .readWrite, width := 32
      description := none
      fields := [
        { name := "PRE", access := .readWrite, bitOffset := 0, bitWidth := 1, description := none
          enumeratedValues := some [
            { name := "_0", value := 0, description := none },
            { name := "DIV_2", value := 1, description := none }] }] }]

theorem prescalerPeripheral_isNamed : prescalerPeripheral.IsNamed := by
  refine ⟨by decide, List.forall_mem_singleton.2
    ⟨by decide, List.forall_mem_singleton.2 (by decide), ?_⟩⟩
  refine List.forall_mem_singleton.2 ?_
  rintro _ ⟨⟩
  exact List.forall_mem_cons.2 ⟨by decide, List.forall_mem_singleton.2 (by decide)⟩

theorem prescalerPeripheral_names : IsName "_CFGR" ∧ prescalerPeripheral.IsNamed ∧
    (IsIdentifier (camelCase "_CFGR") ↔ BeginsWithLetter "_CFGR") ∧
    List.Forall₂ ValidAs ["RCC", "_CFGR", "PRE", "_CFGR"]
      ((structLines (camelCase prescalerPeripheral.name)
        (declarePeripheral 5 .empty prescalerPeripheral).1.structs).filterMap declaredName) := by
  have word : IsName "_CFGR" := by decide
  have sources : prescalerPeripheral.name ::
      prescalerPeripheral.registers.flatMap sourcesOfRegister = ["RCC", "_CFGR", "PRE", "_CFGR"] :=
    rfl
  obtain ⟨valid, headers, -⟩ := declared_names_valid_iff word 5 .empty prescalerPeripheral_isNamed
  refine ⟨word, prescalerPeripheral_isNamed, valid, ?_⟩
  rw [← sources]
  exact headers

/-- The value `_0` becomes a constant called `0`, which is no identifier. -/
theorem prescalerPeripheral_declares_zero :
    IsName "_0" ∧ camelCase "_0" = "0" ∧ ¬ IsIdentifier "0" ∧ prescalerPeripheral.IsNamed ∧
      ∃ lines, (declarePeripheral 5 .empty prescalerPeripheral).1.declared.mapM Declaration.lines =
        .ok lines ∧ "0" ∈ lines.flatten.filterMap declaredName := by
  have zero : camelCase "_0" = "0" := by decide +kernel
  have declared : (declarePeripheral 5 .empty prescalerPeripheral).1.declared =
      [.group (Group.identifier "RCC" "_CFGR" "PRE")
        (.explicit [⟨"_0", 0, none⟩, ⟨"DIV_2", 1, none⟩])] :=
    rfl
  have line : declaredName (constantLine ⟨camelCase "_0", 0⟩) = some "0" := by
    simp only [zero, constantLine, String.append_assoc]
    exact declaredName_append (by decide) (by decide) (by decide)
  rw [declared]
  refine ⟨by decide, zero, by decide, prescalerPeripheral_isNamed, _, rfl, ?_⟩
  refine List.mem_filterMap.2 ⟨_, ?_, line⟩
  simp [groupLines]

end Header

end RegisterHeaders
