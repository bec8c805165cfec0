import RegisterHeaders.Proofs.Header.Arguments
import RegisterHeaders.Proofs.Header.Selection
import RegisterHeaders.Proofs.Header.Success

/-!
# What a registers header says

The registers header of a peripheral says where its registers and fields are and how they can be
used: its register map. If the names of the peripheral are identifiers, then the text of the header
can be read in one way only. Every name, number and mode in it ends at a character that none of them
has (`HasParts.append_inj`), so the lines of a field and of a register can be told from what follows
them (`unlines_aliasLine_inj`, `unlines_structLines_inj`). Lists of these can too, because the line
that closes a structure begins differently, and the banner with the description can be told from the
rest (`wrap_inj_of_banner`). So two peripherals with the same text have the same map
(`registerMap_eq_of_registers`), whatever was defined before them.
-/

namespace RegisterHeaders

open Identifier

/-! ## Register maps -/

/-- What a registers header says about a field. -/
structure FieldEntry where
  name : String
  bitOffset : UInt32
  bitWidth : UInt32
  mode : String
  /-- The identifier of the group of the field, or nothing for a bare range of bits. -/
  group : Option String
  deriving Repr, DecidableEq

/-- What a registers header says about a register. -/
structure RegisterEntry where
  name : String
  address : UInt64
  width : UInt32
  mode : String
  fields : List FieldEntry
  deriving Repr, DecidableEq

/-- What a registers header says about a peripheral. -/
structure RegisterMap where
  name : String
  registers : List RegisterEntry
  deriving Repr, DecidableEq

/-- The entry of a field. -/
def Field.entry (maxWidth : UInt32) (peripheral register : String) (f : Field) : FieldEntry where
  name := Header.aliasName register f.name
  bitOffset := f.bitOffset
  bitWidth := f.bitWidth
  mode := f.access.modeType
  group := (f.groupValues maxWidth).map fun _ => Group.identifier peripheral register f.name

/-- The entry of a register. -/
def Register.entry (maxWidth : UInt32) (peripheral : String) (r : Register) : RegisterEntry where
  name := camelCase r.name
  address := r.address
  width := r.width
  mode := r.access.modeType
  fields := r.fields.map (Field.entry maxWidth peripheral r.name)

/-- The register map of a peripheral. -/
def Peripheral.registerMap (maxWidth : UInt32) (p : Peripheral) : RegisterMap where
  name := camelCase p.name
  registers := p.registers.map (Register.entry maxWidth p.name)

/-- A register whose name is an identifier, as are those of its fields. -/
structure Register.HasIdentifiers (r : Register) : Prop where
  name : IsIdentifier r.name
  fields : ∀ f ∈ r.fields, IsIdentifier f.name

/-- A peripheral whose name is an identifier, as are those of its registers and fields. -/
structure Peripheral.HasIdentifiers (p : Peripheral) : Prop where
  name : IsIdentifier p.name
  registers : ∀ r ∈ p.registers, r.HasIdentifiers

namespace Header

open Text

variable {maxWidth : UInt32} {peripheral : String} {register : Register} {s : State}

/-! ## Fields -/

/-- The group that the alias of a field names. -/
def FieldAlias.group (a : FieldAlias) : Option String :=
  if a.enumerated then some a.identifier else none

/-- What the line of an alias says about its field. -/
def FieldAlias.entry (a : FieldAlias) : FieldEntry where
  name := a.name
  bitOffset := a.bitOffset
  bitWidth := a.bitWidth
  mode := a.access.modeType
  group := a.group

/-- The template that the alias of a field with the given group is made from. -/
def templateName (group : Option String) : String :=
  group.getD "RegisterField"

/-- What follows the mode in the alias of a field with the given group. -/
def closing : Option String → String
  | some id => ", " ++ Group.markerName id ++ "> ;"
  | none => "> ;"

/-- An alias with the characters of identifiers. Its group does not have the name of the template
for bare ranges of bits. -/
structure FieldAlias.IsReadable (a : FieldAlias) : Prop where
  name : HasParts a.name
  identifier : HasParts a.identifier
  proper : a.identifier ≠ "RegisterField"

theorem FieldAlias.line_eq (owner : String) (a : FieldAlias) :
    a.line owner = "    using " ++ (a.name ++ (" = " ++ (templateName a.group ++ ("<" ++ (owner ++
      (", " ++ (a.bitOffset.toNat.repr ++ (", " ++ (a.bitWidth.toNat.repr ++ (", " ++
        (a.access.modeType ++ closing a.group))))))))))) := by
  rw [FieldAlias.line, FieldAlias.group]
  split <;> simp [templateName, closing, ← String.toList_inj]

theorem FieldAlias.IsReadable.hasParts_templateName {a : FieldAlias} (h : a.IsReadable) :
    HasParts (templateName a.group) := by
  rw [FieldAlias.group]
  split
  · exact h.identifier
  · decide

/-- The template of an alias tells its group. -/
theorem group_eq_of_templateName {a b : FieldAlias} (ha : a.IsReadable) (hb : b.IsReadable)
    (h : templateName a.group = templateName b.group) : a.group = b.group := by
  by_cases hae : a.enumerated <;> by_cases hbe : b.enumerated <;>
    simp only [FieldAlias.group, hae, hbe, if_true, if_false, templateName, Option.getD_some,
      Option.getD_none, Bool.false_eq_true] at h ⊢
  · rw [h]
  · exact absurd h ha.proper
  · exact absurd h.symm hb.proper

theorem isDelimiter_closing (group : Option String) : IsDelimiter (closing group) := by
  cases group with
  | none => decide
  | some id =>
    simp only [closing, IsDelimiter, String.append_assoc, String.toList_append]
    rfl

theorem unlines_aliasLine_inj {owner : String} {a b : FieldAlias} {as bs : List String}
    (ha : a.IsReadable) (hb : b.IsReadable)
    (h : unlines (a.line owner :: as) = unlines (b.line owner :: bs)) :
    a.entry = b.entry ∧ unlines as = unlines bs := by
  simp only [unlines_cons, FieldAlias.line_eq, String.append_assoc, String.append_right_inj] at h
  obtain ⟨name, h⟩ := ha.name.append_inj hb.name (by decide) h
  obtain ⟨template, h⟩ :=
    ha.hasParts_templateName.append_inj hb.hasParts_templateName (by decide) h
  have group := group_eq_of_templateName ha hb template
  rw [group] at h
  simp only [String.append_right_inj] at h
  obtain ⟨offset, h⟩ := (hasParts_repr _).append_inj (hasParts_repr _) (by decide) h
  obtain ⟨width, h⟩ := (hasParts_repr _).append_inj (hasParts_repr _) (by decide) h
  obtain ⟨mode, h⟩ :=
    (hasParts_modeType _).append_inj (hasParts_modeType _) (isDelimiter_closing _) h
  refine ⟨?_, (String.append_right_inj _).1 h⟩
  rw [FieldAlias.entry, FieldAlias.entry, name, UInt32.toNat_inj.1 (repr_inj offset),
    UInt32.toNat_inj.1 (repr_inj width), mode, group]

/-! ## Registers -/

/-- What the lines of a structure say about its register. -/
def RegisterStruct.entry (r : RegisterStruct) : RegisterEntry where
  name := r.name
  address := r.address
  width := r.width
  mode := r.access.modeType
  fields := r.aliases.map FieldAlias.entry

/-- A structure with the characters of identifiers. -/
structure RegisterStruct.IsReadable (r : RegisterStruct) : Prop where
  name : HasParts r.name
  aliases : ∀ a ∈ r.aliases, a.IsReadable
  marker : HasParts r.marker

theorem aliases_inj {owner : String} {aliases others : List FieldAlias} {as bs : List String}
    (ha : ∀ a ∈ aliases, a.IsReadable) (ho : ∀ a ∈ others, a.IsReadable)
    (h : unlines (aliases.map (FieldAlias.line owner) ++ "  \x7d ;" :: as) =
      unlines (others.map (FieldAlias.line owner) ++ "  \x7d ;" :: bs)) :
    aliases.map FieldAlias.entry = others.map FieldAlias.entry ∧ unlines as = unlines bs := by
  rw [List.map_eq_flatMap, List.map_eq_flatMap] at h
  refine flatMap_lines_inj unlines_aliasLine_inj ?_ ha ho h
  intro a as bs h
  simp only [List.singleton_append, unlines_cons, FieldAlias.line_eq, ← String.toList_inj,
    String.toList_append] at h
  simp at h

theorem unlines_structLines_inj {owner : String} {a b : RegisterStruct} {as bs : List String}
    (ha : a.IsReadable) (hb : b.IsReadable)
    (h : unlines (a.lines owner ++ as) = unlines (b.lines owner ++ bs)) :
    a.entry = b.entry ∧ unlines as = unlines bs := by
  simp only [RegisterStruct.lines, List.append_assoc, List.cons_append, List.nil_append,
    unlines_cons, String.append_assoc, String.append_right_inj] at h
  obtain ⟨name, h⟩ := ha.name.append_inj hb.name (by decide) h
  obtain ⟨⟨address, width, mode⟩, h⟩ := arguments_append_inj (by decide) h
  -- the packed alias repeats the name and the arguments
  have arguments : a.arguments = b.arguments := by
    rw [RegisterStruct.arguments, RegisterStruct.arguments, address, width, mode]
  simp only [name, arguments, String.append_right_inj] at h
  obtain ⟨fields, h⟩ := aliases_inj ha.aliases hb.aliases h
  simp only [unlines_cons, String.append_assoc, String.append_right_inj] at h
  have marker {id : String} (hid : HasParts id) : HasParts (Group.markerName id) :=
    hid.append (by decide)
  obtain ⟨-, h⟩ := (marker ha.marker).append_inj (marker hb.marker) (by decide) h
  simp only [String.append_right_inj] at h
  refine ⟨?_, h⟩
  rw [RegisterStruct.entry, RegisterStruct.entry, name, address, width, mode, fields]

theorem structs_inj {owner : String} {structs others : List RegisterStruct} {as bs : List String}
    (hs : ∀ r ∈ structs, r.IsReadable) (ho : ∀ r ∈ others, r.IsReadable)
    (h : unlines (structs.flatMap (RegisterStruct.lines owner) ++ "\x7d ;" :: as) =
      unlines (others.flatMap (RegisterStruct.lines owner) ++ "\x7d ;" :: bs)) :
    structs.map RegisterStruct.entry = others.map RegisterStruct.entry := by
  refine (flatMap_lines_inj unlines_structLines_inj ?_ hs ho h).1
  intro r as bs h
  simp only [RegisterStruct.lines, List.append_assoc, List.cons_append, List.nil_append,
    unlines_cons, String.append_assoc, ← String.toList_inj, String.toList_append] at h
  simp at h

/-! ## Files -/

theorem registersFile_append_inj {p q x y : String} (hp : HasParts p) (hq : HasParts q)
    (h : registersFile p ++ x = registersFile q ++ y) : fileStem p = fileStem q ∧ x = y := by
  have parts {name : String} (hn : HasParts name) : HasParts (fileStem name ++ "registers") :=
    hn.fileStem.append (by decide)
  have split (name rest : String) : registersFile name ++ rest =
      (fileStem name ++ "registers") ++ (".hpp" ++ rest) := by
    simp [registersFile, ← String.toList_inj]
  rw [split, split] at h
  obtain ⟨stem, h⟩ := (parts hp).append_inj (parts hq) (by decide) h
  exact ⟨(String.append_left_inj _).1 stem, h⟩

/-- The text of a registers header tells the name and the structures of the peripheral. -/
theorem structs_eq_of_registersText {options : Options} {device : String} {p q : Peripheral}
    {structs others : List RegisterStruct} (hp : HasParts p.name) (hq : HasParts q.name)
    (hs : ∀ r ∈ structs, r.IsReadable) (ho : ∀ r ∈ others, r.IsReadable)
    (h : registersText options device p structs = registersText options device q others) :
    camelCase p.name = camelCase q.name ∧
      structs.map RegisterStruct.entry = others.map RegisterStruct.entry := by
  simp only [registersText, fileLines, bannerLines, List.append_assoc,
    List.cons_append, List.nil_append, unlines_cons, String.append_assoc,
    String.append_right_inj] at h
  -- the guards and the first include are made of the stem of the file name
  obtain ⟨stem, h⟩ := registersFile_append_inj hp hq h
  simp only [String.append_right_inj] at h
  -- the descriptions need not be the same, but they fill the same lines
  have h := (wrap_inj_of_banner h).2
  simp only [enumerationsFile, guardName, stem, structLines, List.append_assoc, List.cons_append,
    List.nil_append, unlines_cons, String.append_assoc, String.append_right_inj] at h
  obtain ⟨title, h⟩ := hp.camelCase.append_inj hq.camelCase (by decide) h
  simp only [title, String.append_right_inj] at h
  exact ⟨title, structs_inj hs ho h⟩

/-! ## Peripherals -/

/-- The identifier of a group ends in `Values`. -/
theorem identifier_ne_registerField (p r f : String) :
    Group.identifier p r f ≠ "RegisterField" := by
  have ending : (Identifier.letters "Values").toList.getLast? = some 's' := by decide +kernel
  intro h
  have last := congrArg (fun id : String => id.toList.getLast?) h
  simp only [Group.identifier, toList_letters_append, List.getLast?_append, ending,
    Option.some_or] at last
  exact absurd last (by decide)

theorem isReadable_fieldAlias {field : Field} (hp : HasParts peripheral)
    (hr : HasParts register.name) (hf : HasParts field.name) :
    (fieldAlias maxWidth peripheral register field).IsReadable := by
  refine ⟨?_, (isWord_identifier hp hr hf).hasParts, identifier_ne_registerField _ _ _⟩
  rw [fieldAlias, aliasName]
  split
  · exact hf.camelCase.append (by decide)
  · exact hf.camelCase

theorem hasParts_packMarker {defined : List String} (hp : HasParts peripheral)
    (hr : register.HasIdentifiers) :
    HasParts (packMarker maxWidth defined peripheral register) := by
  rcases packMarker_cases maxWidth defined peripheral register with ⟨f, hf, marker⟩ | marker
  · rw [marker]
    exact (isWord_identifier hp hr.name.2 (hr.fields f hf).2).hasParts
  · rw [marker]
    exact (isWord_placeholder hp hr.name.2).hasParts

theorem entry_fieldAlias (field : Field) :
    (fieldAlias maxWidth peripheral register field).entry =
      field.entry maxWidth peripheral register.name := by
  cases hv : field.groupValues maxWidth <;>
    simp [FieldAlias.entry, FieldAlias.group, fieldAlias, Field.entry, hv]

theorem entry_structOf (marker : String) :
    (structOf maxWidth peripheral register marker).entry = register.entry maxWidth peripheral := by
  have fields : (registerAliases maxWidth peripheral register).map FieldAlias.entry =
      register.fields.map (Field.entry maxWidth peripheral register.name) := by
    rw [registerAliases, List.map_map]
    exact List.map_congr_left fun field _ => entry_fieldAlias field
  rw [RegisterStruct.entry, structOf, fields, Register.entry]

/-- The structures of a peripheral can be read, and say what its register map does. -/
theorem entries_declareRegisters {registers : List Register} (hp : HasParts peripheral)
    (h : ∀ r ∈ registers, r.HasIdentifiers) :
    (∀ r ∈ (declareRegisters maxWidth peripheral s registers).1, r.IsReadable) ∧
      (declareRegisters maxWidth peripheral s registers).1.map RegisterStruct.entry =
        registers.map (Register.entry maxWidth peripheral) := by
  induction registers generalizing s with
  | nil => exact ⟨by simp [declareRegisters], rfl⟩
  | cons register rest ih =>
    obtain ⟨hr, hrest⟩ := List.forall_mem_cons.1 h
    obtain ⟨readable, entries⟩ := ih (s := (declareRegister maxWidth peripheral s register).2) hrest
    have first : (declareRegister maxWidth peripheral s register).1.IsReadable := by
      rw [declareRegister_fst]
      refine ⟨hr.name.2.camelCase, ?_, hasParts_packMarker hp hr⟩
      exact List.forall_mem_map.2 fun f hf =>
        isReadable_fieldAlias hp hr.name.2 (hr.fields f hf).2
    simp only [declareRegisters, List.map_cons]
    refine ⟨List.forall_mem_cons.2 ⟨first, readable⟩, ?_⟩
    rw [entries, declareRegister_fst, entry_structOf]

theorem entries_declarePeripheral (maxWidth : UInt32) (registry : Group.Registry) {p : Peripheral}
    (h : p.HasIdentifiers) :
    (∀ r ∈ (declarePeripheral maxWidth registry p).1.structs, r.IsReadable) ∧
      (declarePeripheral maxWidth registry p).1.structs.map RegisterStruct.entry =
        p.registers.map (Register.entry maxWidth p.name) :=
  entries_declareRegisters h.name.2 h.registers

/-- The headers of two peripherals whose names are identifiers are always made, whatever has been
defined before, and if the registers headers are the same text, then the register maps are the
same: the names in title case, and one by one the registers with their names, addresses, widths and
modes and their fields with their aliases, bits, modes and groups. -/
theorem registerMap_eq_of_registers (options : Options) (device : String) {p q : Peripheral}
    (hp : p.HasIdentifiers) (hq : q.HasIdentifiers) (registry registry' : Group.Registry) :
    ∃ headers headers' after after',
      peripheralHeaders options device registry p = .ok (headers, after) ∧
      peripheralHeaders options device registry' q = .ok (headers', after') ∧
      (headers.registers = headers'.registers →
        p.registerMap options.narrowFieldMaxWidth = q.registerMap options.narrowFieldMaxWidth) := by
  obtain ⟨headers, hh⟩ := exists_peripheralHeaders options device registry p
  obtain ⟨headers', hh'⟩ := exists_peripheralHeaders options device registry' q
  refine ⟨headers, headers', _, _, hh, hh', fun same => ?_⟩
  obtain ⟨⟨_, -, rfl⟩, -⟩ := peripheralHeaders_eq_ok_iff.1 hh
  obtain ⟨⟨_, -, rfl⟩, -⟩ := peripheralHeaders_eq_ok_iff.1 hh'
  obtain ⟨readable, entries⟩ := entries_declarePeripheral options.narrowFieldMaxWidth registry hp
  obtain ⟨readable', entries'⟩ :=
    entries_declarePeripheral options.narrowFieldMaxWidth registry' hq
  dsimp only at same
  obtain ⟨name, registers⟩ :=
    structs_eq_of_registersText hp.name.2 hq.name.2 readable readable' same
  rw [entries, entries'] at registers
  rw [Peripheral.registerMap, Peripheral.registerMap, name, registers]

/-- A timer with one bit, whose names and description can be spelled in several ways. -/
def spelledTimer (name register field description : String) (access : Access) (base : UInt64) :
    Peripheral where
  name
  baseAddress := base
  access
  width := 32
  description := some description
  registers := [
    { name := register, address := 1024, offset := 1024 - base, access, width := 32
      description := none
      fields := [
        { name := field, access, bitOffset := 3, bitWidth := 1, description := none
          enumeratedValues := none }] }]

/-- The timer as one vendor spells it. -/
def plainTimer : Peripheral :=
  spelledTimer "TIM1" "SR" "UP" "A timer." .readWrite 0

/-- The same timer as another vendor spells it. -/
def looseTimer : Peripheral :=
  spelledTimer "tim_1" "_sr" "up" "A  timer" .unspecified 1024

/-- A registry in which the group of the bit is defined already. -/
def timerRegistry : Group.Registry :=
  (Group.Registry.empty.materialize "TimSrUpValues").2

theorem registersText_timers :
    registersText {} "D" plainTimer (declarePeripheral 5 .empty plainTimer).1.structs =
      registersText {} "D" looseTimer (declarePeripheral 5 timerRegistry looseTimer).1.structs := by
  have stem : fileStem plainTimer.name = fileStem looseTimer.name := by decide +kernel
  have name : camelCase plainTimer.name = camelCase looseTimer.name := by decide +kernel
  have said : words (registersDetails "D" plainTimer.description) =
      words (registersDetails "D" looseTimer.description) := by decide +kernel
  have details (width : Nat) : wrap width (registersDetails "D" plainTimer.description) =
      wrap width (registersDetails "D" looseTimer.description) := by rw [wrap, wrap, said]
  have lines : (declarePeripheral 5 .empty plainTimer).1.structs.flatMap
        (RegisterStruct.lines (camelCase looseTimer.name)) =
      (declarePeripheral 5 timerRegistry looseTimer).1.structs.flatMap
        (RegisterStruct.lines (camelCase looseTimer.name)) := by decide +kernel
  simp only [registersText, fileLines, bannerLines, registersFile, enumerationsFile, guardName,
    structLines, stem, name, details, lines]

theorem spelledTimers_registerMap : plainTimer.HasIdentifiers ∧ looseTimer.HasIdentifiers ∧
    plainTimer ≠ looseTimer ∧ ∃ headers headers' after after',
      peripheralHeaders {} "D" .empty plainTimer = .ok (headers, after) ∧
      peripheralHeaders {} "D" timerRegistry looseTimer = .ok (headers', after') ∧
      headers.registers = headers'.registers ∧
      plainTimer.registerMap 5 = looseTimer.registerMap 5 := by
  have plain : plainTimer.HasIdentifiers :=
    ⟨by decide, List.forall_mem_singleton.2 ⟨by decide, List.forall_mem_singleton.2 (by decide)⟩⟩
  have loose : looseTimer.HasIdentifiers :=
    ⟨by decide, List.forall_mem_singleton.2 ⟨by decide, List.forall_mem_singleton.2 (by decide)⟩⟩
  obtain ⟨headers, headers', after, after', hh, hh', told⟩ :=
    registerMap_eq_of_registers {} "D" plain loose .empty timerRegistry
  have same : headers.registers = headers'.registers := by
    obtain ⟨⟨_, -, rfl⟩, -⟩ := peripheralHeaders_eq_ok_iff.1 hh
    obtain ⟨⟨_, -, rfl⟩, -⟩ := peripheralHeaders_eq_ok_iff.1 hh'
    dsimp only
    exact registersText_timers
  exact ⟨plain, loose, by decide, headers, headers', after, after', hh, hh', same, told same⟩

end Header

end RegisterHeaders
