import Mathlib.Algebra.Ring.Nat
import RegisterHeaders.Proofs.Header.DefiningField

/-!
# The constants of groups

The number of constants of a synthesized group is two to the power of a width, which a 64-bit word
need not hold. The groups of a run come from fields, and a field only has a synthesized group if it
has at most 16 bits, whatever the options say. So no run overflows, and every enumerations header
has the lines of complete groups: one constant per number of the field that defines the group, in
ascending order, or one per enumerated value of it (`group_constants_complete`).
-/

namespace RegisterHeaders.Header

open Identifier Steps

variable {maxWidth : UInt32} {peripherals : List Peripheral} {options : Options} {device : String}
  {constants : List Group.Constant}

/-! ## Constants of a field -/

/-- There is one constant per number of `width` bits, in ascending order, and its name has the
number. -/
structure IsNumbering (width : Nat) (constants : List Group.Constant) : Prop where
  values : constants.map (·.value) = List.range (2 ^ width)
  names : ∀ c ∈ constants, c.name = "Value" ++ c.value.repr

/-- There is one constant per enumerated value, in the same order. -/
def IsListing (values : List EnumValue) (constants : List Group.Constant) : Prop :=
  List.Forall₂ (fun v c => c.name = camelCase v.name ∧ c.value = v.value.toNat) values constants

/-- The constants that a field gives to the group that it defines. -/
inductive FieldConstants (field : Field) (constants : List Group.Constant) : Prop where
  | listed (values : List EnumValue) (declared : field.enumeratedValues = some values)
      (listing : IsListing values constants)
  | numbered (undeclared : field.enumeratedValues = none) (narrow : field.bitWidth.toNat ≤ 16)
      (numbering : IsNumbering field.bitWidth.toNat constants)

theorem isListing_of_constants {values : List EnumValue}
    (h : (Group.Values.explicit values).constants = .ok constants) :
    IsListing values constants := by
  obtain rfl := Except.ok.inj h
  rw [IsListing, List.forall₂_map_right_iff, List.forall₂_same]
  intro v _
  exact ⟨rfl, rfl⟩

theorem isNumbering_of_constants {width : UInt32}
    (h : (Group.Values.synthesized width).constants = .ok constants) :
    IsNumbering width.toNat constants := by
  rw [Group.Values.constants] at h
  split at h
  · obtain rfl := Except.ok.inj h
    constructor
    · simp [Nat.shiftLeft_eq, Function.comp_def]
    · simp
  · cases h

theorem fieldConstants_of_groupValues {field : Field} {values : Group.Values}
    (hv : field.groupValues maxWidth = some values) (hc : values.constants = .ok constants) :
    FieldConstants field constants := by
  rcases Field.groupValues_eq_some_iff.1 hv with ⟨list, declared, rfl⟩ | ⟨undeclared, ⟨-, capped⟩, rfl⟩
  · exact .listed list declared (isListing_of_constants hc)
  · exact .numbered undeclared (UInt32.le_iff_toNat_le.1 capped) (isNumbering_of_constants hc)

/-! ## Lines of a declaration -/

/-- The lines that a run over the given peripherals writes for a declaration: those of a group have
the constants of the field that defines it, and those of a placeholder have none. -/
inductive WrittenLines (maxWidth : UInt32) (peripherals : List Peripheral) :
    Declaration → List String → Prop where
  | group {id : String} {values : Group.Values} (site : FieldSite) (within : site.In peripherals)
      (defines : site.Defines maxWidth id values) (constants : List Group.Constant)
      (given : FieldConstants site.field constants) :
      WrittenLines maxWidth peripherals (.group id values) (groupLines id constants)
  | placeholder {id : String} :
      WrittenLines maxWidth peripherals (.placeholder id) (markerLines id)

theorem writtenLines_of_lines {d : Declaration} {lines : List String}
    (hd : d ∈ allDeclared (emissions maxWidth .empty peripherals)) (hl : d.lines = .ok lines) :
    WrittenLines maxWidth peripherals d lines := by
  cases d with
  | placeholder id =>
    obtain rfl := Except.ok.inj hl
    exact .placeholder
  | group id values =>
    obtain ⟨site, within, defines⟩ := group_mem_allDeclared_iff.1 hd
    obtain ⟨constants, hc, hl⟩ := bind_eq_ok_iff.1 hl
    obtain rfl := Except.ok.inj hl
    have hv := (FieldSite.defines_iff.1 defines).1
    exact .group site within defines constants (fieldConstants_of_groupValues hv hc)

/-! ## Enumerations headers -/

/-- The text of an enumerations header with the given lines between its include and its end. -/
def enumerationsWith (options : Options) (device : String) (p : Peripheral) (lines : List String) :
    String :=
  Text.unlines <| fileLines (enumerationsFile p.name) (enumerationsDetails device p.name)
    options.bannerWidth.toNat (guardName p.name "ENUMS_HPP") <|
      ["#include \"bitsfield.hpp\"     //for BitsField", ""] ++ lines

theorem exists_lines_of_enumerationsText {p : Peripheral} {declared : List Declaration}
    {text : String} (h : enumerationsText options device p declared = .ok text) :
    ∃ lines, List.Forall₂ (fun d ls => d.lines = .ok ls) declared lines ∧
      text = enumerationsWith options device p lines.flatten := by
  obtain ⟨lines, hl, ht⟩ := bind_eq_ok_iff.1 h
  exact ⟨lines, mapM_eq_ok_iff.1 hl, (Except.ok.inj ht).symm⟩

/-- The enumerations header of an emission has the lines of what it declares, one declaration after
the other. -/
def Emission.WritesGroups (options : Options) (device : String) (maxWidth : UInt32)
    (peripherals : List Peripheral) (e : Emission) (headers : Headers) : Prop :=
  headers.peripheral = e.peripheral.name ∧
    ∃ lines, headers.enumerations = enumerationsWith options device e.peripheral lines.flatten ∧
      List.Forall₂ (WrittenLines maxWidth peripherals) e.declarations.declared lines

theorem writesGroups_of_renders {e : Emission} {headers : Headers}
    (he : e ∈ emissions maxWidth .empty peripherals) (h : e.Renders options device headers) :
    e.WritesGroups options device maxWidth peripherals headers := by
  obtain ⟨text, ht, rfl⟩ := h
  obtain ⟨lines, hl, made⟩ := exists_lines_of_enumerationsText ht
  refine ⟨rfl, lines, made, forall₂_imp_of_mem hl ?_⟩
  intro d hd ls
  exact writtenLines_of_lines (List.mem_flatMap.2 ⟨e, he, hd⟩)

/-- No run overflows; it gives headers unless it is strict and has a width conflict. Every
enumerations header of a run has the lines of what it declares. A group has the constants of the
field that defines it: those of its enumerated values, one for each and in their order, or, if it
has none, one for every number of its width, which is 16 bits at most. -/
theorem group_constants_complete (device : Device) (options : Options) (filter : Option String) :
    (∀ cause, generate device options filter ≠ .error (.overflow cause)) ∧
    ((∃ run, generate device options filter = .ok run) ↔
      (options.strictEnumWidths = true →
        Group.conflicts options.narrowFieldMaxWidth (device.selected filter) = [])) ∧
    ∀ run, generate device options filter = .ok run →
      List.Forall₂
        (Emission.WritesGroups options device.name options.narrowFieldMaxWidth
          (device.selected filter))
        (emissionsOf device options filter) run.headers := by
  refine ⟨?_, exists_generate_iff, ?_⟩
  · intro cause overflow
    obtain ⟨-, conflict, rest, -, same⟩ := generate_eq_error_iff.1 overflow
    cases same
  · intro run hrun
    refine forall₂_imp_of_mem (generate_eq_ok_iff.1 hrun).2.1 ?_
    intro e he headers
    exact writesGroups_of_renders he

/-- A device with a field of 64 bits, a field of two bits and a field with enumerated values. -/
def clockDevice : Device where
  name := "D"
  description := none
  access := .readWrite
  width := 64
  peripherals := [
    { name := "RTC", baseAddress := 0, access := .readWrite, width := 64, description := none
      registers := [
        { name := "CR", address := 0, offset := 0, access := .readWrite, width := 64
          description := none
          fields := [
            { name := "COUNT", access := .readWrite, bitOffset := 0, bitWidth := 64
              description := none, enumeratedValues := none },
            { name := "MODE", access := .readWrite, bitOffset := 0, bitWidth := 2
              description := none, enumeratedValues := none },
            { name := "STATE", access := .readWrite, bitOffset := 2, bitWidth := 64
              description := none
              enumeratedValues := some [⟨"RUN", 1, none⟩, ⟨"STOP", 0, none⟩] }] }] }]

/-- Under the greatest threshold there is, the field of 64 bits still has no group. -/
theorem clockDevice_constants : ∃ run,
    generate clockDevice { narrowFieldMaxWidth := 4294967295 } none = .ok run ∧
    allDeclared (emissionsOf clockDevice { narrowFieldMaxWidth := 4294967295 } none) =
      [.group "RtcCrModeValues" (.synthesized 2),
        .group "RtcCrStateValues" (.explicit [⟨"RUN", 1, none⟩, ⟨"STOP", 0, none⟩])] ∧
    List.Forall₂
      (Emission.WritesGroups { narrowFieldMaxWidth := 4294967295 } "D" 4294967295
        clockDevice.peripherals)
      (emissionsOf clockDevice { narrowFieldMaxWidth := 4294967295 } none) run.headers := by
  obtain ⟨-, succeeds, written⟩ :=
    group_constants_complete clockDevice { narrowFieldMaxWidth := 4294967295 } none
  obtain ⟨run, hrun⟩ := succeeds.2 (fun strict => by cases strict)
  exact ⟨run, hrun, by decide +kernel, written run hrun⟩

end RegisterHeaders.Header
