import Mathlib.Data.List.DropRight
import RegisterHeaders.Proofs.Header.AliasName
import RegisterHeaders.Proofs.Header.Arguments
import RegisterHeaders.Proofs.Header.Selection

/-!
# The names in the structure of a peripheral

The structure of a peripheral declares two names per register: that of its structure and that of its
packed alias, which is the first with an ending. All of them have to differ from each other and from
the name of the structure around them. `memberOfLine` reads them off the lines of a registers
header.

Of all names only those of fields change where they clash with what is around them. The names of
registers are taken as they are, and `members_distinct_iff` says exactly when no two declarations
have one name and none has that of the peripheral.
-/

namespace RegisterHeaders.Header

open Identifier

/-! ## Reading names off lines -/

/-- What stands between two texts, if a line begins and ends with them. -/
def between? (start ending : String) (line : List Char) : Option String := do
  let rest ← line.dropPrefix? start.toList
  let inner ← rest.dropSuffix? ending.toList
  return String.ofList inner

/-- The name that a line declares in the structure of a peripheral, where lines are indented by two
blanks. The last `<` of such a line opens the template arguments, which hold none. -/
def memberOfLine (line : String) : Option String :=
  let start := line.toList.rdropWhile (· ≠ '<')
  (between? "  struct " " : public RegisterBase<" start).or
    (between? "  using " " = Register<" start)

variable {start ending inner line name : String} {text rest : List Char}

theorem between?_eq_some_iff :
    between? start ending text = some inner ↔ text = (start ++ inner ++ ending).toList := by
  simp only [between?, Option.bind_eq_bind, Option.bind_eq_some_iff, pure, Option.some.injEq,
    List.dropPrefix?_eq_some_iff, List.dropSuffix?_eq_some_iff, beq_iff_eq]
  constructor
  · rintro ⟨_, ⟨_, rfl, rfl⟩, _, ⟨_, rfl, rfl⟩, rfl⟩
    simp
  · rintro rfl
    exact ⟨inner.toList ++ ending.toList, ⟨_, by simp, rfl⟩, inner.toList, ⟨_, rfl, rfl⟩,
      String.ofList_toList⟩

theorem between?_eq_none (h : ¬ start.toList <+: text) : between? start ending text = none := by
  rw [Option.eq_none_iff_forall_not_mem]
  intro inner hm
  have hm := between?_eq_some_iff.1 hm
  exact h ⟨inner.toList ++ ending.toList, by simp [hm]⟩

theorem rdropWhile_append_angle (h : '<' ∉ rest) :
    (text ++ '<' :: rest).rdropWhile (· ≠ '<') = text ++ ['<'] := by
  have skipped : ∀ c ∈ rest.reverse, decide (c ≠ '<') = true := by
    intro c hc
    rw [decide_eq_true_iff]
    rintro rfl
    exact h (List.mem_reverse.1 hc)
  rw [List.append_cons, List.rdropWhile, List.reverse_append, List.dropWhile_append_of_pos skipped,
    ← List.rdropWhile]
  exact List.rdropWhile_concat_neg _ _ _ (by simp)

theorem memberOfLine_struct (rest : List Char)
    (hl : line.toList = ("  struct " ++ name ++ " : public RegisterBase").toList ++ '<' :: rest)
    (hr : '<' ∉ rest) : memberOfLine line = some name := by
  rw [memberOfLine, hl, rdropWhile_append_angle hr, between?_eq_some_iff.2, Option.some_or]
  simp

theorem memberOfLine_using (rest : List Char)
    (hl : line.toList = ("  using " ++ name ++ " = Register").toList ++ '<' :: rest)
    (hr : '<' ∉ rest) : memberOfLine line = some name := by
  rw [memberOfLine, hl, rdropWhile_append_angle hr, between?_eq_none, Option.none_or,
    between?_eq_some_iff]
  · simp
  · simp [List.cons_prefix_cons]

/-- A line whose third character begins none of the two keywords declares no member. -/
theorem memberOfLine_eq_none (h : ∀ c ∈ line.toList[2]?, c ≠ 's' ∧ c ≠ 'u') :
    memberOfLine line = none := by
  have keyword {word : String} {c : Char} (hc : word.toList[2]? = some c)
      (hw : word.toList <+: line.toList.rdropWhile (· ≠ '<')) : c ≠ 's' ∧ c ≠ 'u' := by
    obtain ⟨rest, hr⟩ := hw.trans (List.rdropWhile_prefix _ _)
    obtain ⟨inside, -⟩ := List.getElem?_eq_some_iff.1 hc
    exact h c (by rw [← hr, List.getElem?_append_left inside, hc, Option.mem_def])
  rw [memberOfLine, between?_eq_none, between?_eq_none, Option.none_or]
  · exact fun hw => (keyword (c := 'u') rfl hw).2 rfl
  · exact fun hw => (keyword (c := 's') rfl hw).1 rfl

/-! ## The names that registers declare -/

variable {maxWidth : UInt32} {peripheral : String} {s : State}

/-- The lines of a register declare its structure and its packed alias in the structure of the
peripheral; the aliases of its fields are further inside. -/
theorem filterMap_memberOfLine_lines {r : RegisterStruct} (owner : String)
    (hm : '<' ∉ r.marker.toList) :
    (r.lines owner).filterMap memberOfLine = [r.name, r.name ++ "Pack"] := by
  have arguments := angle_notMem_arguments r
  have struct : memberOfLine
      ("  struct " ++ r.name ++ " : public RegisterBase<" ++ r.arguments ++ ">") = some r.name :=
    memberOfLine_struct (r.arguments.toList ++ ['>']) (by simp) (by simp [arguments])
  have packed : memberOfLine ("  using " ++ r.name ++ "Pack = Register<" ++ r.arguments ++ ", " ++
      Group.markerName r.marker ++ ", T...> ;") = some (r.name ++ "Pack") :=
    memberOfLine_using
      (r.arguments.toList ++ ", ".toList ++ r.marker.toList ++ "Base, T...> ;".toList)
      (by simp [Group.markerName]) (by simp [arguments, hm])
  have aliases : (r.aliases.map (FieldAlias.line (owner ++ "::" ++ r.name))).filterMap memberOfLine =
      [] := by
    rw [List.filterMap_eq_nil_iff, List.forall_mem_map]
    intro a _
    refine memberOfLine_eq_none ?_
    rw [FieldAlias.line]
    split <;> simp
  have others : memberOfLine "  \x7b" = none ∧ memberOfLine "  \x7d ;" = none ∧
      memberOfLine "" = none ∧ memberOfLine "  template<typename... T>" = none :=
    ⟨memberOfLine_eq_none (by simp), memberOfLine_eq_none (by simp), memberOfLine_eq_none (by simp),
      memberOfLine_eq_none (by simp)⟩
  simp [RegisterStruct.lines, struct, packed, aliases, others]

theorem angle_notMem_marker (register : Register) :
    '<' ∉ (declareRegister maxWidth peripheral s register).1.marker.toList := by
  rw [declareRegister_fst]
  exact notMem_packMarker (by decide +kernel) (by decide)

/-- The names that the structure of a peripheral declares for the given names of registers. -/
def memberNames (names : List String) : List String :=
  names.flatMap fun name => [name, name ++ "Pack"]

theorem filterMap_memberOfLine_declareRegisters (owner : String) (registers : List Register) :
    ((declareRegisters maxWidth peripheral s registers).1.flatMap
      (RegisterStruct.lines owner)).filterMap memberOfLine =
      memberNames (registers.map fun r => camelCase r.name) := by
  induction registers generalizing s with
  | nil => rfl
  | cons register rest ih =>
    simp only [declareRegisters, List.flatMap_cons, List.filterMap_append]
    rw [filterMap_memberOfLine_lines owner (angle_notMem_marker register), ih]
    rfl

theorem filterMap_memberOfLine_structLines (registry : Group.Registry) (p : Peripheral) :
    (structLines (camelCase p.name) (declarePeripheral maxWidth registry p).1.structs).filterMap
      memberOfLine = memberNames (p.registers.map fun r => camelCase r.name) := by
  have outside : memberOfLine ("struct " ++ camelCase p.name) = none ∧
      memberOfLine "\x7b" = none ∧ memberOfLine "\x7d ;" = none ∧ memberOfLine "" = none :=
    ⟨memberOfLine_eq_none (by simp), memberOfLine_eq_none (by simp), memberOfLine_eq_none (by simp),
      memberOfLine_eq_none (by simp)⟩
  rw [structLines, List.filterMap_append, List.filterMap_append]
  simp only [declarePeripheral, filterMap_memberOfLine_declareRegisters]
  simp [outside]

/-! ## Clashes -/

variable {names : List String}

theorem mem_memberNames_iff :
    name ∈ memberNames names ↔ name ∈ names ∨ ∃ other ∈ names, other ++ "Pack" = name := by
  simp only [memberNames, List.mem_flatMap, List.mem_cons, List.not_mem_nil, or_false]
  constructor
  · rintro ⟨other, ho, rfl | rfl⟩
    · exact Or.inl ho
    · exact Or.inr ⟨other, ho, rfl⟩
  · rintro (h | ⟨other, ho, rfl⟩)
    · exact ⟨name, h, Or.inl rfl⟩
    · exact ⟨other, ho, Or.inr rfl⟩

theorem append_pack_ne (name : String) : name ++ "Pack" ≠ name := by
  simp [← String.toList_inj]

theorem nodup_memberNames_iff :
    (memberNames names).Nodup ↔ names.Nodup ∧ ∀ name ∈ names, name ++ "Pack" ∉ names := by
  induction names with
  | nil => simp [memberNames]
  | cons name names ih =>
    have first : memberNames (name :: names) = name :: (name ++ "Pack") :: memberNames names := rfl
    have ne := append_pack_ne name
    have cancel : ∀ other, other ++ "Pack" = name ++ "Pack" ↔ other = name :=
      fun other => String.append_left_inj "Pack"
    rw [first, List.nodup_cons, List.nodup_cons, ih, List.mem_cons, mem_memberNames_iff,
      mem_memberNames_iff]
    simp only [cancel, exists_eq_right]
    grind

/-- Two registers one of which is called as the other with `_PACK` declare one name twice. -/
theorem not_nodup_memberNames {registers : List Register} {r other : Register}
    (hr : r ∈ registers) (ho : other ∈ registers) (hn : other.name = r.name ++ "_PACK") :
    ¬ (memberNames (registers.map fun r => camelCase r.name)).Nodup := by
  have packed : camelCase other.name = camelCase r.name ++ "Pack" := by
    have ending : camelCase "PACK" = "Pack" := by decide +kernel
    have split : r.name ++ "_PACK" = r.name ++ "_" ++ "PACK" := by simp [← String.toList_inj]
    rw [hn, split, camelCase_append_underscore, ending]
  rw [nodup_memberNames_iff]
  rintro ⟨-, apart⟩
  exact apart _ (List.mem_map_of_mem hr) (packed ▸ List.mem_map_of_mem ho)

/-- Whatever has been defined before, the names that the structure of a peripheral declares differ
exactly if those of its registers do and none of these is another one with the ending of packed
aliases; and none of them is the name of the structure exactly if no register has it, with or
without the ending. -/
theorem members_distinct_iff (maxWidth : UInt32) (registry : Group.Registry) (p : Peripheral) :
    let struct := camelCase p.name
    let names := p.registers.map fun r => camelCase r.name
    let members := (structLines struct (declarePeripheral maxWidth registry p).1.structs).filterMap
      memberOfLine
    members = memberNames names ∧
      (members.Nodup ↔ names.Nodup ∧ ∀ name ∈ names, name ++ "Pack" ∉ names) ∧
      (struct ∉ members ↔ struct ∉ names ∧ ∀ name ∈ names, name ++ "Pack" ≠ struct) := by
  intro struct names members
  have declared : members = memberNames names := filterMap_memberOfLine_structLines registry p
  rw [declared, nodup_memberNames_iff, mem_memberNames_iff]
  simp

/-- A peripheral with a register of its own name and one whose name is that of a packed alias. -/
def crcPeripheral : Peripheral where
  name := "CRC"
  baseAddress := 0
  access := .readWrite
  width := 32
  description := none
  registers := [
    { name := "CRC", address := 0, offset := 0, access := .readWrite, width := 32
      description := none, fields := [] },
    { name := "CRC_PACK", address := 4, offset := 4, access := .readWrite, width := 32
      description := none, fields := [] }]

/-- The structure of the peripheral declares `CrcPack` twice, and a structure of its own name. -/
theorem crcPeripheral_members :
    let names := crcPeripheral.registers.map fun r => camelCase r.name
    let members := (structLines (camelCase crcPeripheral.name)
      (declarePeripheral 5 .empty crcPeripheral).1.structs).filterMap memberOfLine
    names.Nodup ∧ ¬ members.Nodup ∧ camelCase crcPeripheral.name ∈ members := by
  intro names members
  have declared : members = memberNames names :=
    filterMap_memberOfLine_structLines .empty crcPeripheral
  rw [declared]
  refine ⟨by decide +kernel, ?_, ?_⟩
  · exact not_nodup_memberNames List.mem_cons_self (List.mem_cons_of_mem _ List.mem_cons_self) rfl
  · exact mem_memberNames_iff.2 (Or.inl List.mem_cons_self)

end RegisterHeaders.Header
