import Mathlib.Data.List.Nodup
import RegisterHeaders.Header.Declaration

/-!
# The names of field aliases

The structure of a register declares one alias per field, and all names in it have to differ from
each other and from its own. A field that has the name of the structure in title case gets an
ending. The ending is put on without a look at the other fields, and one of them may be called so
already: `nodup_aliasNames_iff` says exactly when the aliases of a register differ. None of them has
the name of the structure (`camelCase_notMem_aliasNames`).
-/

namespace RegisterHeaders

namespace Identifier

/-- A name that goes on after an underscore is title-cased piece by piece. -/
theorem camelChars_append_underscore (inWord : Bool) (a b : List Char) :
    camelChars inWord (a ++ '_' :: b) = camelChars inWord a ++ camelChars false b := by
  have underscore : Unicode.isAlphabetic '_' = false := by decide +kernel
  induction a generalizing inWord with
  | nil => simp [camelChars, underscore]
  | cons c a ih =>
    rw [List.cons_append, camelChars, camelChars]
    split
    · rw [ih, List.append_assoc]
    · split <;> simp [ih]

theorem camelCase_append_underscore (a b : String) :
    camelCase (a ++ "_" ++ b) = camelCase a ++ camelCase b := by
  have text : (a ++ "_" ++ b).toList = a.toList ++ '_' :: b.toList := by simp
  rw [camelCase, text, camelChars_append_underscore, String.ofList_append, camelCase, camelCase]

theorem camelCase_append_field (name : String) :
    camelCase (name ++ "_FIELD") = camelCase name ++ "Field" := by
  have ending : camelCase "FIELD" = "Field" := by decide +kernel
  have text : name ++ "_FIELD" = name ++ "_" ++ "FIELD" := by simp [← String.toList_inj]
  rw [text, camelCase_append_underscore, ending]

end Identifier

namespace Header

open Identifier

/-- The names of the fields of a register in title case. -/
def fieldNames (register : Register) : List String :=
  register.fields.map fun f => camelCase f.name

/-- The names of the aliases of the fields of a register. -/
def aliasNames (register : Register) : List String :=
  register.fields.map fun f => aliasName register.name f.name

/-- The name with the ending that it gets if it is that of the structure. -/
def withEnding (struct name : String) : String :=
  if name = struct then name ++ "Field" else name

variable {struct name : String} {register : Register}

theorem aliasNames_eq (register : Register) :
    aliasNames register = (fieldNames register).map (withEnding (camelCase register.name)) := by
  rw [aliasNames, fieldNames, List.map_map]
  rfl

theorem append_field_ne (name : String) : name ++ "Field" ≠ name := by
  intro h
  have h := congrArg String.length h
  rw [String.length_append] at h
  have : "Field".length = 5 := rfl
  omega

theorem withEnding_ne (struct name : String) : withEnding struct name ≠ struct := by
  unfold withEnding
  split
  · next h => exact h ▸ append_field_ne name
  · next h => exact h

/-- Two names get to be the same if one is that of the structure and the other one has its ending.
-/
theorem withEnding_eq_iff {a b : String} :
    withEnding struct a = withEnding struct b ↔
      a = b ∨ (a = struct ∧ b = struct ++ "Field") ∨ (b = struct ∧ a = struct ++ "Field") := by
  by_cases ha : a = struct <;> by_cases hb : b = struct
  · simp [ha, hb]
  · rw [withEnding, withEnding, if_pos ha, if_neg hb, ha]
    have := append_field_ne struct
    grind
  · rw [withEnding, withEnding, if_neg ha, if_pos hb, hb]
    have := append_field_ne struct
    grind
  · simp [withEnding, ha, hb]

theorem nodup_map_withEnding_iff {names : List String} :
    (names.map (withEnding struct)).Nodup ↔
      names.Nodup ∧ ¬ (struct ∈ names ∧ struct ++ "Field" ∈ names) := by
  constructor
  · intro h
    refine ⟨List.Nodup.of_map _ h, fun ⟨hs, hf⟩ => ?_⟩
    have same : withEnding struct struct = withEnding struct (struct ++ "Field") :=
      withEnding_eq_iff.2 (Or.inr (Or.inl ⟨rfl, rfl⟩))
    exact append_field_ne struct (List.inj_on_of_nodup_map h hs hf same).symm
  · rintro ⟨h, hno⟩
    refine h.map_on fun a ha b hb same => ?_
    rcases withEnding_eq_iff.1 same with rfl | ⟨rfl, rfl⟩ | ⟨rfl, rfl⟩
    · rfl
    · exact absurd ⟨ha, hb⟩ hno
    · exact absurd ⟨hb, ha⟩ hno

theorem camelCase_notMem_aliasNames (register : Register) :
    camelCase register.name ∉ aliasNames register := by
  rw [aliasNames_eq, List.mem_map]
  rintro ⟨name, -, h⟩
  exact withEnding_ne _ name h

theorem nodup_aliasNames_iff :
    (aliasNames register).Nodup ↔ (fieldNames register).Nodup ∧
      ¬ (camelCase register.name ∈ fieldNames register ∧
        camelCase register.name ++ "Field" ∈ fieldNames register) := by
  rw [aliasNames_eq, nodup_map_withEnding_iff]

/-- A field named as its register and one that goes on with `_FIELD` have one alias. -/
theorem not_nodup_aliasNames (same : ∃ f ∈ register.fields, f.name = register.name)
    (ending : ∃ f ∈ register.fields, f.name = register.name ++ "_FIELD") :
    ¬ (aliasNames register).Nodup := by
  obtain ⟨f, hf, hn⟩ := same
  obtain ⟨g, hg, hm⟩ := ending
  intro h
  refine (nodup_aliasNames_iff.1 h).2 ⟨?_, ?_⟩
  · exact List.mem_map.2 ⟨f, hf, congrArg camelCase hn⟩
  · exact List.mem_map.2 ⟨g, hg, (congrArg camelCase hm).trans (camelCase_append_field _)⟩

variable (maxWidth : UInt32) (peripheral : String) (s : State)

theorem aliases_declareRegister (register : Register) :
    (declareRegister maxWidth peripheral s register).1.aliases.map (·.name) =
      aliasNames register := by
  rw [declareRegister, aliasNames, List.map_map]
  rfl

/-- Whatever has been declared before, the aliases of a register differ from its structure in name,
and from each other exactly if the fields do and no two of these are called as the structure and so
with the ending. -/
theorem declareRegister_aliases_nodup_iff (register : Register) :
    let struct := (declareRegister maxWidth peripheral s register).1
    struct.aliases.map (·.name) = aliasNames register ∧
      struct.name ∉ aliasNames register ∧
      ((aliasNames register).Nodup ↔ (fieldNames register).Nodup ∧
        ¬ (struct.name ∈ fieldNames register ∧ struct.name ++ "Field" ∈ fieldNames register)) :=
  ⟨aliases_declareRegister maxWidth peripheral s register, camelCase_notMem_aliasNames register,
    nodup_aliasNames_iff⟩

/-- A register with the fields `DATA` and `DATA_FIELD`, and the name of the first. -/
def dataRegister : Register where
  name := "DATA"
  address := 0
  offset := 0
  access := .readWrite
  width := 32
  description := none
  fields := [
    { name := "DATA", access := .readWrite, bitOffset := 0, bitWidth := 8, description := none,
      enumeratedValues := none },
    { name := "DATA_FIELD", access := .readWrite, bitOffset := 8, bitWidth := 8,
      description := none, enumeratedValues := none }]

theorem dataRegister_aliases :
    (fieldNames dataRegister).Nodup ∧ ¬ (aliasNames dataRegister).Nodup := by
  constructor
  · decide +kernel
  · exact not_nodup_aliasNames ⟨_, List.mem_cons_self, rfl⟩
      ⟨_, List.mem_cons_of_mem _ List.mem_cons_self, rfl⟩

end Header

end RegisterHeaders
