import Mathlib.Data.List.Basic
import RegisterHeaders.Group.WidthConflict

/-!
# First uses

While the width conflicts are listed, a table is kept of the first use of every group seen so far
(`firstUses`). A use, once recorded, is never replaced, so that the table at the end tells which use
every conflict was found against: the conflicts are the uses that differ in width from the first use
of their group among all uses (`mem_conflicts_iff`).
-/

namespace RegisterHeaders.Group

variable {firsts uses : List Use} {use first : Use} {id : String}

/-- The table of first uses after one more use. -/
def recordUse (firsts : List Use) (use : Use) : List Use :=
  if (firsts.find? (·.group = use.group)).isSome then firsts else use :: firsts

/-- The table of first uses after some uses. -/
def firstUses (uses : List Use) : List Use :=
  uses.foldl recordUse []

/-- The conflict of a use with the first use of its group, if they differ in width. -/
def conflict? (firsts : List Use) (use : Use) : Option WidthConflict :=
  (firsts.find? (·.group = use.group)).bind fun first =>
    if first.width = use.width then none
    else some ⟨use.group, first.path, first.width, use.path, use.width⟩

theorem conflictsAfter_cons (rest : List Use) :
    conflictsAfter firsts (use :: rest) =
      (conflict? firsts use).toList ++ conflictsAfter (recordUse firsts use) rest := by
  rw [conflictsAfter, conflict?, recordUse]
  cases firsts.find? (·.group = use.group) with
  | none => rfl
  | some first =>
    by_cases hw : first.width = use.width
    · simp [hw]
    · simp [hw]

theorem find?_recordUse :
    (recordUse firsts use).find? (·.group = id) =
      (firsts.find? (·.group = id)).or (if use.group = id then some use else none) := by
  by_cases hid : use.group = id
  · subst hid
    rw [recordUse]
    cases h : firsts.find? (·.group = use.group) <;> simp [h]
  · have kept : (recordUse firsts use).find? (·.group = id) = firsts.find? (·.group = id) := by
      rw [recordUse]
      split
      · rfl
      · exact List.find?_cons_of_neg (by simpa using hid)
    rw [kept, if_neg hid, Option.or_none]

/-- A table finds what it found before further uses, and else the first of them. -/
theorem find?_foldl_recordUse :
    (uses.foldl recordUse firsts).find? (·.group = id) =
      (firsts.find? (·.group = id)).or (uses.find? (·.group = id)) := by
  induction uses generalizing firsts with
  | nil => simp
  | cons use rest ih =>
    rw [List.foldl_cons, ih, find?_recordUse, Option.or_assoc]
    congr 1
    by_cases hid : use.group = id
    · rw [if_pos hid, List.find?_cons_of_pos (by simpa using hid), Option.some_or]
    · rw [if_neg hid, List.find?_cons_of_neg (by simpa using hid), Option.none_or]

theorem find?_firstUses : (firstUses uses).find? (·.group = id) = uses.find? (·.group = id) := by
  rw [firstUses, find?_foldl_recordUse, List.find?_nil, Option.none_or]

theorem conflict?_eq_some_iff {c : WidthConflict} :
    conflict? firsts use = some c ↔
      ∃ first, firsts.find? (·.group = use.group) = some first ∧ first.width ≠ use.width ∧
        c = ⟨use.group, first.path, first.width, use.path, use.width⟩ := by
  simp only [conflict?, Option.bind_eq_some_iff, Option.ite_none_left_eq_some, Option.some.injEq,
    eq_comm (a := c), ne_eq]

/-- The conflict of a use can be found with the table after it: a use has none with itself. -/
theorem conflict?_foldl_recordUse (rest : List Use) :
    conflict? (rest.foldl recordUse (recordUse firsts use)) use = conflict? firsts use := by
  rw [conflict?, conflict?, find?_foldl_recordUse, find?_recordUse, if_pos rfl]
  cases firsts.find? (·.group = use.group) <;> simp

/-- Every conflict can be found with the table at the end. -/
theorem conflictsAfter_eq :
    conflictsAfter firsts uses = uses.filterMap (conflict? (uses.foldl recordUse firsts)) := by
  induction uses generalizing firsts with
  | nil => rfl
  | cons use rest ih =>
    rw [conflictsAfter_cons, ih, List.foldl_cons, List.filterMap_cons, conflict?_foldl_recordUse]
    cases conflict? firsts use <;> rfl

/-- Uses at the end are compared with the first uses before them, and change no conflict before. -/
theorem conflictsAfter_append (others : List Use) :
    conflictsAfter firsts (uses ++ others) =
      conflictsAfter firsts uses ++ conflictsAfter (uses.foldl recordUse firsts) others := by
  induction uses generalizing firsts with
  | nil => rfl
  | cons use rest ih =>
    rw [List.cons_append, conflictsAfter_cons, conflictsAfter_cons, ih, List.append_assoc,
      List.foldl_cons]

theorem conflicts_append (maxWidth : UInt32) (peripherals others : List Peripheral) :
    conflicts maxWidth (peripherals ++ others) =
      conflicts maxWidth peripherals ++
        conflictsAfter (firstUses (Group.uses maxWidth peripherals))
          (Group.uses maxWidth others) := by
  have uses_append : Group.uses maxWidth (peripherals ++ others) =
      Group.uses maxWidth peripherals ++ Group.uses maxWidth others := List.flatMap_append
  rw [conflicts, uses_append, conflictsAfter_append, conflicts, firstUses]

/-- The conflicts are the uses that differ in width from the first use of their group. -/
theorem mem_conflicts_iff {maxWidth : UInt32} {peripherals : List Peripheral} {c : WidthConflict} :
    c ∈ conflicts maxWidth peripherals ↔
      ∃ use ∈ Group.uses maxWidth peripherals, ∃ first,
        (firstUses (Group.uses maxWidth peripherals)).find? (·.group = use.group) = some first ∧
          first.width ≠ use.width ∧
          c = ⟨use.group, first.path, first.width, use.path, use.width⟩ := by
  rw [conflicts, conflictsAfter_eq, List.mem_filterMap]
  simp only [conflict?_eq_some_iff]
  rfl

/-- There is no conflict if and only if every use has the width of the first use of its group. -/
theorem conflicts_eq_nil_iff {maxWidth : UInt32} {peripherals : List Peripheral} :
    conflicts maxWidth peripherals = [] ↔
      ∀ use ∈ Group.uses maxWidth peripherals, ∀ first,
        (firstUses (Group.uses maxWidth peripherals)).find? (·.group = use.group) = some first →
          first.width = use.width := by
  rw [List.eq_nil_iff_forall_not_mem]
  constructor
  · intro h use hu first hf
    by_contra hw
    exact h _ (mem_conflicts_iff.2 ⟨use, hu, first, hf, hw, rfl⟩)
  · intro h c hc
    obtain ⟨use, hu, first, hf, hw, -⟩ := mem_conflicts_iff.1 hc
    exact hw (h use hu first hf)

end RegisterHeaders.Group
