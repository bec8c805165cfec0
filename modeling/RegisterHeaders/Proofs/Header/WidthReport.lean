import RegisterHeaders.Proofs.Header.DefiningField

/-!
# The report of width conflicts

The width conflicts of a run are found by one pass over the fields that keeps the first use of every
group. What the pass reports can be said without it: in document order, the fields whose width is
not that of the first field with the same identifier, each with this first field
(`conflicts_report`). Comparing with the first is enough, since there is no conflict if and only if
any two fields with one identifier have one width (`conflicts_eq_nil_iff_widths`).

A run is the same in strict mode and not, except that the first conflict is an error in strict mode,
while otherwise all of them are warnings beside the headers (`width_conflicts_reported`).
-/

namespace RegisterHeaders.Header

variable {maxWidth : UInt32} {peripherals : List Peripheral}

/-- The fields of a list of peripherals that have a group, in document order. -/
def groupedFields (maxWidth : UInt32) (peripherals : List Peripheral) : List NamedField :=
  (runFields (runRegisters peripherals)).filter fun f => (f.field.groupValues maxWidth).isSome

/-- The first of the fields that have the identifier of `f`. -/
def firstLike (fields : List NamedField) (f : NamedField) : Option NamedField :=
  fields.find? (·.identifier = f.identifier)

/-- Whether the first of the fields that have the identifier of `f` has another width. -/
def differsFromFirst (fields : List NamedField) (f : NamedField) : Bool :=
  (firstLike fields f).any (·.field.bitWidth ≠ f.field.bitWidth)

/-- The conflict of a field with the one that its group was first used by. -/
def NamedField.conflictWith (f first : NamedField) : Group.WidthConflict where
  group := f.identifier
  first := first.use.path
  firstWidth := first.field.bitWidth
  other := f.use.path
  otherWidth := f.field.bitWidth

/-- The conflicts are, in order, those of the fields that differ from the first with their
identifier. -/
def ReportsConflicts (fields : List NamedField) (conflicts : List Group.WidthConflict) : Prop :=
  List.Forall₂ (fun f c => ∃ first, firstLike fields f = some first ∧ c = f.conflictWith first)
    (fields.filter (differsFromFirst fields)) conflicts

/-! ## What is reported -/

theorem forall₂_filterMap {α β : Type} {f : α → Option β} {p : α → Bool} {xs : List α}
    (h : ∀ x, p x = (f x).isSome) :
    List.Forall₂ (fun x y => f x = some y) (xs.filter p) (xs.filterMap f) := by
  induction xs with
  | nil => exact .nil
  | cons x xs ih =>
    cases hx : f x with
    | none =>
      rw [List.filterMap_cons_none hx, List.filter_cons_of_neg (by simp [h, hx])]
      exact ih
    | some y =>
      rw [List.filterMap_cons_some hx, List.filter_cons_of_pos (by simp [h, hx])]
      exact .cons hx ih

/-- The first use of a group is that of the first field with the identifier. -/
theorem find?_firstUses_groupedFields (f : NamedField) :
    (Group.firstUses (Group.uses maxWidth peripherals)).find? (·.group = f.use.group) =
      (firstLike (groupedFields maxWidth peripherals) f).map NamedField.use := by
  have same : (fun use : Group.Use => decide (use.group = f.use.group)) ∘ NamedField.use =
      fun g => decide (g.identifier = f.identifier) :=
    funext fun g => by rw [Function.comp_apply, NamedField.use_group, NamedField.use_group]
  rw [Group.find?_firstUses, uses_eq, List.find?_map, same, firstLike, groupedFields]

theorem conflict?_use {f : NamedField} {c : Group.WidthConflict} :
    Group.conflict? (Group.firstUses (Group.uses maxWidth peripherals)) f.use = some c ↔
      ∃ first, firstLike (groupedFields maxWidth peripherals) f = some first ∧
        first.field.bitWidth ≠ f.field.bitWidth ∧ c = f.conflictWith first := by
  rw [Group.conflict?_eq_some_iff]
  simp only [find?_firstUses_groupedFields, Option.map_eq_some_iff]
  constructor
  · rintro ⟨_, ⟨first, hf, rfl⟩, hw, rfl⟩
    exact ⟨first, hf, hw, rfl⟩
  · rintro ⟨first, hf, hw, rfl⟩
    exact ⟨_, ⟨first, hf, rfl⟩, hw, rfl⟩

theorem differsFromFirst_eq (f : NamedField) :
    differsFromFirst (groupedFields maxWidth peripherals) f =
      (Group.conflict? (Group.firstUses (Group.uses maxWidth peripherals)) f.use).isSome := by
  rw [Bool.eq_iff_iff, Option.isSome_iff_exists]
  simp only [conflict?_use, differsFromFirst, Option.any_eq_true, decide_eq_true_eq]
  constructor
  · rintro ⟨first, hf, hw⟩
    exact ⟨_, first, hf, hw, rfl⟩
  · rintro ⟨_, first, hf, hw, -⟩
    exact ⟨first, hf, hw⟩

theorem conflicts_report (maxWidth : UInt32) (peripherals : List Peripheral) :
    ReportsConflicts (groupedFields maxWidth peripherals)
      (Group.conflicts maxWidth peripherals) := by
  have along : Group.conflicts maxWidth peripherals =
      (groupedFields maxWidth peripherals).filterMap fun f =>
        Group.conflict? (Group.firstUses (Group.uses maxWidth peripherals)) f.use := by
    rw [Group.conflicts, Group.conflictsAfter_eq]
    conv_lhs => arg 2; rw [uses_eq]
    rw [List.filterMap_map]
    rfl
  rw [ReportsConflicts, along]
  refine (forall₂_filterMap differsFromFirst_eq).imp fun f c h => ?_
  obtain ⟨first, hf, -, hc⟩ := conflict?_use.1 h
  exact ⟨first, hf, hc⟩

theorem differsFromFirst_eq_false_iff {fields : List NamedField} :
    (∀ f ∈ fields, differsFromFirst fields f = false) ↔
      ∀ f ∈ fields, ∀ g ∈ fields, f.identifier = g.identifier →
        f.field.bitWidth = g.field.bitWidth := by
  simp only [differsFromFirst, Option.any_eq_false, decide_eq_false_iff_not, not_not]
  constructor
  · intro h f hf g hg same
    -- both have the width of the first field with their identifier
    obtain ⟨first, found⟩ : ∃ first, firstLike fields f = some first :=
      Option.isSome_iff_exists.1 (List.find?_isSome.2 ⟨f, hf, by simp⟩)
    have found' : firstLike fields g = some first := by rw [← found, firstLike, firstLike, same]
    rw [← h f hf first found, h g hg first found']
  · intro h f hf first found
    exact h first (List.mem_of_find?_eq_some found) f hf
      (by simpa using List.find?_some found)

theorem conflicts_eq_nil_iff_widths :
    Group.conflicts maxWidth peripherals = [] ↔
      ∀ f ∈ groupedFields maxWidth peripherals, ∀ g ∈ groupedFields maxWidth peripherals,
        f.identifier = g.identifier → f.field.bitWidth = g.field.bitWidth := by
  have report := conflicts_report maxWidth peripherals
  rw [ReportsConflicts] at report
  rw [← differsFromFirst_eq_false_iff, ← List.length_eq_zero_iff, ← report.length_eq,
    List.length_eq_zero_iff, List.filter_eq_nil_iff]
  simp

/-! ## Strict runs and others -/

/-- Headers are made in the same way whether the run is strict or not. -/
theorem headersOf_strict (options : Options) (strict : Bool) (device : String)
    (registry : Group.Registry) (peripherals : List Peripheral) :
    headersOf { options with strictEnumWidths := strict } device registry peripherals =
      headersOf options device registry peripherals := by
  induction peripherals generalizing registry with
  | nil => rfl
  | cons p rest ih =>
    simp only [headersOf, ih]
    rfl

/-- The conflicts of a list of peripherals are the fields that differ in width from the first field
of their group, each reported against that field; there are none if and only if the fields of every
group have one width. A strict run fails with the first conflict, if there is one, and otherwise
gives the same headers as a run that is not strict. The latter always succeeds, and warns of all
conflicts. -/
theorem width_conflicts_reported :
    (∀ maxWidth peripherals, ReportsConflicts (groupedFields maxWidth peripherals)
      (Group.conflicts maxWidth peripherals)) ∧
    (∀ maxWidth peripherals, Group.conflicts maxWidth peripherals = [] ↔
      ∀ f ∈ groupedFields maxWidth peripherals, ∀ g ∈ groupedFields maxWidth peripherals,
        f.identifier = g.identifier → f.field.bitWidth = g.field.bitWidth) ∧
    ∀ (device : Device) (options : Options) (filter : Option String),
      ∃ run, generate device { options with strictEnumWidths := false } filter = .ok run ∧
        run.warnings = Group.conflicts options.narrowFieldMaxWidth (device.selected filter) ∧
        generate device { options with strictEnumWidths := true } filter =
          match run.warnings with
          | [] => .ok run
          | conflict :: _ => .error (.widthConflict conflict) := by
  refine ⟨conflicts_report, fun _ _ => conflicts_eq_nil_iff_widths, fun device options filter => ?_⟩
  obtain ⟨headers, made⟩ := exists_headersOf options device.name .empty (device.selected filter)
  generalize found : Group.conflicts options.narrowFieldMaxWidth (device.selected filter) = conflicts
  refine ⟨⟨headers, conflicts⟩, ?_, rfl, ?_⟩
  · simp only [generate, headersOf_strict, made, found]
  · simp only [generate, headersOf_strict, made, found]
    cases conflicts <;> rfl

end RegisterHeaders.Header
