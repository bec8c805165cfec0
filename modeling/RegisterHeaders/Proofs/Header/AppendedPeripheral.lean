import RegisterHeaders.Proofs.Group.FirstUse
import RegisterHeaders.Proofs.Header.Selection

/-!
# Peripherals at the end of a device

A run goes through the peripherals of a device in document order. All it knows of those it has
passed is the registry of the groups they define and the first use of every group, and it never goes
back: the headers and the warnings of the peripherals it has passed are those of a run that ends
there (`generate_withAppended`), and further peripherals only add theirs, made with that registry
and compared with those first uses. A strict run that has failed stays one that fails.
-/

namespace RegisterHeaders.Header

variable {options : Options} {device : Device} {filter : Option String}

/-! ## The selection -/

/-- Whether a filter selects a peripheral. -/
def selects (filter : Option String) (p : Peripheral) : Bool :=
  filter.all fun name => sameName p.name name

theorem selected_eq_filter :
    device.selected filter = device.peripherals.filter (selects filter) := by
  cases filter with
  | none => exact (List.filter_eq_self.2 fun p _ => rfl).symm
  | some name => rfl

/-- A device with further peripherals at its end. -/
def withAppended (device : Device) (appended : List Peripheral) : Device :=
  { device with peripherals := device.peripherals ++ appended }

theorem selected_withAppended (appended : List Peripheral) :
    (withAppended device appended).selected filter =
      device.selected filter ++ appended.filter (selects filter) := by
  rw [selected_eq_filter, selected_eq_filter, withAppended, List.filter_append]

/-! ## The headers -/

/-- The headers of further peripherals are made with the registry left by those before them, whose
own headers stay as they are. -/
theorem headersOf_append_eq_ok {name : String} {registry : Group.Registry}
    {first rest : List Peripheral} {headers others : List Headers}
    (hf : headersOf options name registry first = .ok headers)
    (hr : headersOf options name (registryAfter options.narrowFieldMaxWidth registry first) rest =
      .ok others) :
    headersOf options name registry (first ++ rest) = .ok (headers ++ others) := by
  rw [headersOf_eq_ok_iff, emissions_append]
  exact List.rel_append (headersOf_eq_ok_iff.1 hf) (headersOf_eq_ok_iff.1 hr)

/-! ## The run -/

/-- The conflicts of the selected peripherals are those of a device without the appended ones, then
those of the appended ones with all first uses before them. -/
theorem conflicts_withAppended (maxWidth : UInt32) (device : Device) (filter : Option String)
    (appended : List Peripheral) :
    Group.conflicts maxWidth ((withAppended device appended).selected filter) =
      Group.conflicts maxWidth (device.selected filter) ++
        Group.conflictsAfter (Group.firstUses (Group.uses maxWidth (device.selected filter)))
          (Group.uses maxWidth (appended.filter (selects filter))) := by
  rw [selected_withAppended, Group.conflicts_append]

/-- A strict run that fails for a device fails with the same conflict whatever is appended. -/
theorem generate_withAppended_eq_error {cause : GenerationError} (appended : List Peripheral)
    (h : generate device options filter = .error cause) :
    generate (withAppended device appended) options filter = .error cause := by
  obtain ⟨strict, conflict, rest, hc, rfl⟩ := generate_eq_error_iff.1 h
  have conflicts := conflicts_withAppended options.narrowFieldMaxWidth device filter appended
  rw [hc, List.cons_append] at conflicts
  exact generate_eq_error_iff.2 ⟨strict, conflict, _, conflicts, rfl⟩

/-- A run that is not strict makes the same headers and gives the same warnings for the peripherals
of a device, whatever peripherals are appended at its end. These add headers, made with the groups
that are defined before them, and warnings, found against the first uses before them. -/
theorem generate_withAppended (device : Device) (h : options.strictEnumWidths = false)
    (filter : Option String) (appended : List Peripheral) :
    ∃ run others warnings, generate device options filter = .ok run ∧
      generate (withAppended device appended) options filter =
        .ok ⟨run.headers ++ others, run.warnings ++ warnings⟩ ∧
      run.headers.map (·.peripheral) = (device.selected filter).map (·.name) ∧
      others.map (·.peripheral) = (appended.filter (selects filter)).map (·.name) ∧
      headersOf options device.name
        (registryAfter options.narrowFieldMaxWidth .empty (device.selected filter))
        (appended.filter (selects filter)) = .ok others ∧
      warnings = Group.conflictsAfter
        (Group.firstUses (Group.uses options.narrowFieldMaxWidth (device.selected filter)))
        (Group.uses options.narrowFieldMaxWidth (appended.filter (selects filter))) := by
  obtain ⟨run, hrun⟩ := exists_generate h device filter
  obtain ⟨others, ho⟩ := exists_headersOf options device.name
    (registryAfter options.narrowFieldMaxWidth .empty (device.selected filter))
    (appended.filter (selects filter))
  obtain ⟨-, own, warned⟩ := generate_eq_ok_iff.1 hrun
  have both : headersOf options device.name .empty
      ((withAppended device appended).selected filter) = .ok (run.headers ++ others) := by
    rw [selected_withAppended]
    exact headersOf_append_eq_ok (headersOf_eq_ok_iff.2 own) ho
  refine ⟨run, others, _, hrun, generate_eq_ok_iff.2 ⟨?_, headersOf_eq_ok_iff.1 both, ?_⟩,
    peripherals_of_generate hrun, peripherals_of_headersOf ho, ho, rfl⟩
  · intro strict
    rw [h] at strict
    exact Bool.noConfusion strict
  · rw [conflicts_withAppended, warned]

/-- Two timers whose status fields share a group and differ in width. -/
def widerTimers : Device where
  name := "D"
  description := none
  access := .readWrite
  width := 32
  peripherals := [timer "TIM1" 0 1, timer "TIM2" 1024 2]

/-- The conflict of a timer with the first one. -/
def timerConflict (path : String) (width : UInt32) : Group.WidthConflict where
  group := "TimSrStatusValues"
  first := "TIM1.SR.STATUS"
  firstWidth := 1
  other := path
  otherWidth := width

theorem widerTimers_conflicts :
    Group.conflicts 5 widerTimers.peripherals = [timerConflict "TIM2.SR.STATUS" 2] ∧
      Group.conflictsAfter (Group.firstUses (Group.uses 5 widerTimers.peripherals))
        (Group.uses 5 [timer "TIM3" 2048 3]) = [timerConflict "TIM3.SR.STATUS" 3] := by
  decide +kernel

/-- A third timer of the same group adds a header and a warning. -/
theorem widerTimers_withAppended : ∃ run others, generate widerTimers {} none = .ok run ∧
    generate (withAppended widerTimers [timer "TIM3" 2048 3]) {} none =
      .ok ⟨run.headers ++ others, run.warnings ++ [timerConflict "TIM3.SR.STATUS" 3]⟩ ∧
    run.headers.map (·.peripheral) = ["TIM1", "TIM2"] ∧
    others.map (·.peripheral) = ["TIM3"] ∧
    run.warnings = [timerConflict "TIM2.SR.STATUS" 2] := by
  have plain : ({} : Options).strictEnumWidths = false := rfl
  obtain ⟨run, others, warnings, hrun, hboth, names, added, -, warned⟩ :=
    generate_withAppended widerTimers plain none [timer "TIM3" 2048 3]
  obtain ⟨own, new⟩ := widerTimers_conflicts
  rw [warned.trans new] at hboth
  exact ⟨run, others, hrun, hboth, names, added, (generate_eq_ok_iff.1 hrun).2.2.trans own⟩

end RegisterHeaders.Header
