import RegisterHeaders.Proofs.Derivation.Fault
import RegisterHeaders.Proofs.Header.Success
import RegisterHeaders.Proofs.Job.OnDisk

/-!
# Runs that fail before they write

A run reads one file, and everything else that it needs is computed from the text of this file
before the first directory is created. `Stops` lists what can end a run until then: there is no
text or no document in it, a position does not fit, an element of the device is faulty, the widths
of a group are in conflict in a strict run, or the filter selects no peripheral. These runs leave
all files and directories as they are, wherever in the device the fault is. All other failures are
those of a directory that cannot be created or a file that cannot be written (`runWith_stops`).
-/

namespace RegisterHeaders.Job

open Steps

variable {read : String → Except Svd.ReadError Svd.Document} {job : Job} {tree after : FileTree}
  {failure : Failure}

/-! ## Descriptions without a plan -/

/-- A job has no plan for the device of a description, and fails. -/
inductive Unplanned (job : Job) (described : Svd.Described) : Failure → Prop
  /-- An element of the device is faulty; the first one is reported. -/
  | unresolved {cause : Derivation.Error}
      (h : FirstFault (Derivation.Faulty described.device)
        (Derivation.resolutionOrder described.device) cause) :
      Unplanned job described (.ofDerivation described.device.name cause)
  | widthConflict {device : Device} {conflict : Group.WidthConflict}
      {others : List Group.WidthConflict}
      (hd : Derivation.resolve described.device = .ok device)
      (strict : job.options.strictEnumWidths = true)
      (h : Group.conflicts job.options.narrowFieldMaxWidth (device.selected job.filter) =
        conflict :: others) : Unplanned job described (.widthConflict conflict)
  | noPeripheral {device : Device} {name : String}
      (hd : Derivation.resolve described.device = .ok device) (hf : job.filter = some name)
      (h : device.selected job.filter = []) :
      Unplanned job described (.noPeripheral name device.name)

theorem Unplanned.planFor {described : Svd.Described} (h : job.Unplanned described failure) :
    (job.planFor described).2 = .error failure := by
  cases h with
  | unresolved h =>
    have hd := Derivation.resolve_eq_error_iff_firstFault.2 h
    simp only [Job.planFor, hd]
  | widthConflict hd strict h =>
    have hg := Header.generate_eq_error_iff.2 ⟨strict, _, _, h, rfl⟩
    simp only [Job.planFor, hd, hg, Failure.ofGeneration]
  | @noPeripheral device name hd hf h =>
    obtain ⟨generated, hg⟩ : ∃ generated, generate device job.options job.filter = .ok generated :=
      Header.exists_generate_iff.2 fun _ => by rw [h]; rfl
    have none := (Header.headers_eq_nil_iff hg).2 h
    rw [hf] at hg
    simp only [Job.planFor, hd, hf, hg, none]

theorem unplanned_of_planFor {described : Svd.Described}
    (h : (job.planFor described).2 = .error failure) : job.Unplanned described failure := by
  cases hd : Derivation.resolve described.device with
  | error cause =>
    simp only [planFor, hd, Except.error.injEq] at h
    exact h ▸ .unresolved (Derivation.resolve_eq_error_iff_firstFault.1 hd)
  | ok device =>
    cases hg : generate device job.options job.filter with
    | error cause =>
      obtain ⟨strict, conflict, others, hc, rfl⟩ := Header.generate_eq_error_iff.1 hg
      simp only [planFor, hd, hg, Except.error.injEq] at h
      exact h ▸ .widthConflict hd strict hc
    | ok generated =>
      simp only [planFor, hd, hg] at h
      split at h
      · next name hf none =>
        have selected := (Header.headers_eq_nil_iff hg).1 none
        rw [Except.error.injEq] at h
        exact h ▸ .noPeripheral hd hf selected
      · cases h

/-! ## Runs without a plan -/

/-- The run of a job stops before it creates or writes anything, and fails. -/
inductive Stops (read : String → Except Svd.ReadError Svd.Document) (job : Job) (tree : FileTree) :
    Failure → Prop
  | unreadable (h : tree.read? job.document = none) :
      Stops read job tree (.unreadable job.document)
  | unread {text : String} {cause : Svd.ReadError} (ht : tree.read? job.document = some text)
      (h : read text = .error cause) : Stops read job tree (.ofRead job.document cause)
  | undescribed {text : String} {document : Svd.Document} {cause : Overflow}
      (ht : tree.read? job.document = some text) (hr : read text = .ok document)
      (h : document.describe = .error cause) : Stops read job tree (.overflow cause)
  | unplanned {text : String} {document : Svd.Document} {described : Svd.Described}
      {failure : Failure} (ht : tree.read? job.document = some text)
      (hr : read text = .ok document) (hd : document.describe = .ok described)
      (h : job.Unplanned described failure) : Stops read job tree failure

theorem Stops.planned (h : job.Stops read tree failure) :
    (job.planned read tree).2 = .error failure := by
  cases h with
  | unreadable h => simp only [Job.planned, h]
  | unread ht h => simp only [Job.planned, ht, planWith, h]
  | undescribed ht hr h => simp only [Job.planned, ht, planWith, hr, h]
  | unplanned ht hr hd h => simp only [Job.planned, ht, planWith, hr, hd, h.planFor]

theorem stops_of_planned (h : (job.planned read tree).2 = .error failure) :
    job.Stops read tree failure := by
  cases ht : tree.read? job.document with
  | none =>
    simp only [planned, ht, Except.error.injEq] at h
    exact h ▸ .unreadable ht
  | some text =>
    cases hr : read text with
    | error cause =>
      simp only [planned, ht, planWith, hr, Except.error.injEq] at h
      exact h ▸ .unread ht hr
    | ok document =>
      cases hd : document.describe with
      | error cause =>
        simp only [planned, ht, planWith, hr, hd, Except.error.injEq] at h
        exact h ▸ .undescribed ht hr hd
      | ok described =>
        simp only [planned, ht, planWith, hr, hd] at h
        exact .unplanned ht hr hd (unplanned_of_planFor h)

theorem Stops.exists_runWith_eq (h : job.Stops read tree failure) : ∃ warnings,
    (job.runWith read : StateM FileTree Report) tree = (⟨warnings, .error failure⟩, tree) := by
  have hplanned := h.planned
  rcases planned : job.planned read tree with ⟨warnings, outcome⟩
  rw [planned] at hplanned
  obtain rfl : outcome = .error failure := hplanned
  exact ⟨warnings, by rw [runWith_eq, planned]⟩

/-! ## Failures while writing -/

theorem notWritten_of_writeHeaders {overwrite : Bool} {directory : String}
    {headers : Header.Headers}
    (h : (writeHeaders overwrite directory headers : StateM FileTree (Except Failure Output)) tree =
      (.error failure, after)) : ∃ path, failure = .notWritten path := by
  rw [writeHeaders_eq] at h
  split at h
  · cases h
    exact ⟨_, rfl⟩
  · split at h
    · cases h
      exact ⟨_, rfl⟩
    · cases h

theorem notWritten_of_writeAll {overwrite : Bool} {directory : String} {all : List Header.Headers}
    (h : (writeAll overwrite directory all : StateM FileTree (Except Failure (List Output))) tree =
      (.error failure, after)) : ∃ path, failure = .notWritten path := by
  induction all generalizing tree with
  | nil => cases h
  | cons headers rest ih =>
    obtain ⟨_ | output, middle, hw, h⟩ := run_bind_eq_iff.1 h
    · cases h
      exact notWritten_of_writeHeaders hw
    · obtain ⟨_ | outputs, last, ho, h⟩ := run_bind_eq_iff.1 h
      · cases h
        exact ih ho
      · cases h

theorem failure_of_carryOut {plan : Plan}
    (h : (job.carryOut plan : StateM FileTree (Except Failure Summary)) tree =
      (.error failure, after)) :
    ∃ path, failure = .notCreated path ∨ failure = .notWritten path := by
  obtain ⟨_ | _, created, -, h⟩ := run_bind_eq_iff.1 h
  · cases h
    exact ⟨_, Or.inl rfl⟩
  · obtain ⟨_ | outputs, last, hw, h⟩ := run_bind_eq_iff.1 h
    · cases h
      obtain ⟨path, hp⟩ := notWritten_of_writeAll hw
      exact ⟨path, Or.inr hp⟩
    · cases h

/-- A run that fails leaves everything as it is, unless it fails to create a directory or to write a
file. -/
theorem stops_or_of_runWith {warnings : List Warning}
    (h : (job.runWith read : StateM FileTree Report) tree =
      (⟨warnings, .error failure⟩, after)) :
    job.Stops read tree failure ∧ after = tree ∨
      ∃ path, failure = .notCreated path ∨ failure = .notWritten path := by
  obtain ⟨cause, hplan, houtcome, hafter⟩ | ⟨plan, -, hcarry⟩ := runWith_cases h
  · cases houtcome
    exact Or.inl ⟨stops_of_planned (congrArg Prod.snd hplan), hafter⟩
  · exact Or.inr (failure_of_carryOut hcarry)

/-- A run that changes something has generated the headers of all selected peripherals before. -/
theorem exists_generates_of_ne {report : Report}
    (h : (job.runWith read : StateM FileTree Report) tree = (report, after)) (ne : after ≠ tree) :
    ∃ device generated, job.Generates read tree device generated ∧
      generated.headers.map (·.peripheral) = (device.selected job.filter).map (·.name) := by
  obtain ⟨cause, -, -, hafter⟩ | ⟨plan, hplan, -⟩ := runWith_cases h
  · exact absurd hafter ne
  · obtain ⟨text, ht, hplan⟩ := planned_eq_ok_iff.1 hplan
    obtain ⟨device, generated, generates, -⟩ := exists_generates_of_planWith ht hplan
    exact ⟨device, generated, generates, generates.peripherals⟩

/-- A run that stops early reports its failure and leaves all files and directories as they are. A
run that fails in any other way could not create a directory or write a file, and one that changes
anything has generated the headers of all selected peripherals before. -/
theorem runWith_stops (read : String → Except Svd.ReadError Svd.Document) (job : Job)
    (tree : FileTree) :
    (∀ failure, job.Stops read tree failure → ∃ warnings,
      (job.runWith read : StateM FileTree Report) tree = (⟨warnings, .error failure⟩, tree)) ∧
    (∀ warnings failure after,
      (job.runWith read : StateM FileTree Report) tree = (⟨warnings, .error failure⟩, after) →
        job.Stops read tree failure ∧ after = tree ∨
          ∃ path, failure = .notCreated path ∨ failure = .notWritten path) ∧
    ∀ report after, (job.runWith read : StateM FileTree Report) tree = (report, after) →
      after ≠ tree → ∃ device generated, job.Generates read tree device generated ∧
        generated.headers.map (·.peripheral) = (device.selected job.filter).map (·.name) :=
  ⟨fun _ => Stops.exists_runWith_eq, fun _ _ _ => stops_or_of_runWith,
    fun _ _ => exists_generates_of_ne⟩

/-- A device with two timers, of which the second has a field that derives from one that does not
exist. -/
def strayDocument : Svd.Document :=
  { timersDocument "TIM_A" "TIM_B" with
    peripherals := [timer "TIM_A" 0 "CR" "EN", {
      timer "TIM_B" 4096 "SR" "BUSY" with
      registers := some [.register {
        name := "SR", array := none, derivedFrom := none, addressOffset := 0, size := none
        access := none, description := none
        fields := some [
          { name := "BUSY", array := none, derivedFrom := some "IDLE", access := none
            bitOffset := 0, bitWidth := 1, description := none, blocks := [] }] }] }] }

/-- A run for the first timer alone fails as well, and nothing is created. -/
theorem strayDocument_stops : ∃ warnings,
    (({ timersJob with filter := some "TIM_A" } : Job).runWith fun _ => .ok strayDocument :
      StateM FileTree Report) timersTree =
      (⟨warnings, .error (.unresolved "Chip" (.unresolved .field "BUSY" "IDLE"))⟩, timersTree) := by
  obtain ⟨described, hd, hname, hr⟩ : ∃ described, strayDocument.describe = .ok described ∧
      described.device.name = "Chip" ∧ Derivation.resolve described.device =
        .error (.unresolved .field "BUSY" "IDLE") :=
    exists_ok_of_decide (by decide +kernel)
  have unplanned : Unplanned { timersJob with filter := some "TIM_A" } described
      (.ofDerivation described.device.name (.unresolved .field "BUSY" "IDLE")) :=
    .unresolved (Derivation.resolve_eq_error_iff_firstFault.1 hr)
  rw [hname] at unplanned
  have text : timersTree.read? timersJob.document = some "" := by decide +kernel
  exact (runWith_stops _ _ timersTree).1 _ (.unplanned text rfl hd unplanned)

end RegisterHeaders.Job
