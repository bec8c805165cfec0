import RegisterHeaders.Proofs.Job.Effect

/-!
# Enumerations headers that are kept

Without the option to overwrite enumerations headers, a run replaces no file but those whose names
end in `registers.hpp`, whether it succeeds or fails, and so does a sequence of runs
(`runAll_keeps`). A run that succeeds lists a registers header for every peripheral that it was to
write, and an enumerations header either as written or as kept, depending on whether it existed when
it was the turn of the peripheral.
-/

namespace RegisterHeaders.Job

open Steps

variable {read : String → Except Svd.ReadError Svd.Document} {job : Job} {tree after : FileTree}
  {location : FileTree.Location}

/-! ## Files that stay -/

/-- The place of a file whose name ends as those of registers headers do. -/
def IsRegistersPlace (location : FileTree.Location) : Prop :=
  ∃ base stem, location = base ++ [stem ++ "registers.hpp"]

theorem isRegistersPlace_of_locate? {directory : String} {headers : Header.Headers}
    (named : headers.Named) (h : tree.locate? (registersPath directory headers) = some location) :
    IsRegistersPlace location := by
  rw [registersPath, named.registersFile, Header.registersFile] at h
  exact exists_last_of_locate? (by decide) (by decide) h

/-- Of the writes of a plan, those to places of other files keep what there is. -/
theorem keeps_of_writesOf {plan : Plan} (keeping : job.options.overwriteEnumerations = false)
    (named : ∀ x ∈ plan.headers, x.Named) (other : ¬ IsRegistersPlace location)
    {w : FileTree.Write} (hw : w ∈ job.writesOf plan) (hl : tree.locate? w.path = some location) :
    w.keeps = true := by
  obtain ⟨x, hx, rfl | rfl⟩ := mem_writes_iff.1 hw
  · exact absurd (isRegistersPlace_of_locate? (named x hx) hl) other
  · rw [enumerationsWrite, keeping]
    rfl

/-- A run keeps what there is at other places than those of registers headers. -/
theorem get?_runWith_of_keeping (keeping : job.options.overwriteEnumerations = false)
    (other : ¬ IsRegistersPlace location) {entry : FileTree.Entry}
    (h : tree.get? location = some entry) :
    ((job.runWith read : StateM FileTree Report) tree).2.get? location = some entry := by
  rw [runWith_snd]
  cases hplan : job.planIn read tree with
  | none => exact h
  | some plan =>
    have created : (job.prepare plan tree).2.get? location = some entry :=
      (FileTree.extends_createDirectories tree _).get? location entry h
    dsimp only
    split
    · refine FileTree.get?_performUntil_of_keeping created fun w hw hl => ?_
      exact keeps_of_writesOf keeping (fun x hx => named_of_planIn hplan hx) other hw hl
    · exact created

/-! ## Sequences of runs -/

/-- The tree after runs of jobs one after the other, whether they succeed or not. -/
def runAll (read : String → Except Svd.ReadError Svd.Document) (jobs : List Job)
    (tree : FileTree) : FileTree :=
  jobs.foldl (fun tree job => ((job.runWith read : StateM FileTree Report) tree).2) tree

theorem get?_runAll_of_keeping {jobs : List Job}
    (keeping : ∀ job ∈ jobs, job.options.overwriteEnumerations = false)
    (other : ¬ IsRegistersPlace location) {entry : FileTree.Entry}
    (h : tree.get? location = some entry) : (runAll read jobs tree).get? location = some entry := by
  induction jobs generalizing tree with
  | nil => exact h
  | cons job jobs ih =>
    rw [List.forall_mem_cons] at keeping
    exact ih keeping.2 (get?_runWith_of_keeping keeping.1 other h)

/-! ## What a run lists -/

/-- The peripherals and the trees at their turns: the registers header of the peripheral has been
written and its enumerations header comes next. -/
def turns (overwrite : Bool) (directory : String) :
    List Header.Headers → FileTree → List (Header.Headers × FileTree)
  | [], _ => []
  | headers :: rest, tree =>
    let turn := FileTree.performUntil [registersWrite directory headers] tree
    (headers, turn) :: turns overwrite directory rest
      (FileTree.performUntil [enumerationsWrite overwrite directory headers] turn)

theorem map_fst_turns (overwrite : Bool) (directory : String) (all : List Header.Headers)
    (tree : FileTree) : (turns overwrite directory all tree).map Prod.fst = all := by
  induction all generalizing tree with
  | nil => rfl
  | cons headers rest ih => rw [turns, List.map_cons, ih]

/-- Whether there is something at the path of the enumerations header of a peripheral. -/
def existing (directory : String) (turn : Header.Headers × FileTree) : Bool :=
  turn.2.contains (enumerationsPath directory turn.1)

theorem outputs_of_writeAll {directory : String} {all : List Header.Headers}
    {outputs : List Output}
    (h : (writeAll false directory all : StateM FileTree _) tree = (.ok outputs, after)) :
    outputs = (turns false directory all tree).map fun turn =>
      ⟨registersPath directory turn.1, enumerationsPath directory turn.1,
        existing directory turn⟩ := by
  induction all generalizing tree outputs with
  | nil =>
    cases h
    rfl
  | cons headers rest ih =>
    obtain ⟨_ | output, middle, hw, h⟩ := run_bind_eq_iff.1 h
    · cases h
    · obtain ⟨_ | others, last, ho, h⟩ := run_bind_eq_iff.1 h
      · cases h
      · cases h
        rw [writeHeaders_eq] at hw
        split at hw
        · cases hw
        · next turn registers =>
          split at hw
          · cases hw
          · next written enumerations =>
            cases hw
            rw [turns]
            simp only [FileTree.performUntil, registers, enumerations, List.map_cons]
            rw [ih ho]
            rfl

/-- A summary lists the registers headers of all peripherals, and their enumerations headers as kept
or as written, depending on whether they exist at the turn of the peripheral; all in order. -/
structure Summary.Lists (summary : Summary) (all : List Header.Headers) (tree : FileTree) : Prop where
  registers : summary.registers = all.map (registersPath summary.directory)
  kept : summary.kept =
    ((turns false summary.directory all tree).filter (existing summary.directory)).map
      fun turn => enumerationsPath summary.directory turn.1
  enumerations : summary.enumerations =
    ((turns false summary.directory all tree).filter (!existing summary.directory ·)).map
      fun turn => enumerationsPath summary.directory turn.1

/-- A run that succeeds lists the headers of the selected peripherals. -/
theorem exists_lists_of_runWith (keeping : job.options.overwriteEnumerations = false)
    {warnings : List Warning} {summary : Summary}
    (h : (job.runWith read : StateM FileTree Report) tree = (⟨warnings, .ok summary⟩, after)) :
    ∃ device generated, job.Generates read tree device generated ∧
      generated.headers.map (·.peripheral) = (device.selected job.filter).map (·.name) ∧
      summary.Lists generated.headers (withDirectories tree summary.directory) := by
  obtain ⟨device, generated, generates, written⟩ := exists_writeAll_of_runWith h
  rw [keeping] at written
  have outputs := outputs_of_writeAll written
  refine ⟨device, generated, generates, generates.peripherals, ?_, ?_, ?_⟩
  · have all := map_fst_turns false summary.directory generated.headers
      (withDirectories tree summary.directory)
    conv_rhs => rw [← all, List.map_map]
    rw [Summary.registers, outputs, List.map_map]
    rfl
  · rw [Summary.kept, outputs, List.filter_map, List.map_map]
    rfl
  · rw [Summary.enumerations, outputs, List.filter_map, List.map_map]
    rfl

/-- Without overwriting, runs change no file whose name does not end in `registers.hpp`, whether
they succeed or not. Those that succeed list one registers header for every selected peripheral, in
order, and its enumerations header as kept if it existed at its turn, as written otherwise. -/
theorem runAll_keeps {jobs : List Job}
    (keeping : ∀ job ∈ jobs, job.options.overwriteEnumerations = false) (tree : FileTree) :
    (∀ earlier runs later, jobs = earlier ++ runs ++ later → ∀ location text,
      ¬ IsRegistersPlace location →
      (runAll read earlier tree).get? location = some (.file text) →
        (runAll read (earlier ++ runs) tree).get? location = some (.file text)) ∧
    ∀ earlier job later, jobs = earlier ++ job :: later → ∀ warnings summary after,
      (job.runWith read : StateM FileTree Report) (runAll read earlier tree) =
        (⟨warnings, .ok summary⟩, after) →
      ∃ device generated, job.Generates read (runAll read earlier tree) device generated ∧
        generated.headers.map (·.peripheral) = (device.selected job.filter).map (·.name) ∧
        summary.Lists generated.headers
          (withDirectories (runAll read earlier tree) summary.directory) := by
  constructor
  · rintro earlier runs later rfl location text other h
    rw [runAll, List.foldl_append]
    refine get?_runAll_of_keeping (fun job hjob => keeping job ?_) other h
    exact List.mem_append_left later (List.mem_append_right earlier hjob)
  · rintro earlier job later rfl warnings summary after h
    exact exists_lists_of_runWith (keeping job (by simp)) h

/-- There are an SVD file and an enumerations header that was edited. -/
def editedTree : FileTree :=
  .ofFiles [("chip.svd", ""), ("out/Chip/BitsField/timabitsfield.hpp", "// edited")]

/-- The first of two runs keeps the edited header of one timer and writes that of the other, and the
second keeps both. -/
theorem timers_keep_edited :
    (runAll (readTimers "TIM_A" "TIM_B") [timersJob, timersJob] editedTree).get?
      ["work", "out", "Chip", "BitsField", "timabitsfield.hpp"] = some (.file "// edited") ∧
    ∃ warnings summary after device generated,
      (timersJob.runWith (readTimers "TIM_A" "TIM_B") : StateM FileTree Report) editedTree =
        (⟨warnings, .ok summary⟩, after) ∧
      timersJob.Generates (readTimers "TIM_A" "TIM_B") editedTree device generated ∧
      generated.headers.map (·.peripheral) = (device.selected timersJob.filter).map (·.name) ∧
      summary.Lists generated.headers (withDirectories editedTree summary.directory) ∧
      summary.kept = ["out/Chip/BitsField/timabitsfield.hpp"] ∧
      summary.enumerations = ["out/Chip/BitsField/timbbitsfield.hpp"] := by
  have keeps := @runAll_keeps (readTimers "TIM_A" "TIM_B") [timersJob, timersJob] (by decide)
    editedTree
  constructor
  · refine keeps.1 [] [timersJob, timersJob] [] rfl _ _ ?_ (by decide +kernel)
    rintro ⟨base, stem, place⟩
    have name : "timabitsfield.hpp" = "tima" ++ "bitsfield.hpp" := by decide +kernel
    have split : ["work", "out", "Chip", "BitsField"] ++ ["tima" ++ "bitsfield.hpp"] =
        base ++ [stem ++ "registers.hpp"] := by
      rw [← name]
      exact place
    have names := (List.append_inj' split rfl).2
    exact append_registers_ne_append_bitsfield stem "tima" (List.cons.inj names).1.symm
  · have computed : ∃ summary, ((timersJob.runWith (readTimers "TIM_A" "TIM_B") :
        StateM FileTree Report) editedTree).1.outcome = .ok summary ∧
          summary.kept = ["out/Chip/BitsField/timabitsfield.hpp"] ∧
          summary.enumerations = ["out/Chip/BitsField/timbbitsfield.hpp"] :=
      exists_ok_of_decide (by decide +kernel)
    obtain ⟨summary, hsummary, kept, enumerations⟩ := computed
    rcases hrun : (timersJob.runWith (readTimers "TIM_A" "TIM_B") : StateM FileTree Report)
      editedTree with ⟨⟨warnings, outcome⟩, after⟩
    rw [hrun] at hsummary
    obtain rfl : outcome = .ok summary := hsummary
    obtain ⟨device, generated, generates, names, lists⟩ :=
      keeps.2 [] timersJob [timersJob] rfl warnings summary after hrun
    exact ⟨warnings, summary, after, device, generated, rfl, generates, names, lists, kept,
      enumerations⟩

end RegisterHeaders.Job
