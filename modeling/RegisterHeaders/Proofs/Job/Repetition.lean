import RegisterHeaders.Proofs.Job.Effect

/-!
# Running a job again

A run that is repeated on the tree that it leaves changes nothing (`runWith_again`), whether it
succeeds or fails at any step and whether enumerations headers are overwritten or not, as long as it
does not write its own SVD file. The SVD file then holds the same text, so there is the same plan;
its directories exist, or cannot be created for the same reason; and the writes end where they
ended before, since no place is written both by a registers header and by an enumerations header.
-/

namespace RegisterHeaders.Job

variable {read : String → Except Svd.ReadError Svd.Document} {job : Job} {plan : Plan}
  {before after : FileTree} {report : Report}

/-- The writes of a run that put their texts into files. -/
def written (read : String → Except Svd.ReadError Svd.Document) (job : Job) (tree : FileTree) :
    List FileTree.Write :=
  match job.planIn read tree with
  | none => []
  | some plan =>
    if (job.prepare plan tree).1 then
      FileTree.written (job.writesOf plan) (job.prepare plan tree).2
    else []

/-- No place is written both by a registers header and by an enumerations header of a plan. -/
theorem keeps_eq_of_planIn (h : job.planIn read before = some plan) {tree : FileTree}
    {location : FileTree.Location} {v w : FileTree.Write} (hv : v ∈ job.writesOf plan)
    (hw : w ∈ job.writesOf plan) (hl : tree.locate? v.path = some location)
    (hl' : tree.locate? w.path = some location) : v.keeps = w.keeps :=
  keeps_eq_of_locate?_eq (fun _ hx => named_of_planIn h hx) hv hw hl hl'

/-- The plan depends on the text of the SVD file only. -/
theorem planIn_of_read?_eq (h : job.planIn read before = some plan)
    (same : ∀ text, before.read? job.document = some text →
      after.read? job.document = some text) : job.planIn read after = some plan := by
  obtain ⟨text, warnings, htext, hplan⟩ := planIn_eq_some_iff.1 h
  exact planIn_eq_some_iff.2 ⟨text, warnings, same text htext, hplan⟩

/-- Running a job again changes nothing if the first run did not write the SVD file, whether it
succeeded or not. -/
theorem runWith_again (h : (job.runWith read : StateM FileTree Report) before = (report, after))
    (apart : ∀ w ∈ job.written read before,
      after.locate? w.path ≠ after.locate? job.document) :
    ((job.runWith read : StateM FileTree Report) after).2 = after := by
  have effect := (congrArg Prod.snd h).symm.trans (runWith_snd job before)
  cases hplan : job.planIn read before with
  | none =>
    rw [hplan] at effect
    obtain rfl : after = before := effect
    rw [runWith_snd, hplan]
  | some plan =>
    rw [hplan] at effect
    rw [written, hplan] at apart
    dsimp only at effect apart
    have text {text : String} (ht : before.read? job.document = some text) :
        (job.prepare plan before).2.read? job.document = some text :=
      FileTree.read?_createDirectories ht
    rcases hprepared : job.prepare plan before with ⟨_ | _, prepared⟩
    · -- a directory could not be created, and cannot be created now
      rw [hprepared] at effect text
      obtain rfl : after = prepared := effect
      have same : job.prepare plan after = (false, after) :=
        FileTree.createDirectories_again hprepared (FileTree.Extends.refl after).keeps fun _ => rfl
      rw [runWith_snd, planIn_of_read?_eq hplan fun _ ht => text ht]
      simp only [same, Bool.false_eq_true, if_false]
    · rw [hprepared] at effect text apart
      obtain rfl : after = FileTree.performUntil (job.writesOf plan) prepared := effect
      have directories := FileTree.sameDirectories_performUntil (job.writesOf plan) prepared
      have same : job.prepare plan (FileTree.performUntil (job.writesOf plan) prepared) =
          (true, FileTree.performUntil (job.writesOf plan) prepared) :=
        FileTree.createDirectories_again hprepared directories.keeps nofun
      have alike : ∀ location, ∀ v ∈ job.writesOf plan, ∀ w ∈ job.writesOf plan,
          prepared.locate? v.path = some location → prepared.locate? w.path = some location →
            v.keeps = w.keeps :=
        fun location v hv w hw hl hl' => keeps_eq_of_planIn hplan hv hw hl hl'
      simp only [directories.locate?, if_true] at apart
      rw [runWith_snd, planIn_of_read?_eq hplan fun _ ht =>
        FileTree.read?_performUntil_of_unwritten (text ht) apart]
      simp only [same, if_true, FileTree.performUntil_again alike]

/-- Of two timers the second is not written, as there is no directory for its file. The first timer
stays, and a second run leaves the files as they are. -/
theorem timers_stopped_again : ∃ report after,
    (timersJob.runWith (readTimers "TIM_A" "X/TIM") : StateM FileTree Report) timersTree =
      (report, after) ∧
    report.outcome = .error (.notWritten "out/Chip/x/timregisters.hpp") ∧
    (timersJob.written (readTimers "TIM_A" "X/TIM") timersTree).map (·.path) =
      ["out/Chip/timaregisters.hpp", "out/Chip/BitsField/timabitsfield.hpp"] ∧
    ((timersJob.runWith (readTimers "TIM_A" "X/TIM") : StateM FileTree Report) after).2 = after := by
  refine ⟨_, _, (Prod.eta _).symm, ?_, ?_, ?_⟩
  · decide +kernel
  · decide +kernel
  · exact runWith_again (Prod.eta _).symm (by decide +kernel)

end RegisterHeaders.Job
