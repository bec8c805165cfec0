import RegisterHeaders.Proofs.FileTree.Interruption
import RegisterHeaders.Proofs.Job.OnDisk

/-!
# What a run does to the files

A run whose job has no plan leaves the files as they are. Otherwise it creates the directories of
the device and, if it could, performs the writes of the headers until one fails. So the files after
a run are known whether it succeeds or not (`runWith_snd`).
-/

namespace RegisterHeaders.Job

open Steps

variable {read : String → Except Svd.ReadError Svd.Document} {job : Job} {plan : Plan}
  {tree after : FileTree}

/-! ## Carrying out a plan -/

theorem writeAll_snd (overwrite : Bool) (directory : String) (all : List Header.Headers)
    (tree : FileTree) :
    ((writeAll overwrite directory all : StateM FileTree (Except Failure (List Output))) tree).2 =
      FileTree.performUntil (writes overwrite directory all) tree := by
  induction all generalizing tree with
  | nil => rfl
  | cons headers rest ih =>
    rw [writes, List.flatMap_cons, ← writes, List.cons_append, List.singleton_append,
      FileTree.performUntil, writeAll, run_bind, writeHeaders_eq]
    rcases (registersWrite directory headers).perform tree with _ | turn
    · rfl
    · dsimp only
      rw [FileTree.performUntil]
      rcases (enumerationsWrite overwrite directory headers).perform turn with _ | last
      · rfl
      · exact ih last

/-- The directory of the headers of a plan. -/
def directoryOf (job : Job) (plan : Plan) : String :=
  Path.join job.output (Identifier.camelCase plan.device)

/-- The writes of the headers of a plan. -/
def writesOf (job : Job) (plan : Plan) : List FileTree.Write :=
  writes job.options.overwriteEnumerations (job.directoryOf plan) plan.headers

/-- Creates the directories of a plan, and tells whether all could be created. -/
def prepare (job : Job) (plan : Plan) (tree : FileTree) : Bool × FileTree :=
  tree.createDirectories (Path.join (job.directoryOf plan) enumerationsDirectory)

theorem carryOut_snd (job : Job) (plan : Plan) (tree : FileTree) :
    ((job.carryOut plan : StateM FileTree (Except Failure Summary)) tree).2 =
      if (job.prepare plan tree).1 then
        FileTree.performUntil (job.writesOf plan) (job.prepare plan tree).2
      else (job.prepare plan tree).2 := by
  refine (congrArg Prod.snd (FileTree.createDirectories_bind_eq _ _)).trans ?_
  have prepared : tree.createDirectories (Path.join (Path.join job.output
      (Identifier.camelCase plan.device)) enumerationsDirectory) = job.prepare plan tree := rfl
  rw [prepared]
  rcases job.prepare plan tree with ⟨_ | _, created⟩
  · rfl
  · dsimp only
    rw [if_pos rfl, if_pos rfl, run_bind, run_pure, writesOf, ← writeAll_snd]
    rfl

/-- The plan of a job for the SVD file in a tree. -/
def planIn (read : String → Except Svd.ReadError Svd.Document) (job : Job) (tree : FileTree) :
    Option Plan :=
  (tree.read? job.document).bind fun text => (job.planWith read text).2.toOption

theorem planIn_eq_toOption : job.planIn read tree = (job.planned read tree).2.toOption := by
  rw [planIn, planned]
  cases tree.read? job.document <;> rfl

theorem planIn_eq_some_iff :
    job.planIn read tree = some plan ↔ ∃ text warnings, tree.read? job.document = some text ∧
      job.planWith read text = (warnings, .ok plan) := by
  rw [planIn, Option.bind_eq_some_iff]
  refine exists_congr fun text => ?_
  rcases job.planWith read text with ⟨warnings, failure | plan⟩ <;> simp [Except.toOption]

theorem named_of_planIn (h : job.planIn read tree = some plan) {x : Header.Headers}
    (hx : x ∈ plan.headers) : x.Named := by
  obtain ⟨text, warnings, htext, hplan⟩ := planIn_eq_some_iff.1 h
  obtain ⟨device, generated, generates, headers⟩ := exists_generates_of_planWith htext hplan
  rw [headers] at hx
  exact generates.named hx

theorem runWith_snd (job : Job) (tree : FileTree) :
    ((job.runWith read : StateM FileTree Report) tree).2 =
      match job.planIn read tree with
      | none => tree
      | some plan =>
        if (job.prepare plan tree).1 then
          FileTree.performUntil (job.writesOf plan) (job.prepare plan tree).2
        else (job.prepare plan tree).2 := by
  rw [runWith_eq, planIn_eq_toOption]
  rcases job.planned read tree with ⟨warnings, failure | plan⟩
  · rfl
  · dsimp only [Except.toOption]
    rw [carryOut_snd]

end RegisterHeaders.Job
