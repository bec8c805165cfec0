import RegisterHeaders.Proofs.Job.FileNames

/-!
# The headers that a run leaves on disk

A run writes the two headers of one peripheral after the other. Registers headers replace what there
is, enumerations headers keep it unless the options say to overwrite them, and a peripheral of the
same stem was written to the same files. So a run that succeeds may leave a peripheral without its
headers. `run_onDisk_iff` says when it leaves the headers of all of them, for any reader of
documents: no two headers that share a file differ, and what stood at the path of an enumerations
header that is kept is that header.
-/

namespace RegisterHeaders.Job

open Steps

variable {overwrite : Bool} {directory : String} {tree after : FileTree}

/-! ## Writing headers -/

/-- The write of the registers header of a peripheral. -/
def registersWrite (directory : String) (headers : Header.Headers) : FileTree.Write :=
  ⟨registersPath directory headers, headers.registers, false⟩

/-- The write of the enumerations header of a peripheral. -/
def enumerationsWrite (overwrite : Bool) (directory : String) (headers : Header.Headers) :
    FileTree.Write :=
  ⟨enumerationsPath directory headers, headers.enumerations, !overwrite⟩

/-- The writes of the headers of peripherals, one after the other. -/
def writes (overwrite : Bool) (directory : String) (all : List Header.Headers) :
    List FileTree.Write :=
  all.flatMap fun headers =>
    [registersWrite directory headers, enumerationsWrite overwrite directory headers]

theorem mem_writes_iff {all : List Header.Headers} {w : FileTree.Write} :
    w ∈ writes overwrite directory all ↔ ∃ x ∈ all,
      w = registersWrite directory x ∨ w = enumerationsWrite overwrite directory x := by
  simp [writes]

/-- The headers of a peripheral are written by the two writes. Its turn comes when the registers
header has been written; the enumerations header is kept if it exists then. -/
theorem writeHeaders_eq (overwrite : Bool) (directory : String) (headers : Header.Headers)
    (tree : FileTree) :
    (writeHeaders overwrite directory headers : StateM FileTree (Except Failure Output)) tree =
      match (registersWrite directory headers).perform tree with
      | none => (.error (.notWritten (registersPath directory headers)), tree)
      | some turn =>
        match (enumerationsWrite overwrite directory headers).perform turn with
        | none => (.error (.notWritten (enumerationsPath directory headers)), turn)
        | some after =>
          (.ok ⟨registersPath directory headers, enumerationsPath directory headers,
            !overwrite && turn.contains (enumerationsPath directory headers)⟩, after) := by
  refine (FileTree.writeFile_bind_eq (registersWrite directory headers) nofun _).trans ?_
  rcases (registersWrite directory headers).perform tree with _ | turn
  · rfl
  · dsimp only
    cases overwrite with
    | true =>
      simp only [if_true, pure_bind, Bool.false_eq_true, if_false]
      refine (FileTree.writeFile_bind_eq (enumerationsWrite true directory headers) nofun _).trans ?_
      rcases (enumerationsWrite true directory headers).perform turn with _ | after <;> rfl
    | false =>
      -- without overwriting, the header is written only if its path leads to nothing
      refine (FileTree.pathExists_bind_eq (enumerationsPath directory headers) _).trans ?_
      rcases existing : turn.contains (enumerationsPath directory headers) with _ | _
      · refine (FileTree.writeFile_bind_eq (enumerationsWrite false directory headers)
          (fun _ => existing) _).trans ?_
        rcases (enumerationsWrite false directory headers).perform turn with _ | after <;> rfl
      · rw [FileTree.Write.perform_of_kept (enumerationsWrite false directory headers) rfl existing]
        rfl

theorem performAll_of_writeHeaders {headers : Header.Headers} {output : Output}
    (h : (writeHeaders overwrite directory headers : StateM FileTree _) tree =
      (.ok output, after)) :
    FileTree.performAll
      [registersWrite directory headers, enumerationsWrite overwrite directory headers] tree =
        some after := by
  rw [writeHeaders_eq] at h
  split at h
  · cases h
  · next turn registers =>
    split at h
    · cases h
    · next last enumerations =>
      cases h
      rw [FileTree.performAll, registers, Option.bind_some, FileTree.performAll, enumerations]
      rfl

theorem performAll_of_writeAll {all : List Header.Headers} {outputs : List Output}
    (h : (writeAll overwrite directory all : StateM FileTree _) tree = (.ok outputs, after)) :
    FileTree.performAll (writes overwrite directory all) tree = some after := by
  induction all generalizing tree outputs with
  | nil =>
    cases h
    rfl
  | cons headers rest ih =>
    obtain ⟨_ | output, middle, hw, h⟩ := run_bind_eq_iff.1 h
    · cases h
    · obtain ⟨_ | others, last, ho, h⟩ := run_bind_eq_iff.1 h
      · cases h
      · cases h
        rw [writes, List.flatMap_cons, FileTree.performAll_append, performAll_of_writeHeaders hw]
        exact ih ho

/-- The tree when the directories of a device have been created. -/
def withDirectories (tree : FileTree) (directory : String) : FileTree :=
  (tree.createDirectories (Path.join directory enumerationsDirectory)).2

theorem writeAll_of_carryOut {job : Job} {plan : Plan} {summary : Summary}
    (h : (job.carryOut plan : StateM FileTree _) tree = (.ok summary, after)) :
    (writeAll job.options.overwriteEnumerations summary.directory plan.headers : StateM FileTree _)
      (withDirectories tree summary.directory) = (.ok summary.outputs, after) := by
  obtain ⟨_ | _, created, hc, h⟩ := run_bind_eq_iff.1 h
  · cases h
  · obtain ⟨_ | outputs, last, hw, h⟩ := run_bind_eq_iff.1 h
    · cases h
    · cases h
      have directories : created = withDirectories tree
          (Path.join job.output (Identifier.camelCase plan.device)) :=
        (congrArg Prod.snd hc).symm
      rwa [directories] at hw

/-! ## Runs with any reader -/

section Reader

variable {read : String → Except Svd.ReadError Svd.Document}

/-- The plan of a job whose SVD file is read by `read`, and the warnings given on the way. -/
def planWith (read : String → Except Svd.ReadError Svd.Document) (job : Job) (text : String) :
    List Warning × Except Failure Plan :=
  match read text with
  | .error cause => ([], .error (.ofRead job.document cause))
  | .ok document =>
    match document.describe with
    | .error cause => ([], .error (.overflow cause))
    | .ok described => job.planFor described

theorem planWith_read (job : Job) (text : String) :
    job.planWith Svd.Document.read text = job.plan text := by
  unfold planWith plan
  generalize Svd.Document.read text = result
  rcases result with _ | document
  · rfl
  · rcases document.describe with _ | described <;> rfl

/-- Runs a job whose SVD file is read by `read`. -/
def runWith {m : Type → Type} [Monad m] [FileSystem m]
    (read : String → Except Svd.ReadError Svd.Document) (job : Job) : m Report := do
  match ← FileSystem.readFile? job.document with
  | none => return ⟨[], .error (.unreadable job.document)⟩
  | some text =>
    match job.planWith read text with
    | (warnings, .error failure) => return ⟨warnings, .error failure⟩
    | (warnings, .ok plan) => return ⟨warnings, ← carryOut job plan⟩

theorem runWith_read {m : Type → Type} [Monad m] [FileSystem m] (job : Job) :
    (job.runWith Svd.Document.read : m Report) = job.run := by
  unfold runWith run
  apply congrArg (FileSystem.readFile? job.document >>= ·)
  funext found
  rcases found with _ | text
  · rfl
  · have same := planWith_read job text
    rcases hplan : job.plan text with ⟨warnings, _ | plan⟩ <;> simp only [same, hplan]

/-- The plan of a job for the SVD file in a tree, and the warnings given on the way. -/
def planned (read : String → Except Svd.ReadError Svd.Document) (job : Job) (tree : FileTree) :
    List Warning × Except Failure Plan :=
  match tree.read? job.document with
  | none => ([], .error (.unreadable job.document))
  | some text => job.planWith read text

theorem planned_eq_ok_iff {job : Job} {warnings : List Warning} {plan : Plan} :
    job.planned read tree = (warnings, .ok plan) ↔
      ∃ text, tree.read? job.document = some text ∧ job.planWith read text = (warnings, .ok plan) := by
  unfold planned
  cases tree.read? job.document <;> simp

/-- A run has a plan, which it carries out, or leaves the tree as it is. -/
theorem runWith_eq (job : Job) (tree : FileTree) :
    (job.runWith read : StateM FileTree Report) tree =
      match job.planned read tree with
      | (warnings, .error failure) => (⟨warnings, .error failure⟩, tree)
      | (warnings, .ok plan) =>
        let done := (job.carryOut plan : StateM FileTree (Except Failure Summary)) tree
        (⟨warnings, done.1⟩, done.2) := by
  rw [runWith, planned, FileTree.readFile?_bind_eq]
  rcases tree.read? job.document with _ | text
  · rfl
  · dsimp only
    rcases job.planWith read text with ⟨warnings, failure | plan⟩
    · rfl
    · dsimp only
      rw [run_bind, run_pure]

theorem runWith_cases {job : Job} {warnings : List Warning} {outcome : Except Failure Summary}
    (h : (job.runWith read : StateM FileTree Report) tree = (⟨warnings, outcome⟩, after)) :
    (∃ failure, job.planned read tree = (warnings, .error failure) ∧ outcome = .error failure ∧
      after = tree) ∨
    ∃ plan, job.planned read tree = (warnings, .ok plan) ∧
      (job.carryOut plan : StateM FileTree (Except Failure Summary)) tree = (outcome, after) := by
  rw [runWith_eq] at h
  rcases hplan : job.planned read tree with ⟨warnings', failure | plan⟩
  · rw [hplan] at h
    cases h
    exact Or.inl ⟨failure, rfl, rfl, rfl⟩
  · rw [hplan] at h
    rcases hcarry : (job.carryOut plan : StateM FileTree (Except Failure Summary)) tree with
      ⟨done, last⟩
    simp only [hcarry] at h
    cases h
    exact Or.inr ⟨plan, rfl, hcarry⟩

/-- The SVD file describes `device`, and `generated` is what is generated for its peripherals. -/
def Generates (read : String → Except Svd.ReadError Svd.Document) (job : Job) (tree : FileTree)
    (device : Device) (generated : Generated) : Prop :=
  ∃ text document described, tree.read? job.document = some text ∧ read text = .ok document ∧
    document.describe = .ok described ∧ Derivation.resolve described.device = .ok device ∧
    generate device job.options job.filter = .ok generated

/-- What is generated depends on the SVD file only. -/
theorem Generates.unique {job : Job} {device device' : Device} {generated generated' : Generated}
    (h : job.Generates read tree device generated)
    (h' : job.Generates read tree device' generated') : generated = generated' := by
  obtain ⟨text, document, described, ht, hr, hd, hres, hg⟩ := h
  obtain ⟨text', document', described', ht', hr', hd', hres', hg'⟩ := h'
  obtain rfl := Option.some.inj (ht.symm.trans ht')
  obtain rfl := Except.ok.inj (hr.symm.trans hr')
  obtain rfl := Except.ok.inj (hd.symm.trans hd')
  obtain rfl := Except.ok.inj (hres.symm.trans hres')
  exact Except.ok.inj (hg.symm.trans hg')

theorem exists_of_planFor {job : Job} {described : Svd.Described} {warnings : List Warning}
    {plan : Plan} (h : job.planFor described = (warnings, .ok plan)) :
    ∃ device generated, Derivation.resolve described.device = .ok device ∧
      generate device job.options job.filter = .ok generated ∧
      plan.headers = generated.headers := by
  simp only [planFor] at h
  split at h
  · cases h
  · next device hdevice =>
    split at h
    · cases h
    · next generated hgenerated =>
      refine ⟨device, generated, hdevice, hgenerated, ?_⟩
      split at h
      · cases h
      · cases h
        rfl

theorem exists_generates_of_planWith {job : Job} {text : String} {warnings : List Warning}
    {plan : Plan} (hread : tree.read? job.document = some text)
    (h : job.planWith read text = (warnings, .ok plan)) :
    ∃ device generated, job.Generates read tree device generated ∧
      plan.headers = generated.headers := by
  simp only [planWith] at h
  split at h
  · cases h
  · next document hdocument =>
    split at h
    · cases h
    · next described hdescribed =>
      obtain ⟨device, generated, hdevice, hgenerated, headers⟩ := exists_of_planFor h
      exact ⟨device, generated,
        ⟨text, document, described, hread, hdocument, hdescribed, hdevice, hgenerated⟩, headers⟩

/-- A run that succeeds writes all headers. -/
theorem exists_writeAll_of_runWith {job : Job} {warnings : List Warning} {summary : Summary}
    (h : (job.runWith read : StateM FileTree Report) tree = (⟨warnings, .ok summary⟩, after)) :
    ∃ device generated, job.Generates read tree device generated ∧
      (writeAll job.options.overwriteEnumerations summary.directory generated.headers :
        StateM FileTree _) (withDirectories tree summary.directory) =
          (.ok summary.outputs, after) := by
  obtain ⟨failure, -, houtcome, -⟩ | ⟨plan, hplan, hcarry⟩ := runWith_cases h
  · cases houtcome
  · obtain ⟨text, hread, hplan⟩ := planned_eq_ok_iff.1 hplan
    obtain ⟨device, generated, hg, headers⟩ := exists_generates_of_planWith hread hplan
    refine ⟨device, generated, hg, ?_⟩
    rw [← headers]
    exact writeAll_of_carryOut hcarry

theorem exists_generates_of_runWith {job : Job} {warnings : List Warning} {summary : Summary}
    (h : (job.runWith read : StateM FileTree Report) tree = (⟨warnings, .ok summary⟩, after)) :
    ∃ device generated, job.Generates read tree device generated ∧
      FileTree.performAll
        (writes job.options.overwriteEnumerations summary.directory generated.headers)
        (withDirectories tree summary.directory) = some after := by
  obtain ⟨device, generated, generates, written⟩ := exists_writeAll_of_runWith h
  exact ⟨device, generated, generates, performAll_of_writeAll written⟩

/-- Whether a run succeeds and what is generated and the directory of the device have a property. -/
def runs? (read : String → Except Svd.ReadError Svd.Document) (job : Job) (tree : FileTree)
    (P : Generated → String → Bool) : Bool :=
  match (job.runWith read : StateM FileTree Report) tree with
  | (⟨_, .ok summary⟩, _) => (tree.read? job.document).any fun text =>
    (read text).toOption.any fun document => document.describe.toOption.any fun described =>
      (Derivation.resolve described.device).toOption.any fun device =>
        (generate device job.options job.filter).toOption.any fun generated =>
          P generated summary.directory
  | _ => false

theorem exists_of_runs? {job : Job} {P : Generated → String → Bool}
    (h : runs? read job tree P = true) : ∃ warnings summary after device generated,
      (job.runWith read : StateM FileTree Report) tree = (⟨warnings, .ok summary⟩, after) ∧
      job.Generates read tree device generated ∧ P generated summary.directory = true := by
  rw [runs?] at h
  split at h
  · next warnings summary after hrun =>
    obtain ⟨text, ht, h⟩ := (Option.any_eq_true _ _).1 h
    obtain ⟨document, hd, h⟩ := any_toOption_iff.1 h
    obtain ⟨described, hdescribed, h⟩ := any_toOption_iff.1 h
    obtain ⟨device, hdevice, h⟩ := any_toOption_iff.1 h
    obtain ⟨generated, hg, h⟩ := any_toOption_iff.1 h
    exact ⟨warnings, summary, after, device, generated, hrun,
      ⟨text, document, described, ht, hd, hdescribed, hdevice, hg⟩, h⟩
  · cases h

end Reader

/-! ## Headers on disk -/

/-- The two files of the headers hold their texts. -/
def OnDisk (directory : String) (tree : FileTree) (headers : Header.Headers) : Prop :=
  tree.read? (registersPath directory headers) = some headers.registers ∧
    tree.read? (enumerationsPath directory headers) = some headers.enumerations

/-- Headers of two peripherals are the same where their files are. -/
def Agree (directory : String) (tree : FileTree) (x y : Header.Headers) : Prop :=
  (tree.locate? (registersPath directory x) = tree.locate? (registersPath directory y) →
    x.registers = y.registers) ∧
  (tree.locate? (enumerationsPath directory x) = tree.locate? (enumerationsPath directory y) →
    x.enumerations = y.enumerations)

/-- What there is at the path of the enumerations header, if anything, is that header. -/
def Unobstructed (directory : String) (tree : FileTree) (headers : Header.Headers) : Prop :=
  tree.contains (enumerationsPath directory headers) = true →
    tree.read? (enumerationsPath directory headers) = some headers.enumerations

section Writes

variable {all : List Header.Headers}

/-- A fact about all writes is one about the two writes of every peripheral. -/
theorem forall_mem_writes_iff {P : FileTree.Write → Prop} :
    (∀ w ∈ writes overwrite directory all, P w) ↔ ∀ x ∈ all,
      P (registersWrite directory x) ∧ P (enumerationsWrite overwrite directory x) := by
  constructor
  · intro h x hx
    exact ⟨h _ (mem_writes_iff.2 ⟨x, hx, Or.inl rfl⟩), h _ (mem_writes_iff.2 ⟨x, hx, Or.inr rfl⟩)⟩
  · intro h w hw
    obtain ⟨x, hx, rfl | rfl⟩ := mem_writes_iff.1 hw
    · exact (h x hx).1
    · exact (h x hx).2

/-- Two writes to one place are for headers of the same kind. -/
theorem same_kind_of_locate?_eq (named : ∀ x ∈ all, x.Named) {v w : FileTree.Write}
    (hv : v ∈ writes overwrite directory all) (hw : w ∈ writes overwrite directory all)
    {location : FileTree.Location} (hl : tree.locate? v.path = some location)
    (hl' : tree.locate? w.path = some location) :
    ∃ x ∈ all, ∃ y ∈ all, (v = registersWrite directory x ∧ w = registersWrite directory y) ∨
      (v = enumerationsWrite overwrite directory x ∧ w = enumerationsWrite overwrite directory y) := by
  obtain ⟨x, hx, hv⟩ := mem_writes_iff.1 hv
  obtain ⟨y, hy, hw⟩ := mem_writes_iff.1 hw
  refine ⟨x, hx, y, hy, ?_⟩
  rcases hv with rfl | rfl <;> rcases hw with rfl | rfl
  · exact Or.inl ⟨rfl, rfl⟩
  · exact absurd hl' (locate?_enumerationsPath_ne (named x hx) (named y hy) hl)
  · exact absurd hl (locate?_enumerationsPath_ne (named y hy) (named x hx) hl')
  · exact Or.inr ⟨rfl, rfl⟩

/-- What one write replaces, no other keeps. -/
theorem keeps_eq_of_locate?_eq (named : ∀ x ∈ all, x.Named) {v w : FileTree.Write}
    (hv : v ∈ writes overwrite directory all) (hw : w ∈ writes overwrite directory all)
    {location : FileTree.Location} (hl : tree.locate? v.path = some location)
    (hl' : tree.locate? w.path = some location) : v.keeps = w.keeps := by
  obtain ⟨x, -, y, -, ⟨rfl, rfl⟩ | ⟨rfl, rfl⟩⟩ := same_kind_of_locate?_eq named hv hw hl hl'
  · rfl
  · rfl

/-- When the writes of all headers have been performed, all of them are on disk if and only if they
agree and nothing else was kept. -/
theorem onDisk_iff (named : ∀ x ∈ all, x.Named)
    (h : FileTree.performAll (writes overwrite directory all) tree = some after) :
    (∀ x ∈ all, OnDisk directory after x) ↔
      (∀ x ∈ all, ∀ y ∈ all, Agree directory after x y) ∧
      (overwrite = false → ∀ x ∈ all, Unobstructed directory tree x) := by
  have locate? := (FileTree.sameDirectories_of_performAll h).locate?
  have alike : ∀ v ∈ writes overwrite directory all, ∀ w ∈ writes overwrite directory all,
      tree.locate? v.path = tree.locate? w.path → v.keeps = w.keeps := by
    intro v hv w hw same
    obtain ⟨location, hl⟩ := FileTree.exists_locate?_of_performAll h hv
    exact keeps_eq_of_locate?_eq named hv hw hl (same.symm.trans hl)
  have found := FileTree.read?_performAll_iff h alike
  rw [forall_mem_writes_iff] at found
  apply found.trans
  apply and_congr
  · constructor
    · intro same x hx y hy
      have registers := (forall_mem_writes_iff.1 same x hx).1
      have enumerations := (forall_mem_writes_iff.1 same x hx).2
      rw [Agree, locate?, locate?, locate?, locate?]
      exact ⟨(forall_mem_writes_iff.1 registers y hy).1,
        (forall_mem_writes_iff.1 enumerations y hy).2⟩
    · intro agree v hv w hw same
      obtain ⟨location, hl⟩ := FileTree.exists_locate?_of_performAll h hv
      obtain ⟨x, hx, y, hy, ⟨rfl, rfl⟩ | ⟨rfl, rfl⟩⟩ :=
        same_kind_of_locate?_eq named hv hw hl (same.symm.trans hl)
      · rw [← locate?, ← locate?] at same
        exact (agree x hx y hy).1 same
      · rw [← locate?, ← locate?] at same
        exact (agree x hx y hy).2 same
  · rw [forall_mem_writes_iff]
    constructor
    · intro existing keeping x hx
      have kept := (existing x hx).2
      rw [keeping] at kept
      exact kept rfl
    · intro unobstructed x hx
      constructor
      · intro keeps
        cases keeps
      · intro keeps
        exact unobstructed (by simpa [enumerationsWrite] using keeps) x hx

end Writes

/-- A name without slashes and white space. -/
def IsPlain (name : String) : Prop :=
  '/' ∉ name.toList ∧ Text.IsSolid name

instance : DecidablePred IsPlain :=
  fun _ => inferInstanceAs (Decidable (_ ∧ _))

theorem Generates.renders {read : String → Except Svd.ReadError Svd.Document} {job : Job}
    {device : Device} {generated : Generated} (h : job.Generates read tree device generated)
    {x : Header.Headers} (hx : x ∈ generated.headers) :
    ∃ e : Header.Emission, e.Renders job.options device.name x := by
  obtain ⟨-, -, -, -, -, -, -, hg⟩ := h
  exact Header.exists_renders_of_mem hg hx

theorem Generates.peripherals {read : String → Except Svd.ReadError Svd.Document} {job : Job}
    {device : Device} {generated : Generated} (h : job.Generates read tree device generated) :
    generated.headers.map (·.peripheral) = (device.selected job.filter).map (·.name) := by
  obtain ⟨-, -, -, -, -, -, -, hg⟩ := h
  exact Header.peripherals_of_generate hg

theorem Generates.named {read : String → Except Svd.ReadError Svd.Document} {job : Job}
    {device : Device} {generated : Generated} (h : job.Generates read tree device generated)
    {x : Header.Headers} (hx : x ∈ generated.headers) : x.Named := by
  obtain ⟨e, he⟩ := h.renders hx
  exact he.named

/-- Peripherals with different plain names agree if and only if the stems of the names differ. -/
theorem Generates.agree_iff {read : String → Except Svd.ReadError Svd.Document} {job : Job}
    {device : Device} {generated : Generated} {before : FileTree}
    (h : job.Generates read before device generated)
    (performed : FileTree.performAll (writes overwrite directory generated.headers) tree =
      some after)
    {x y : Header.Headers} (hx : x ∈ generated.headers) (hy : y ∈ generated.headers)
    (plain : IsPlain x.peripheral) (plain' : IsPlain y.peripheral)
    (different : x.peripheral ≠ y.peripheral) :
    Agree directory after x y ↔
      Identifier.fileStem x.peripheral ≠ Identifier.fileStem y.peripheral := by
  have located : ∀ w ∈ writes overwrite directory generated.headers,
      ∃ location, after.locate? w.path = some location := by
    intro w hw
    rw [(FileTree.sameDirectories_of_performAll performed).locate?]
    exact FileTree.exists_locate?_of_performAll performed hw
  have hx' := forall_mem_writes_iff.1 located x hx
  have hy' := forall_mem_writes_iff.1 located y hy
  rw [Agree,
    locate?_registersPath_eq_iff (h.named hx) (h.named hy) plain.1 plain'.1 hx'.1 hy'.1,
    locate?_enumerationsPath_eq_iff (h.named hx) (h.named hy) plain.1 plain'.1 hx'.2 hy'.2]
  constructor
  · intro agree stem
    obtain ⟨e, he⟩ := h.renders hx
    obtain ⟨e', he'⟩ := h.renders hy
    exact different (Header.peripheral_eq_of_enumerations_eq he he' stem plain.2 plain'.2
      (agree.2 stem))
  · intro stems
    exact ⟨fun stem => absurd stem stems, fun stem => absurd stem stems⟩

/-- A run that succeeds leaves the headers of all peripherals on disk if and only if headers agree
where their files are the same, and without overwriting nothing else stood at the path of an
enumerations header when the directories were created. Peripherals with different plain names agree
if and only if the stems of the names differ. -/
theorem run_onDisk_iff {read : String → Except Svd.ReadError Svd.Document} {job : Job}
    {before after : FileTree} {warnings : List Warning} {summary : Summary}
    (h : (job.runWith read : StateM FileTree Report) before =
      (⟨warnings, .ok summary⟩, after)) :
    ∃ device generated, job.Generates read before device generated ∧
      ((∀ x ∈ generated.headers, OnDisk summary.directory after x) ↔
        (∀ x ∈ generated.headers, ∀ y ∈ generated.headers,
          Agree summary.directory after x y) ∧
        (job.options.overwriteEnumerations = false → ∀ x ∈ generated.headers,
          Unobstructed summary.directory (withDirectories before summary.directory) x)) ∧
      ∀ x ∈ generated.headers, ∀ y ∈ generated.headers,
        IsPlain x.peripheral → IsPlain y.peripheral → x.peripheral ≠ y.peripheral →
          (Agree summary.directory after x y ↔
            Identifier.fileStem x.peripheral ≠ Identifier.fileStem y.peripheral) := by
  obtain ⟨device, generated, generates, performed⟩ := exists_generates_of_runWith h
  refine ⟨device, generated, generates, ?_, ?_⟩
  · exact onDisk_iff (fun x hx => generates.named hx) performed
  · intro x hx y hy plain plain' different
    exact generates.agree_iff performed hx hy plain plain' different

/-- A timer with one register that has one field. -/
def timer (name : String) (baseAddress : UInt64) (register field : String) : Svd.Peripheral where
  name
  array := none
  derivedFrom := none
  baseAddress
  size := none
  access := none
  description := none
  registers := some [
    .register {
      name := register, array := none, derivedFrom := none, addressOffset := 0, size := none
      access := none, description := none
      fields := some [
        { name := field, array := none, derivedFrom := none, access := none, bitOffset := 0
          bitWidth := 1, description := none, blocks := [] }] }]

/-- A device with two timers of the given names. -/
def timersDocument (first second : String) : Svd.Document where
  name := "Chip"
  description := none
  size := none
  access := none
  peripherals := [timer first 0 "CR" "EN", timer second 4096 "SR" "BUSY"]

/-- A job for the device in the file `chip.svd`. -/
def timersJob : Job :=
  ⟨"chip.svd", "out", {}, none⟩

/-- There is nothing but an SVD file. The working directory is the root. -/
def timersTree : FileTree :=
  ⟨[(["chip.svd"], .file "")], by simp, []⟩

/-- The reader that takes every file for the document with two timers. -/
def readTimers (first second : String) (_ : String) : Except Svd.ReadError Svd.Document :=
  .ok (timersDocument first second)

/-- Timers of different stems have their headers on disk. -/
theorem timers_two_stems_onDisk : ∃ warnings summary after device generated,
    (timersJob.runWith (readTimers "TIM_A" "TIM_B") : StateM FileTree Report) timersTree =
      (⟨warnings, .ok summary⟩, after) ∧
    timersJob.Generates (readTimers "TIM_A" "TIM_B") timersTree device generated ∧
    generated.headers.map (·.peripheral) = ["TIM_A", "TIM_B"] ∧
    ∀ x ∈ generated.headers, OnDisk summary.directory after x := by
  have computed : runs? (readTimers "TIM_A" "TIM_B") timersJob timersTree
      (fun generated directory => generated.headers.map (·.peripheral) = ["TIM_A", "TIM_B"] ∧
        ∀ x ∈ generated.headers,
          (withDirectories timersTree directory).contains (enumerationsPath directory x) = false) =
      true := by
    decide +kernel
  obtain ⟨warnings, summary, after, device, generated, hrun, generates, computed⟩ :=
    exists_of_runs? computed
  obtain ⟨names, missing⟩ := of_decide_eq_true computed
  refine ⟨warnings, summary, after, device, generated, hrun, generates, names, ?_⟩
  obtain ⟨device', generated', generates', onDisk, agree⟩ := run_onDisk_iff hrun
  obtain rfl := generates.unique generates'
  have plain : ∀ name ∈ ["TIM_A", "TIM_B"], IsPlain name := by decide +kernel
  have stems : ∀ a ∈ ["TIM_A", "TIM_B"], ∀ b ∈ ["TIM_A", "TIM_B"], a ≠ b →
      Identifier.fileStem a ≠ Identifier.fileStem b := by decide +kernel
  have distinct : (generated.headers.map (·.peripheral)).Nodup := by
    rw [names]
    decide
  rw [← names] at plain stems
  apply onDisk.2
  constructor
  · intro x hx y hy
    by_cases same : x.peripheral = y.peripheral
    · obtain rfl := List.inj_on_of_nodup_map distinct hx hy same
      exact ⟨fun _ => rfl, fun _ => rfl⟩
    · have hx' := List.mem_map_of_mem (f := (·.peripheral)) hx
      have hy' := List.mem_map_of_mem (f := (·.peripheral)) hy
      exact (agree x hx y hy (plain _ hx') (plain _ hy') same).2 (stems _ hx' _ hy' same)
  · intro _ x hx present
    rw [missing x hx] at present
    cases present

/-- Timers of one stem do not, although their names differ and there was no header before. -/
theorem timers_one_stem_not_onDisk : ∃ warnings summary after device generated,
    (timersJob.runWith (readTimers "TIM_A" "TIMA") : StateM FileTree Report) timersTree =
      (⟨warnings, .ok summary⟩, after) ∧
    timersJob.Generates (readTimers "TIM_A" "TIMA") timersTree device generated ∧
    generated.headers.map (·.peripheral) = ["TIM_A", "TIMA"] ∧
    (∀ location text, timersTree.get? location = some (.file text) → location = ["chip.svd"]) ∧
    ¬ ∀ x ∈ generated.headers, OnDisk summary.directory after x := by
  have computed : runs? (readTimers "TIM_A" "TIMA") timersJob timersTree (fun generated _ =>
      generated.headers.map (·.peripheral) = ["TIM_A", "TIMA"]) = true := by
    decide +kernel
  obtain ⟨warnings, summary, after, device, generated, hrun, generates, computed⟩ :=
    exists_of_runs? computed
  have names := of_decide_eq_true computed
  refine ⟨warnings, summary, after, device, generated, hrun, generates, names, ?_, ?_⟩
  · intro location text hfile
    rw [FileTree.get?] at hfile
    split at hfile
    · cases hfile
    · simp only [timersTree, List.lookup_cons, List.lookup_nil] at hfile
      split at hfile
      · simp_all
      · cases hfile
  · intro onDisk
    obtain ⟨device', generated', generates', performed⟩ := exists_generates_of_runWith hrun
    obtain rfl := generates.unique generates'
    have agree := ((onDisk_iff (fun x hx => generates.named hx) performed).1 onDisk).1
    obtain ⟨x, hx, hxname⟩ : ∃ x ∈ generated.headers, x.peripheral = "TIM_A" :=
      List.mem_map.1 (by rw [names]; decide)
    obtain ⟨y, hy, hyname⟩ : ∃ y ∈ generated.headers, y.peripheral = "TIMA" :=
      List.mem_map.1 (by rw [names]; decide)
    have stems := generates.agree_iff performed hx hy (by rw [hxname]; decide +kernel)
      (by rw [hyname]; decide +kernel) (by rw [hxname, hyname]; decide)
    rw [hxname, hyname] at stems
    exact stems.1 (agree x hx y hy) (by decide +kernel)

end RegisterHeaders.Job
