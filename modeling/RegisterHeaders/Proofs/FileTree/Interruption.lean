import RegisterHeaders.Proofs.FileTree

/-!
# Writes that may be interrupted

Writes one after the other end at the first that fails, and what was written before it stays
(`performUntil`). Whether a write fails depends on the directories alone, which no write changes, so
the same writes end at the same one when they are performed again. If moreover no place is both kept
and replaced, the second time changes nothing (`performUntil_again`). Creating directories only adds
to a tree (`extends_createDirectories`), and creating them a second time changes nothing either
(`createDirectories_again`).
-/

namespace RegisterHeaders.FileTree

variable {tree after : FileTree} {location : Location} {writes : List Write} {w : Write}

/-- Performs writes one after the other until one fails. -/
def performUntil : List Write → FileTree → FileTree
  | [], tree => tree
  | w :: rest, tree =>
    match w.perform tree with
    | none => tree
    | some after => performUntil rest after

/-- The writes that put their texts into files, until one fails. -/
def written : List Write → FileTree → List Write
  | [], _ => []
  | w :: rest, tree =>
    match w.perform tree with
    | none => []
    | some after =>
      if w.keeps && tree.contains w.path then written rest after else w :: written rest after

/-! ## Where writes end -/

/-- Whether a write fails depends on the directories only. -/
theorem SameDirectories.isSome_perform (same : SameDirectories tree after) (w : Write) :
    (w.perform after).isSome = (w.perform tree).isSome := by
  -- a path that leads to a place can be written unless a directory is there, which is kept
  have feasible (tree : FileTree) : (w.perform tree).isSome = true ↔ ∃ location,
      tree.locate? w.path = some location ∧
        (w.keeps = false → tree.get? location ≠ some .directory) := by
    constructor
    · intro h
      obtain ⟨after, h⟩ := Option.isSome_iff_exists.1 h
      obtain ⟨location, hl, -, -⟩ := w.exists_of_perform h
      refine ⟨location, hl, fun replaces => ?_⟩
      rw [w.perform_of_replaced fun keeps => by rw [replaces] at keeps; cases keeps] at h
      obtain ⟨location', hl', hfile, -⟩ := write?_eq_some_iff.1 h
      obtain rfl := Option.some.inj (hl.symm.trans hl')
      exact hfile
    · rintro ⟨location, hl, hfile⟩
      by_cases kept : w.keeps = true ∧ tree.contains w.path = true
      · rw [w.perform_of_kept kept.1 kept.2]
        rfl
      · rw [w.perform_of_replaced fun keeps => by simpa [keeps] using kept]
        refine Option.isSome_iff_exists.2
          ⟨_, write?_eq_some_iff.2 ⟨location, hl, fun directory => ?_, rfl⟩⟩
        cases keeps : w.keeps with
        | false => exact hfile keeps directory
        | true => exact kept ⟨keeps, contains_iff.2 ⟨location, .directory, hl, directory⟩⟩
  rw [Bool.eq_iff_iff, feasible, feasible, same.locate?]
  simp only [Ne, same.directory_iff]

/-- The writes before the first that fails succeed one after the other. -/
theorem performAll_takeWhile (writes : List Write) (tree : FileTree) :
    performAll (writes.takeWhile fun w => (w.perform tree).isSome) tree =
      some (performUntil writes tree) := by
  induction writes generalizing tree with
  | nil => rfl
  | cons w rest ih =>
    rw [performUntil]
    cases hw : w.perform tree with
    | none =>
      rw [List.takeWhile_cons_of_neg (by simp [hw])]
      rfl
    | some middle =>
      obtain ⟨-, -, same, -⟩ := w.exists_of_perform hw
      rw [List.takeWhile_cons_of_pos (by simp [hw]), performAll, hw, Option.bind_some]
      simp only [← same.isSome_perform, ih middle]

theorem sameDirectories_performUntil (writes : List Write) (tree : FileTree) :
    SameDirectories tree (performUntil writes tree) :=
  sameDirectories_of_performAll (performAll_takeWhile writes tree)

/-! ## What stays -/

/-- Where nothing is written, everything stays. -/
theorem get?_performUntil_of_unwritten
    (h : ∀ w ∈ written writes tree, tree.locate? w.path ≠ some location) :
    (performUntil writes tree).get? location = tree.get? location := by
  induction writes generalizing tree with
  | nil => rfl
  | cons w rest ih =>
    rw [performUntil]
    rw [written] at h
    cases hw : w.perform tree with
    | none => rfl
    | some middle =>
      simp only [hw] at h
      obtain ⟨place, hp, same, hget⟩ := w.exists_of_perform hw
      have later : ∀ v ∈ written rest middle, middle.locate? v.path ≠ some location := by
        intro v hv
        rw [same.locate?]
        split at h
        · exact h v hv
        · exact h v (List.mem_cons_of_mem w hv)
      refine (ih later).trans ?_
      rw [hget, if_neg]
      rintro ⟨rfl, empty⟩
      split at h
      · next kept =>
        rw [Bool.and_eq_true] at kept
        obtain ⟨place', entry, hp', he⟩ := contains_iff.1 kept.2
        obtain rfl := Option.some.inj (hp.symm.trans hp')
        rw [empty kept.1] at he
        cases he
      · exact h w List.mem_cons_self hp

/-- A file that no write has the place of keeps its text. -/
theorem read?_performUntil_of_unwritten {path text : String} (h : tree.read? path = some text)
    (apart : ∀ w ∈ written writes tree, tree.locate? w.path ≠ tree.locate? path) :
    (performUntil writes tree).read? path = some text := by
  obtain ⟨location, hl, hf⟩ := read?_eq_some_iff.1 h
  rw [hl] at apart
  have same := sameDirectories_performUntil writes tree
  exact read?_eq_some_iff.2 ⟨location, (same.locate? _).trans hl,
    (get?_performUntil_of_unwritten apart).trans hf⟩

/-- What is at a place stays there if no write replaces it. -/
theorem get?_performUntil_of_keeping {entry : Entry} (he : tree.get? location = some entry)
    (keeping : ∀ w ∈ writes, tree.locate? w.path = some location → w.keeps = true) :
    (performUntil writes tree).get? location = some entry := by
  rw [get?_performAll_of_keeping (performAll_takeWhile writes tree), he, Option.some_or]
  intro w hw hl
  exact keeping w ((List.takeWhile_prefix _).subset hw) (Write.isAt_iff.1 hl)

/-! ## The same writes again -/

theorem Write.contains_of_perform (h : w.perform tree = some after) :
    after.contains w.path = true ∧
      ∀ path, tree.contains path = true → after.contains path = true := by
  obtain ⟨location, hl, same, hget⟩ := w.exists_of_perform h
  constructor
  · by_cases fresh : w.keeps = true → tree.get? location = none
    · exact contains_iff.2 ⟨location, .file w.text, (same.locate? _).trans hl,
        (hget location).trans (if_pos ⟨rfl, fresh⟩)⟩
    · obtain ⟨entry, he⟩ := Option.ne_none_iff_exists'.1 (Classical.not_imp.1 fresh).2
      refine contains_iff.2 ⟨location, entry, (same.locate? _).trans hl, ?_⟩
      rw [hget, if_neg fun replaced => fresh replaced.2, he]
  · intro path hc
    obtain ⟨place, entry, hp, he⟩ := contains_iff.1 hc
    rw [contains_iff]
    by_cases replaced : place = location ∧ (w.keeps = true → tree.get? place = none)
    · exact ⟨place, _, (same.locate? _).trans hp, (hget place).trans (if_pos replaced)⟩
    · exact ⟨place, entry, (same.locate? _).trans hp,
        ((hget place).trans (if_neg replaced)).trans he⟩

/-- After writes there is something at the path of each. -/
theorem contains_of_performAll (h : performAll writes tree = some after) :
    (∀ w ∈ writes, after.contains w.path = true) ∧
      ∀ path, tree.contains path = true → after.contains path = true := by
  induction writes generalizing tree with
  | nil =>
    obtain rfl := Option.some.inj h
    exact ⟨fun w hw => absurd hw List.not_mem_nil, fun path hc => hc⟩
  | cons w rest ih =>
    obtain ⟨middle, hw, h⟩ := Option.bind_eq_some_iff.1 h
    obtain ⟨own, kept⟩ := Write.contains_of_perform hw
    obtain ⟨others, later⟩ := ih h
    exact ⟨List.forall_mem_cons.2 ⟨later _ own, others⟩, fun path hc => later path (kept path hc)⟩

/-- The list of places stays as it is when all paths lead to something. -/
theorem places_of_performAll (h : performAll writes tree = some after)
    (occupied : ∀ w ∈ writes, tree.contains w.path = true) :
    after.entries.map Prod.fst = tree.entries.map Prod.fst ∧
      after.entries.lookup [] = tree.entries.lookup [] := by
  induction writes generalizing tree with
  | nil =>
    obtain rfl := Option.some.inj h
    exact ⟨rfl, rfl⟩
  | cons w rest ih =>
    obtain ⟨middle, hw, h⟩ := Option.bind_eq_some_iff.1 h
    obtain ⟨own, others⟩ := List.forall_mem_cons.1 occupied
    have later := ih h fun v hv => (Write.contains_of_perform hw).2 _ (others v hv)
    rw [Write.perform] at hw
    split at hw
    · obtain rfl := Option.some.inj hw
      exact later
    · obtain ⟨location, hl, hfile, rfl⟩ := write?_eq_some_iff.1 hw
      obtain ⟨location', entry, hl', he⟩ := contains_iff.1 own
      obtain rfl := Option.some.inj (hl.symm.trans hl')
      have root : location ≠ [] := by
        rintro rfl
        exact hfile (by rw [get?, if_pos rfl])
      rw [get?, if_neg root] at he
      have place : location ∈ tree.entries.map Prod.fst := by
        obtain ⟨before, rest, split, -⟩ := List.lookup_eq_some_iff.1 he
        rw [split]
        simp
      constructor
      · rw [later.1, insert, map_fst_insertEntry, if_pos place]
      · rw [later.2, insert, lookup_insertEntry, if_neg (Ne.symm root)]

theorem entries_eq_of_lookup {entries entries' : List (Location × Entry)}
    (places : entries'.map Prod.fst = entries.map Prod.fst)
    (distinct : (entries.map Prod.fst).Nodup)
    (h : ∀ location, entries'.lookup location = entries.lookup location) : entries' = entries := by
  induction entries generalizing entries' with
  | nil => exact List.map_eq_nil_iff.1 places
  | cons head rest ih =>
    obtain ⟨head', rest', rfl, first, others⟩ := List.map_eq_cons_iff.1 places
    obtain ⟨l, e⟩ := head
    obtain ⟨l', e'⟩ := head'
    obtain rfl : l' = l := first
    rw [List.map_cons, List.nodup_cons] at distinct
    obtain rfl : e' = e := by simpa using h l'
    refine congrArg _ (ih others distinct.2 fun location => ?_)
    by_cases same : location = l'
    · have absent {list : List (Location × Entry)} (hl : l' ∉ list.map Prod.fst) :
          list.lookup l' = none := by
        rw [List.lookup_eq_none_iff]
        intro p hp
        simpa using fun e => hl (List.mem_map.2 ⟨p, hp, e.symm⟩)
      rw [same, absent distinct.1, absent (others ▸ distinct.1)]
    · simpa [List.lookup_cons, beq_eq_false_iff_ne.2 same] using h location

/-- Trees with the same places in the same order are equal if the same is at every place. -/
theorem eq_of_get? (places : after.entries.map Prod.fst = tree.entries.map Prod.fst)
    (root : after.entries.lookup [] = tree.entries.lookup [])
    (working : after.workingDirectory = tree.workingDirectory)
    (h : ∀ location, after.get? location = tree.get? location) : after = tree := by
  have entries := entries_eq_of_lookup places tree.nodup fun location => by
    by_cases hl : location = []
    · rw [hl, root]
    · simpa [get?, hl] using h location
  cases after
  cases tree
  cases entries
  cases working
  rfl

/-- If no place is both kept and replaced, the same writes change nothing when they are performed
again, whether one fails or not. -/
theorem performUntil_again
    (alike : ∀ location, ∀ v ∈ writes, ∀ w ∈ writes, tree.locate? v.path = some location →
      tree.locate? w.path = some location → v.keeps = w.keeps) :
    performUntil writes (performUntil writes tree) = performUntil writes tree := by
  have first := performAll_takeWhile writes tree
  have second := performAll_takeWhile writes (performUntil writes tree)
  have same := sameDirectories_performUntil writes tree
  simp only [same.isSome_perform] at second
  obtain ⟨places, root⟩ := places_of_performAll second (contains_of_performAll first).1
  have working := (sameDirectories_performUntil writes (performUntil writes tree)).workingDirectory
  refine eq_of_get? places root working fun location => ?_
  have member {v : Write} (hv : v ∈ writes.takeWhile fun w => (w.perform tree).isSome) :
      v ∈ writes := (List.takeWhile_prefix _).subset hv
  -- all writes to a place replace what is there, or all keep it
  by_cases replacing : ∀ w ∈ writes.takeWhile fun w => (w.perform tree).isSome,
      w.isAt tree location = true → w.keeps = false
  · have last := get?_performAll_of_replacing first replacing
    have again := get?_performAll_of_replacing second (by rwa [same.isAt])
    rw [same.isAt] at again
    rw [again, last, ← Option.or_assoc, Option.or_self]
  · obtain ⟨v, hv⟩ := Classical.not_forall.1 replacing
    obtain ⟨hv, hl⟩ := Classical.not_imp.1 hv
    obtain ⟨hl, keeps⟩ := Classical.not_imp.1 hl
    have keeping : ∀ w ∈ writes.takeWhile fun w => (w.perform tree).isSome,
        w.isAt tree location = true → w.keeps = true := by
      intro w hw hw'
      rw [alike location w (member hw) v (member hv) (Write.isAt_iff.1 hw') (Write.isAt_iff.1 hl)]
      simpa using keeps
    have last := get?_performAll_of_keeping first keeping
    have again := get?_performAll_of_keeping second (by rwa [same.isAt])
    rw [same.isAt] at again
    rw [again, last, Option.or_assoc, Option.or_self]

/-! ## Creating directories -/

/-- Everything in a tree is in another one too, which has the same working directory. -/
structure Extends (tree after : FileTree) : Prop where
  workingDirectory : after.workingDirectory = tree.workingDirectory
  get? : ∀ l entry, tree.get? l = some entry → after.get? l = some entry

theorem Extends.refl (tree : FileTree) : Extends tree tree :=
  ⟨rfl, fun _ _ h => h⟩

theorem Extends.trans {last : FileTree} (h : Extends tree after) (h' : Extends after last) :
    Extends tree last :=
  ⟨h'.workingDirectory.trans h.workingDirectory,
    fun l entry hl => h'.get? l entry (h.get? l entry hl)⟩

theorem Extends.insert (root : location ≠ []) (empty : tree.get? location = none) (entry : Entry) :
    Extends tree (tree.insert location entry) := by
  refine ⟨rfl, fun l e h => ?_⟩
  rw [get?_insert _ root, if_neg, h]
  rintro rfl
  rw [empty] at h
  cases h

theorem extends_createFrom (tree : FileTree) (location : Location) (steps : List Path.Step) :
    Extends tree (tree.createFrom location steps).2 := by
  induction steps generalizing tree location with
  | nil => exact .refl tree
  | cons step rest ih =>
    cases step with
    | stay => exact ih tree location
    | back => exact ih tree location.dropLast
    | down name =>
      rw [createFrom]
      split
      · exact ih tree (location ++ [name])
      · exact .refl tree
      · next empty =>
        split
        · exact (Extends.insert (by simp) empty .directory).trans (ih _ _)
        · exact .refl tree

theorem extends_createDirectories (tree : FileTree) (path : String) :
    Extends tree (tree.createDirectories path).2 := by
  rw [createDirectories]
  split
  · split
    · exact extends_createFrom tree _ _
    · exact .refl tree
  · exact .refl tree

/-- The directories of a tree are directories of another one too, which has the same working
directory. -/
structure KeepsDirectories (tree after : FileTree) : Prop where
  workingDirectory : after.workingDirectory = tree.workingDirectory
  directory : ∀ l, tree.get? l = some .directory → after.get? l = some .directory

theorem Extends.keeps (h : Extends tree after) : KeepsDirectories tree after :=
  ⟨h.workingDirectory, fun l => h.get? l .directory⟩

theorem SameDirectories.keeps (h : SameDirectories tree after) : KeepsDirectories tree after :=
  ⟨h.workingDirectory, fun l => (h.directory_iff l).2⟩

theorem KeepsDirectories.base (h : KeepsDirectories tree after) (path : String) :
    after.base path = tree.base path := by
  rw [FileTree.base, FileTree.base, h.workingDirectory]

theorem KeepsDirectories.follow? (h : KeepsDirectories tree after) {steps : List Path.Step}
    {start : Location} (hl : tree.follow? start steps = some location) :
    after.follow? start steps = some location := by
  induction steps generalizing start with
  | nil => exact hl
  | cons step rest ih =>
    rw [follow?_cons] at hl ⊢
    split at hl
    · next directory =>
      obtain ⟨next, hn, hl⟩ := Option.bind_eq_some_iff.1 hl
      rw [if_pos (h.directory _ directory), hn]
      exact ih hl
    · cases hl

/-- A path leads where it led before when directories are added. -/
theorem KeepsDirectories.locate? {path : String} (h : KeepsDirectories tree after)
    (hl : tree.locate? path = some location) : after.locate? path = some location := by
  obtain ⟨steps, hs, hl⟩ := Option.bind_eq_some_iff.1 hl
  rw [FileTree.locate?, hs, h.base]
  exact h.follow? hl

theorem read?_createDirectories {path directory text : String} (h : tree.read? path = some text) :
    (tree.createDirectories directory).2.read? path = some text := by
  obtain ⟨location, hl, hf⟩ := read?_eq_some_iff.1 h
  have created := extends_createDirectories tree directory
  exact read?_eq_some_iff.2 ⟨location, created.keeps.locate? hl, created.get? _ _ hf⟩

/-- Creating directories again goes as it went before, and changes nothing, when the directories
are there and, if they could not all be created, nothing else has changed. -/
theorem createFrom_again {last : FileTree} {steps : List Path.Step} {all : Bool}
    (h : tree.createFrom location steps = (all, after)) (keeps : KeepsDirectories after last)
    (stopped : all = false → last = after) : last.createFrom location steps = (all, last) := by
  have kept {tree : FileTree} {base l : Location} {rest : List Path.Step}
      (h : tree.createFrom base rest = (all, after)) (hl : tree.get? l = some .directory) :
      last.get? l = some .directory := by
    have created := (extends_createFrom tree base rest).keeps
    rw [h] at created
    exact keeps.directory l (created.directory l hl)
  induction steps generalizing tree location with
  | nil =>
    obtain ⟨rfl, rfl⟩ := Prod.mk.inj h
    rfl
  | cons step rest ih =>
    cases step with
    | stay => exact ih h
    | back => exact ih h
    | down name =>
      rw [createFrom] at h
      split at h
      · next directory =>
        rw [createFrom, kept h directory]
        exact ih h
      · next text file =>
        obtain ⟨rfl, rfl⟩ := Prod.mk.inj h
        rw [createFrom, stopped rfl, file]
      · next empty =>
        split at h
        · next valid =>
          rw [createFrom, kept h (by rw [get?_insert _ (by simp), if_pos rfl])]
          exact ih h
        · next invalid =>
          obtain ⟨rfl, rfl⟩ := Prod.mk.inj h
          rw [createFrom, stopped rfl, empty]
          exact if_neg invalid

theorem createDirectories_again {last : FileTree} {path : String} {all : Bool}
    (h : tree.createDirectories path = (all, after)) (keeps : KeepsDirectories after last)
    (stopped : all = false → last = after) : last.createDirectories path = (all, last) := by
  have created := (extends_createDirectories tree path).keeps
  rw [h] at created
  rw [createDirectories] at h ⊢
  rw [keeps.base, created.base]
  split at h
  · split at h
    · next start =>
      rw [if_pos (keeps.directory _ (created.directory _ start))]
      exact createFrom_again h keeps stopped
    · next start =>
      obtain ⟨rfl, rfl⟩ := Prod.mk.inj h
      rw [stopped rfl, if_neg start]
  · obtain ⟨rfl, rfl⟩ := Prod.mk.inj h
    rfl

end RegisterHeaders.FileTree
