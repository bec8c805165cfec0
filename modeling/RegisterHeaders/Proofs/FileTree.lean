import RegisterHeaders.FileTree
import RegisterHeaders.Proofs.Path

/-!
# Writing files one after the other

Files are written to the places that their paths lead to, and writing a file moves no directory, so
a path leads to the same place before and after (`SameDirectories`). What a place holds in the end
depends on the writes to it: of writes that replace what there is the last one stays
(`get?_performAll_of_replacing`), of writes that keep what there is the first one, unless something
was there before them (`get?_performAll_of_keeping`). All texts written are found again if and only
if no two of them are meant for one place and none was kept from its place
(`read?_performAll_iff`).
-/

namespace RegisterHeaders.FileTree

variable {tree after : FileTree} {path text : String} {location : Location}

/-! ## Places of paths -/

/-- Where a step leads from a directory. -/
def next? (location : Location) : Path.Step → Option Location
  | .stay => some location
  | .back => some location.dropLast
  | .down name => if Path.isValidName name then some (location ++ [name]) else none

theorem follow?_cons (step : Path.Step) (steps : List Path.Step) :
    tree.follow? location (step :: steps) =
      if tree.get? location = some .directory then
        (next? location step).bind (tree.follow? · steps)
      else none := by
  cases step with
  | stay => rw [follow?, next?, Option.bind_some]
  | back => rw [follow?, next?, Option.bind_some]
  | down name =>
    rw [follow?, next?]
    by_cases valid : Path.isValidName name = true <;>
      simp only [valid, if_true, if_false, Option.bind, Bool.false_eq_true]

theorem follow?_append (steps rest : List Path.Step) :
    tree.follow? location (steps ++ rest) =
      (tree.follow? location steps).bind (tree.follow? · rest) := by
  induction steps generalizing location with
  | nil => rfl
  | cons step steps ih =>
    rw [List.cons_append, follow?_cons, follow?_cons]
    split
    · rw [Option.bind_assoc]
      exact Option.bind_congr fun _ _ => ih
    · rfl

/-- Paths that differ in a long enough last name lead to the same directory, if they lead
anywhere. -/
theorem exists_locate?_append (tree : FileTree) (directory : String) : ∃ place last,
    ∀ ending location, '/' ∉ ending.toList → 2 < ending.length →
      tree.locate? (directory ++ ending) = some location →
        location = place ++ [last ++ ending] := by
  obtain ⟨steps, last, h⟩ := Path.exists_steps?_append directory
  refine ⟨(tree.follow? (tree.base directory) steps).getD [], last,
    fun ending location hslash hlength hl => ?_⟩
  obtain ⟨all, hall, hl⟩ := Option.bind_eq_some_iff.1 hl
  have start : tree.base (directory ++ ending) = tree.base directory := by
    rw [base, base, Path.isAbsolute_append hslash]
  rw [h ending all hslash hlength hall, start, follow?_append] at hl
  obtain ⟨place, hplace, hl⟩ := Option.bind_eq_some_iff.1 hl
  rw [follow?_cons, next?] at hl
  rw [hplace, Option.getD_some]
  split at hl
  · split at hl
    · exact (Option.some.inj hl).symm
    · cases hl
  · cases hl

theorem read?_eq_some_iff :
    tree.read? path = some text ↔
      ∃ location, tree.locate? path = some location ∧ tree.get? location = some (.file text) := by
  rw [read?]
  rcases tree.locate? path with _ | location
  · simp
  · rcases h : tree.get? location with _ | _ | text' <;> simp [h]

theorem contains_iff :
    tree.contains path = true ↔
      ∃ location entry, tree.locate? path = some location ∧ tree.get? location = some entry := by
  rw [contains, Option.isSome_iff_exists]
  simp only [Option.bind_eq_some_iff]
  exact exists_comm

/-! ## Trees with the same directories -/

/-- Two trees have the same working directory, and directories at the same locations. -/
structure SameDirectories (tree after : FileTree) : Prop where
  workingDirectory : after.workingDirectory = tree.workingDirectory
  directory_iff : ∀ location,
    after.get? location = some .directory ↔ tree.get? location = some .directory

theorem SameDirectories.refl (tree : FileTree) : SameDirectories tree tree :=
  ⟨rfl, fun _ => Iff.rfl⟩

theorem SameDirectories.trans {last : FileTree} (h : SameDirectories tree after)
    (h' : SameDirectories after last) : SameDirectories tree last :=
  ⟨h'.workingDirectory.trans h.workingDirectory,
    fun location => (h'.directory_iff location).trans (h.directory_iff location)⟩

theorem SameDirectories.follow? (h : SameDirectories tree after) (steps : List Path.Step) :
    after.follow? location steps = tree.follow? location steps := by
  induction steps generalizing location with
  | nil => rfl
  | cons step steps ih => simp only [follow?_cons, h.directory_iff location, ih]

/-- A path leads to the same place in both trees. -/
theorem SameDirectories.locate? (h : SameDirectories tree after) (path : String) :
    after.locate? path = tree.locate? path := by
  rw [FileTree.locate?, FileTree.locate?, base, base, h.workingDirectory]
  exact Option.bind_congr fun steps _ => h.follow? steps

/-! ## One write -/

/-- A text that is to be written to a file. -/
structure Write where
  path : String
  text : String
  /-- Whether what there is at the path already is kept instead. -/
  keeps : Bool
  deriving Repr, DecidableEq

/-- Writes a text, or keeps what there is. -/
def Write.perform (w : Write) (tree : FileTree) : Option FileTree :=
  if w.keeps && tree.contains w.path then some tree else tree.write? w.path w.text

/-- Whether a write is to a place. -/
def Write.isAt (tree : FileTree) (location : Location) (w : Write) : Bool :=
  tree.locate? w.path = some location

theorem Write.isAt_iff {w : Write} :
    w.isAt tree location = true ↔ tree.locate? w.path = some location :=
  decide_eq_true_iff

theorem SameDirectories.isAt (h : SameDirectories tree after) (location : Location) :
    Write.isAt after location = Write.isAt tree location := by
  funext w
  rw [Write.isAt, Write.isAt, h.locate?]

theorem write?_eq_some_iff :
    tree.write? path text = some after ↔ ∃ location, tree.locate? path = some location ∧
      tree.get? location ≠ some .directory ∧ tree.insert location (.file text) = after := by
  simp only [write?, Option.bind_eq_bind, Option.bind_eq_some_iff]
  refine exists_congr fun location => and_congr_right fun _ => ?_
  split <;> simp_all

/-- A write changes what there is at its place only, and only if it does not keep it. -/
theorem Write.exists_of_perform {w : Write} (h : w.perform tree = some after) :
    ∃ location, tree.locate? w.path = some location ∧ SameDirectories tree after ∧
      ∀ l, after.get? l =
        if l = location ∧ (w.keeps = true → tree.get? l = none) then some (.file w.text)
        else tree.get? l := by
  rw [perform] at h
  split at h
  · next kept =>
    obtain rfl := Option.some.inj h
    rw [Bool.and_eq_true] at kept
    obtain ⟨location, entry, hl, he⟩ := contains_iff.1 kept.2
    refine ⟨location, hl, .refl tree, fun l => ?_⟩
    rw [if_neg]
    rintro ⟨rfl, hnone⟩
    rw [hnone kept.1] at he
    cases he
  · next replaced =>
    obtain ⟨location, hl, hfile, rfl⟩ := write?_eq_some_iff.1 h
    have root : location ≠ [] := by
      rintro rfl
      exact hfile (by rw [get?, if_pos rfl])
    have nothing : w.keeps = true → tree.get? location = none := by
      refine fun keeps => Option.eq_none_iff_forall_ne_some.2 fun entry he => replaced ?_
      rw [keeps, contains_iff.2 ⟨location, entry, hl, he⟩, Bool.and_self]
    refine ⟨location, hl, ⟨rfl, fun l => ?_⟩, fun l => ?_⟩
    · rw [get?_insert _ root]
      split
      · next e => subst e; simp [hfile]
      · rfl
    · rw [get?_insert _ root]
      by_cases e : l = location
      · subst e
        rw [if_pos rfl, if_pos ⟨rfl, nothing⟩]
      · rw [if_neg e, if_neg (fun h => e h.1)]

theorem Write.perform_of_kept (w : Write) (hk : w.keeps = true)
    (hc : tree.contains w.path = true) : w.perform tree = some tree := by
  rw [perform, if_pos (by rw [hk, hc]; rfl)]

theorem Write.perform_of_replaced (w : Write)
    (h : w.keeps = true → tree.contains w.path = false) :
    w.perform tree = tree.write? w.path w.text := by
  rw [perform, if_neg]
  rw [Bool.and_eq_true]
  rintro ⟨hk, hc⟩
  rw [h hk] at hc
  cases hc

/-- What comes after writing a file goes on with the tree that the write leaves. -/
theorem writeFile_bind_eq {α : Type} (w : Write) (h : w.keeps = true → tree.contains w.path = false)
    (next : Bool → StateM FileTree α) :
    ((FileSystem.writeFile w.path w.text : StateM FileTree Bool) >>= next) tree =
      match w.perform tree with
      | none => next false tree
      | some after => next true after := by
  rw [w.perform_of_replaced h]
  simp only [bind, StateT.bind, FileSystem.writeFile]
  rcases tree.write? w.path w.text with _ | written <;> rfl

theorem readFile?_bind_eq {α : Type} (path : String) (next : Option String → StateM FileTree α) :
    ((FileSystem.readFile? path : StateM FileTree (Option String)) >>= next) tree =
      next (tree.read? path) tree :=
  rfl

theorem pathExists_bind_eq {α : Type} (path : String) (next : Bool → StateM FileTree α) :
    ((FileSystem.pathExists path : StateM FileTree Bool) >>= next) tree =
      next (tree.contains path) tree :=
  rfl

theorem createDirectories_bind_eq {α : Type} (path : String) (next : Bool → StateM FileTree α) :
    ((FileSystem.createDirectories path : StateM FileTree Bool) >>= next) tree =
      next (tree.createDirectories path).1 (tree.createDirectories path).2 :=
  rfl

/-! ## Writes one after the other -/

/-- Performs writes one after the other. -/
def performAll : List Write → FileTree → Option FileTree
  | [], tree => some tree
  | w :: rest, tree => (w.perform tree).bind (performAll rest)

theorem performAll_append (writes rest : List Write) (tree : FileTree) :
    performAll (writes ++ rest) tree = (performAll writes tree).bind (performAll rest) := by
  induction writes generalizing tree with
  | nil => rfl
  | cons w writes ih =>
    rw [List.cons_append, performAll, performAll, Option.bind_assoc]
    exact Option.bind_congr fun middle _ => ih middle

variable {writes : List Write}

theorem sameDirectories_of_performAll (h : performAll writes tree = some after) :
    SameDirectories tree after := by
  induction writes generalizing tree with
  | nil =>
    obtain rfl := Option.some.inj h
    exact .refl tree
  | cons w writes ih =>
    obtain ⟨middle, hw, h⟩ := Option.bind_eq_some_iff.1 h
    obtain ⟨-, -, same, -⟩ := w.exists_of_perform hw
    exact same.trans (ih h)

/-- The path of every write leads to a place. -/
theorem exists_locate?_of_performAll (h : performAll writes tree = some after) {w : Write}
    (hw : w ∈ writes) : ∃ location, tree.locate? w.path = some location := by
  induction writes generalizing tree with
  | nil => cases hw
  | cons w' writes ih =>
    obtain ⟨middle, hw', h⟩ := Option.bind_eq_some_iff.1 h
    obtain ⟨location, hl, same, -⟩ := w'.exists_of_perform hw'
    rcases List.mem_cons.1 hw with rfl | hw
    · exact ⟨location, hl⟩
    · rw [← same.locate?]
      exact ih h hw

/-- Of writes that replace what there is at a place, the last one stays. -/
theorem get?_performAll_of_replacing (h : performAll writes tree = some after)
    (replacing : ∀ w ∈ writes, w.isAt tree location = true → w.keeps = false) :
    after.get? location =
      ((writes.reverse.find? (Write.isAt tree location)).map (.file ·.text)).or
        (tree.get? location) := by
  induction writes generalizing tree with
  | nil =>
    obtain rfl := Option.some.inj h
    rfl
  | cons w writes ih =>
    obtain ⟨middle, hw, h⟩ := Option.bind_eq_some_iff.1 h
    obtain ⟨place, hp, same, hget⟩ := w.exists_of_perform hw
    have rest : ∀ v ∈ writes, v.isAt middle location = true → v.keeps = false := by
      rw [same.isAt]
      exact fun v hv => replacing v (List.mem_cons_of_mem w hv)
    rw [ih h rest, same.isAt, hget, List.reverse_cons, List.find?_append]
    rcases writes.reverse.find? (Write.isAt tree location) with _ | v
    · by_cases hl : w.isAt tree location = true
      · obtain rfl : place = location := Option.some.inj (hp.symm.trans (Write.isAt_iff.1 hl))
        have replaces := replacing w List.mem_cons_self hl
        simp [replaces, hl]
      · have elsewhere : location ≠ place := by
          rintro rfl
          exact hl (Write.isAt_iff.2 hp)
        simp [elsewhere, hl]
    · rfl

/-- Of writes that keep what there is at a place, the first one stays if nothing was there. -/
theorem get?_performAll_of_keeping (h : performAll writes tree = some after)
    (keeping : ∀ w ∈ writes, w.isAt tree location = true → w.keeps = true) :
    after.get? location =
      (tree.get? location).or ((writes.find? (Write.isAt tree location)).map (.file ·.text)) := by
  induction writes generalizing tree with
  | nil =>
    obtain rfl := Option.some.inj h
    simp
  | cons w writes ih =>
    obtain ⟨middle, hw, h⟩ := Option.bind_eq_some_iff.1 h
    obtain ⟨place, hp, same, hget⟩ := w.exists_of_perform hw
    have rest : ∀ v ∈ writes, v.isAt middle location = true → v.keeps = true := by
      rw [same.isAt]
      exact fun v hv => keeping v (List.mem_cons_of_mem w hv)
    rw [ih h rest, same.isAt, hget]
    by_cases hl : w.isAt tree location = true
    · obtain rfl : place = location := Option.some.inj (hp.symm.trans (Write.isAt_iff.1 hl))
      have keeps := keeping w List.mem_cons_self hl
      rw [List.find?_cons_of_pos hl]
      rcases tree.get? place with _ | entry <;> simp [keeps]
    · have elsewhere : location ≠ place := by
        rintro rfl
        exact hl (Write.isAt_iff.2 hp)
      rw [List.find?_cons_of_neg hl, if_neg (fun h => elsewhere h.1)]

/-- Where no write to a place keeps what another one replaces, all texts are found at their paths if
and only if those for the same place are the same and what was kept is what would have been
written. -/
theorem read?_performAll_iff (h : performAll writes tree = some after)
    (alike : ∀ v ∈ writes, ∀ w ∈ writes, tree.locate? v.path = tree.locate? w.path →
      v.keeps = w.keeps) :
    (∀ w ∈ writes, after.read? w.path = some w.text) ↔
      (∀ v ∈ writes, ∀ w ∈ writes, tree.locate? v.path = tree.locate? w.path → v.text = w.text) ∧
      ∀ w ∈ writes, w.keeps = true → tree.contains w.path = true →
        tree.read? w.path = some w.text := by
  have locate? := (sameDirectories_of_performAll h).locate?
  -- all writes to the place of `w` keep what there is, or none does
  have keeps_eq : ∀ w ∈ writes, ∀ location, tree.locate? w.path = some location →
      ∀ v ∈ writes, v.isAt tree location = true → v.keeps = w.keeps :=
    fun w hw location hl v hv hv' => alike v hv w hw ((Write.isAt_iff.1 hv').trans hl.symm)
  constructor
  · intro found
    refine ⟨fun v hv w hw e => ?_, fun w hw keeps hc => ?_⟩
    · have hv' := found v hv
      rw [read?, locate?, e, ← locate?, ← read?, found w hw] at hv'
      exact (Option.some.inj hv').symm
    · obtain ⟨location, entry, hl, he⟩ := contains_iff.1 hc
      obtain ⟨location', hl', hw'⟩ := read?_eq_some_iff.1 (found w hw)
      obtain rfl := Option.some.inj (hl.symm.trans ((locate? _).symm.trans hl'))
      have kept := get?_performAll_of_keeping h fun v hv hv' =>
        (keeps_eq w hw location hl v hv hv').trans keeps
      rw [he, Option.some_or, ← he] at kept
      exact read?_eq_some_iff.2 ⟨location, hl, kept.symm.trans hw'⟩
  · rintro ⟨same, existing⟩ w hw
    obtain ⟨location, hl⟩ := exists_locate?_of_performAll h hw
    refine read?_eq_some_iff.2 ⟨location, (locate? _).trans hl, ?_⟩
    have hw' : w.isAt tree location = true := Write.isAt_iff.2 hl
    -- every write to the place has the text of `w`, and so the one that stays
    have text : ∀ v ∈ writes, v.isAt tree location = true → v.text = w.text :=
      fun v hv hv' => same v hv w hw ((Write.isAt_iff.1 hv').trans hl.symm)
    rcases keeps : w.keeps with _ | _
    · rw [get?_performAll_of_replacing h fun v hv hv' =>
        (keeps_eq w hw location hl v hv hv').trans keeps]
      obtain ⟨v, hv⟩ := Option.isSome_iff_exists.1
        (List.find?_isSome.2 ⟨w, List.mem_reverse.2 hw, hw'⟩)
      rw [hv, Option.map_some, Option.some_or,
        text v (List.mem_reverse.1 (List.mem_of_find?_eq_some hv)) (List.find?_some hv)]
    · rw [get?_performAll_of_keeping h fun v hv hv' =>
        (keeps_eq w hw location hl v hv hv').trans keeps]
      rcases he : tree.get? location with _ | entry
      · obtain ⟨v, hv⟩ := Option.isSome_iff_exists.1 (List.find?_isSome.2 ⟨w, hw, hw'⟩)
        rw [hv, Option.none_or, Option.map_some,
          text v (List.mem_of_find?_eq_some hv) (List.find?_some hv)]
      · have hr := existing w hw keeps (contains_iff.2 ⟨location, entry, hl, he⟩)
        obtain ⟨location', hl', hr⟩ := read?_eq_some_iff.1 hr
        obtain rfl := Option.some.inj (hl.symm.trans hl')
        rw [Option.some_or, ← he, hr]

end RegisterHeaders.FileTree
