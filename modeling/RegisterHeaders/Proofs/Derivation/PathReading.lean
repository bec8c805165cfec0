import RegisterHeaders.Derivation.Resolve
import RegisterHeaders.Proofs.Derivation.FirstList
import RegisterHeaders.Proofs.DottedPath

/-!
# The two readings of a path

A path to a register can be read in two ways: with a peripheral in front, in whose register list the
rest of the path is a name (`NamesOutside`), or as a name in the list that the path is written in
(`NamesInside`). In both readings the dots of the name separate clusters. A lookup tries only one of
them: the first, if there is a peripheral of the first name, and otherwise the second
(`lookupRegister_eq_some_iff`).

So the first reading has priority, but it also prevents the second one where it comes to nothing: a
register of a cluster that has the name of a peripheral cannot be referred to by its cluster
(`IsHidden`). In all other cases a register is found if one of the readings names one
(`lookupRegister_reads_iff`).
-/

namespace RegisterHeaders.Derivation

variable {d : Description.Device} {scope : RegisterScope} {path : String} {r : RegisterAt}

/-! ## Readings -/

/-- The first element of a list with a property. -/
def IsFirst {α : Type} (P : α → Prop) (xs : List α) (a : α) : Prop :=
  P a ∧ ∃ before after, xs = before ++ a :: after ∧ ∀ b ∈ before, ¬ P b

/-- The register of a register list whose name the names of the clusters and the register make up.
-/
def RegisterScope.Names (scope : RegisterScope) (names : List String) (r : RegisterAt) : Prop :=
  IsFirst (fun s : RegisterAt => s.element.name = "_".intercalate names) scope.placed r

/-- Read as a peripheral and a register of it, `path` names `r`. The register list of the peripheral
is its own or the one that it derives. -/
def NamesOutside (d : Description.Device) (path : String) (r : RegisterAt) : Prop :=
  ∃ owner names p list, IsDotted path (owner :: names) ∧ names ≠ [] ∧
    IsFirst (fun q : PeripheralAt => q.element.name = owner) (placedPeripherals d) p ∧
    (peripheralLinks d).Finds PeripheralAt.ownRegisters p list ∧ list.Names names r

/-- Read as a register of the list that it is written in, `path` names `r`. -/
def NamesInside (scope : RegisterScope) (path : String) (r : RegisterAt) : Prop :=
  ∃ names, IsDotted path names ∧ scope.Names names r

/-- There is a peripheral of the name before the first dot of `path`. -/
def BeginsWithPeripheral (d : Description.Device) (path : String) : Prop :=
  ∃ owner names, IsDotted path (owner :: names) ∧ names ≠ [] ∧
    ∃ p ∈ placedPeripherals d, p.element.name = owner

/-- `path` names a register of the list that it is written in, but it begins with the name of a
peripheral in which it names nothing. -/
structure IsHidden (d : Description.Device) (scope : RegisterScope) (path : String) : Prop where
  begins : BeginsWithPeripheral d path
  outside : ∀ r, ¬ NamesOutside d path r
  inside : ∃ r, NamesInside scope path r

/-- `found` is what `path` names under one of its readings, the first of which has priority. -/
structure Reads (d : Description.Device) (scope : RegisterScope) (path : String)
    (found : Option RegisterAt) : Prop where
  outside : ∀ r, NamesOutside d path r → found = some r
  inside : (∀ r, ¬ NamesOutside d path r) → ∀ r, NamesInside scope path r → found = some r
  nothing : (∀ r, ¬ NamesOutside d path r) → (∀ r, ¬ NamesInside scope path r) → found = none

theorem find?_eq_some_iff_isFirst {α : Type} {P : α → Prop} [DecidablePred P] {xs : List α}
    {a : α} : xs.find? (fun x => decide (P x)) = some a ↔ IsFirst P xs a := by
  simp [List.find?_eq_some_iff_append, IsFirst]

theorem findPeripheral_eq_some_iff {name : String} {p : PeripheralAt} :
    findPeripheral d name = some p ↔
      IsFirst (fun q : PeripheralAt => q.element.name = name) (placedPeripherals d) p :=
  find?_eq_some_iff_isFirst

theorem findRegister_eq_some_iff {names : List String} :
    findRegister scope ("_".intercalate names) = some r ↔ scope.Names names r :=
  find?_eq_some_iff_isFirst

/-! ## Lookup -/

theorem findRegister_flatName {names : List String} (h : IsDotted path names) :
    findRegister scope (flatName path) = some r ↔ scope.Names names r := by
  rw [← h.joined, flatName_intercalate h.dotless, findRegister_eq_some_iff]

theorem findRegister_flatName_iff :
    findRegister scope (flatName path) = some r ↔ NamesInside scope path r := by
  constructor
  · intro h
    exact ⟨_, isDotted_dottedNames path, (findRegister_flatName (isDotted_dottedNames path)).1 h⟩
  · rintro ⟨names, hn, h⟩
    exact (findRegister_flatName hn).2 h

theorem findsFirst_registerList {p : PeripheralAt} (hp : p ∈ placedPeripherals d) :
    (peripheralLinks d).FindsFirst PeripheralAt.ownRegisters p (registerList d p) :=
  findsFirst_registerListWithin hp (Nat.le_succ _)

/-- A path without a peripheral in front is looked up in the list that it is written in. -/
theorem lookupRegister_of_not_begins (h : ¬ BeginsWithPeripheral d path) :
    lookupRegister d scope path = findRegister scope (flatName path) := by
  unfold lookupRegister
  split
  · rfl
  · next owner rest hsplit =>
    split
    · rfl
    · next p hp =>
      obtain ⟨hname, -⟩ := findPeripheral_eq_some_iff.1 hp
      obtain ⟨names, hne, dotted⟩ := isDotted_of_splitFirst hsplit
      exact absurd ⟨owner, names, dotted, hne, p, mem_of_findPeripheral hp, hname⟩ h

/-- A path with a peripheral in front is looked up in the register list of this peripheral. -/
theorem lookupRegister_of_begins (h : BeginsWithPeripheral d path) :
    lookupRegister d scope path = some r ↔ NamesOutside d path r := by
  obtain ⟨owner, names, hpath, hne, q, hq, hqname⟩ := h
  obtain ⟨p, hp⟩ : ∃ p, findPeripheral d owner = some p :=
    Option.isSome_iff_exists.1 (List.find?_isSome.2 ⟨q, hq, decide_eq_true hqname⟩)
  have lookup : lookupRegister d scope path =
      (registerList d p).bind fun list => findRegister list ("_".intercalate names) := by
    simp only [lookupRegister, splitFirst_of_isDotted hpath hne, hp,
      flatName_intercalate hpath.tail_dotless]
    rfl
  rw [lookup, Option.bind_eq_some_iff]
  simp only [findRegister_eq_some_iff]
  constructor
  · rintro ⟨list, hlist, hr⟩
    exact ⟨owner, names, p, list, hpath, hne, findPeripheral_eq_some_iff.1 hp,
      ((findsFirst_registerList (mem_of_findPeripheral hp)).eq_some_iff list).1 hlist, hr⟩
  · rintro ⟨owner', names', p', list, hpath', -, hp', hlist, hr⟩
    obtain ⟨rfl, rfl⟩ := List.cons.inj (hpath.unique hpath')
    obtain rfl := Option.some.inj (hp.symm.trans (findPeripheral_eq_some_iff.2 hp'))
    have found := ((findsFirst_registerList (mem_of_findPeripheral hp)).eq_some_iff list).2 hlist
    exact ⟨list, found, hr⟩

theorem NamesOutside.begins (h : NamesOutside d path r) : BeginsWithPeripheral d path := by
  obtain ⟨owner, names, p, list, hpath, hne, hp, -⟩ := h
  exact ⟨owner, names, hpath, hne, p, mem_of_findPeripheral (findPeripheral_eq_some_iff.2 hp), hp.1⟩

/-- Of the two readings a lookup tries only the first, if there is a peripheral in front. -/
theorem lookupRegister_eq_some_iff :
    lookupRegister d scope path = some r ↔
      NamesOutside d path r ∨ ¬ BeginsWithPeripheral d path ∧ NamesInside scope path r := by
  by_cases begins : BeginsWithPeripheral d path
  · rw [lookupRegister_of_begins begins]
    simp [begins]
  · rw [lookupRegister_of_not_begins begins, findRegister_flatName_iff]
    simp only [begins, not_false_eq_true, true_and]
    exact ⟨Or.inr, fun h => h.resolve_left fun outside => begins outside.begins⟩

/-- A path leads to what it names under one of its readings, the first of which has priority, if and
only if it is not hidden; a hidden path leads to nothing. -/
theorem lookupRegister_reads_iff (d : Description.Device) (scope : RegisterScope) (path : String) :
    (Reads d scope path (lookupRegister d scope path) ↔ ¬ IsHidden d scope path) ∧
    (IsHidden d scope path → lookupRegister d scope path = none) := by
  have hides : IsHidden d scope path → lookupRegister d scope path = none := fun hidden =>
    Option.eq_none_iff_forall_ne_some.2 fun r found => by
      rcases lookupRegister_eq_some_iff.1 found with outside | ⟨begins, -⟩
      · exact hidden.outside r outside
      · exact begins hidden.begins
  refine ⟨⟨fun reads hidden => ?_, fun visible => ⟨?_, ?_, ?_⟩⟩, hides⟩
  · obtain ⟨r, inside⟩ := hidden.inside
    have found := reads.inside hidden.outside r inside
    rw [hides hidden] at found
    cases found
  · intro r outside
    exact lookupRegister_eq_some_iff.2 (Or.inl outside)
  · intro unnamed r inside
    refine lookupRegister_eq_some_iff.2 (Or.inr ⟨fun begins => ?_, inside⟩)
    exact visible ⟨begins, unnamed, r, inside⟩
  · intro unnamed absent
    refine Option.eq_none_iff_forall_ne_some.2 fun r found => ?_
    rcases lookupRegister_eq_some_iff.1 found with outside | ⟨-, inside⟩
    · exact unnamed r outside
    · exact absent r inside

/-- The registers of a peripheral with a cluster `DMA`, one of which refers to the other by it. -/
def serialRegisters : List Description.Register :=
  [⟨"DMA_CFG", none, some 0, none, some 16, none, none⟩,
    ⟨"ALT", some "DMA.CFG", some 4, none, none, none, none⟩]

/-- A device with a peripheral that has the name of the cluster. -/
def serialDevice : Description.Device where
  name := "D"
  description := none
  access := none
  width := none
  peripherals := [
    ⟨"DMA", none, some 4096, none, none, none,
      some [⟨"CTRL", none, some 0, none, none, none, none⟩]⟩,
    ⟨"UART", none, some 8192, none, none, none, some serialRegisters⟩]

/-- The reference names a register of its own list and none of the peripheral `DMA`, but it is not
found, and the device cannot be resolved. -/
theorem serialDevice_hides :
    NamesInside ⟨1, serialRegisters⟩ "DMA.CFG"
      ⟨⟨1, serialRegisters⟩, 0, ⟨"DMA_CFG", none, some 0, none, some 16, none, none⟩⟩ ∧
    (∀ r, ¬ NamesOutside serialDevice "DMA.CFG" r) ∧
    ¬ Reads serialDevice ⟨1, serialRegisters⟩ "DMA.CFG"
      (lookupRegister serialDevice ⟨1, serialRegisters⟩ "DMA.CFG") ∧
    resolve serialDevice = .error (.unresolved .register "ALT" "DMA.CFG") := by
  have dotted : IsDotted "DMA.CFG" ["DMA", "CFG"] := isDotted_iff.2 (by decide +kernel)
  have inside : NamesInside ⟨1, serialRegisters⟩ "DMA.CFG"
      ⟨⟨1, serialRegisters⟩, 0, ⟨"DMA_CFG", none, some 0, none, some 16, none, none⟩⟩ :=
    ⟨_, dotted, findRegister_eq_some_iff.1 (by decide +kernel)⟩
  have lost : lookupRegister serialDevice ⟨1, serialRegisters⟩ "DMA.CFG" = none := by
    decide +kernel
  have outside : ∀ r, ¬ NamesOutside serialDevice "DMA.CFG" r := fun r named => by
    rw [(lookupRegister_of_begins named.begins).2 named] at lost
    cases lost
  refine ⟨inside, outside, fun reads => ?_, by decide +kernel⟩
  have found := reads.inside outside _ inside
  rw [lost] at found
  cases found

end RegisterHeaders.Derivation
