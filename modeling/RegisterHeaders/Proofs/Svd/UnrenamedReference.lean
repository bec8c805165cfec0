import RegisterHeaders.Proofs.Svd.SiblingReference

/-!
# References in clusters that stay as they are written

Flattening renames a reference in a cluster only if it is the name that a register of the cluster is
written with. The name of an element of a register array is not, and neither is the path of a field.
Such a reference is looked up outside the cluster as it is written, where the copies of its
registers go by other names. `unrenamed_reference_reaches_iff` says when it is led back to the
register of the cluster that it names; otherwise it points to a register of that name outside the
cluster, or to nothing (`bankDocument_unreached`).
-/

namespace RegisterHeaders.Svd

open RegisterHeaders.Derivation Steps

/-! ## Paths of fields -/

theorem splitLast_append {owner name : String} (h : '.' ∉ name.toList) :
    splitLast (owner ++ "." ++ name) = some (owner, name) := by
  have others : ∀ c ∈ name.toList.reverse, decide (c ≠ '.') = true := fun c hc =>
    decide_eq_true fun heq => h (heq ▸ List.mem_reverse.1 hc)
  have reversed : (owner ++ "." ++ name).toList.reverse =
      name.toList.reverse ++ '.' :: owner.toList.reverse := by
    simp [String.toList_append]
  have parts : (owner ++ "." ++ name).toList.reverse.span (· ≠ '.') =
      (name.toList.reverse, '.' :: owner.toList.reverse) := by
    rw [reversed, List.span_eq_takeWhile_dropWhile, List.takeWhile_append_of_pos others,
      List.dropWhile_append_of_pos others]
    simp
  rw [splitLast, parts]
  simp [String.ofList_toList]

theorem dot_notMem_of_splitLast {path owner name : String}
    (h : splitLast path = some (owner, name)) : '.' ∉ name.toList := by
  rw [splitLast, List.span_eq_takeWhile_dropWhile] at h
  split at h
  · cases h
  · next last rest _ parts =>
    obtain ⟨rfl, -⟩ := Prod.mk.inj parts
    cases h
    intro hc
    rw [String.toList_ofList, List.mem_reverse] at hc
    have other := List.mem_takeWhile_imp hc
    simp at other

/-- A field of a register is found by the path of both names, if the register that is found by the
first name ends up with the list of the field and its name has no dots. -/
theorem lookupField_path_iff {d : Description.Device} {t : FieldScope} {g : FieldAt}
    {owner name : String} (hdot : '.' ∉ owner.toList) (hg : findField g.scope name = some g) :
    lookupField d t (owner ++ "." ++ name) = some g ↔ '.' ∉ name.toList ∧
      ∃ c, findRegister t.registers owner = some c ∧ fieldList d c = some g.scope := by
  have called : g.element.name = name := by simpa using List.find?_some hg
  have dotless (h : lookupField d t (owner ++ "." ++ name) = some g) : '.' ∉ name.toList := by
    unfold lookupField at h
    split at h
    · -- the whole path is longer than the name of the field
      have whole : g.element.name = owner ++ "." ++ name := by simpa using List.find?_some h
      have lengths := congrArg String.length (called.symm.trans whole)
      simp only [String.length_append] at lengths
      have dot : ".".length = 1 := rfl
      omega
    · next last split =>
      obtain ⟨r, -, h⟩ := Option.bind_eq_some_iff.1 h
      obtain ⟨fields, -, h⟩ := Option.bind_eq_some_iff.1 h
      have found : g.element.name = last := by simpa using List.find?_some h
      rw [← called, found]
      exact dot_notMem_of_splitLast split
  constructor
  · intro h
    refine ⟨dotless h, ?_⟩
    simp only [lookupField, splitLast_append (dotless h)] at h
    obtain ⟨c, hc, h⟩ := Option.bind_eq_some_iff.1 h
    obtain ⟨fields, hf, h⟩ := Option.bind_eq_some_iff.1 h
    rw [lookupRegister_of_dotless _ _ hdot] at hc
    obtain rfl := (FieldScope.mem_placed.1 (mem_of_findField h)).1
    exact ⟨c, hc, hf⟩
  · rintro ⟨hname, c, hc, hf⟩
    simp only [lookupField, splitLast_append hname, lookupRegister_of_dotless _ _ hdot, hc]
    exact Option.bind_eq_some_iff.2 ⟨c, rfl, Option.bind_eq_some_iff.2 ⟨g.scope, hf, hg⟩⟩

/-! ## References of a copy -/

/-- In clusters the name of a copy is longer than that of the element it is made for. -/
theorem Placement.Describes.exists_path {doc : Document} {p : Placement}
    {r : Description.Register} (hp : p.IsElement) (h : p.Describes doc r) (hc : p.clusters ≠ []) :
    ∃ path, path ≠ "" ∧ r.name = path ++ p.element.name := by
  obtain ⟨single, hu, rfl⟩ := h
  obtain ⟨outer, ho, hu⟩ := bind_eq_ok_iff.1 hu
  obtain ⟨start, -, hu⟩ := bind_eq_ok_iff.1 hu
  obtain ⟨address, -, hu⟩ := bind_eq_ok_iff.1 hu
  obtain ⟨fields, -, hu⟩ := bind_eq_ok_iff.1 hu
  obtain rfl := Except.ok.inj hu
  exact ⟨outer.path, fun empty => hc ((path_eq_empty_iff hp.clusters ho).1 empty), rfl⟩

/-- A copy stands at the position of its route. -/
theorem IsCopy.index_eq {doc : Document} {entries : List Entry} {route : Route} {a : RegisterAt}
    (h : IsCopy doc entries route a) {n : Nat} (hn : (routesOf entries)[n]? = some route) :
    a.index = n :=
  (List.getElem?_inj (List.getElem?_eq_some_iff.1 h.position).1 (nodup_routesOf entries)).1
    (h.position.trans hn.symm)

/-- Looking up the reference of a copy in a cluster gives the register that bears the name with the
names of the clusters in front, if and only if the reference is renamed. -/
theorem lookupRegister_reference_iff {d : Description.Device} {scope : RegisterScope}
    (distinct : (scope.registers.map (·.name)).Nodup) {b : RegisterAt} (hb : b ∈ scope.placed)
    {p : Placement} (hc : p.clusters ≠ []) {reference : String} (hdot : '.' ∉ reference.toList)
    (name : b.element.name = "_".intercalate (namesOf p.clusters ++ [reference]))
    (dotless : '.' ∉ b.element.name.toList) (longer : b.element.name ≠ reference) :
    lookupRegister d scope (p.reference reference) = some b ↔
      p.siblings.any (·.isRegisterNamed reference) = true := by
  constructor
  · intro reached
    by_contra unwritten
    -- the reference stays as it is, but the copy has a longer name
    rw [Placement.reference, if_neg fun renamed => unwritten renamed.2.2,
      lookupRegister_of_dotless _ _ hdot] at reached
    exact longer (by simpa using List.find?_some reached)
  · intro written
    rw [Placement.reference, if_pos ⟨hc, hdot, written⟩, ← name,
      lookupRegister_of_dotless _ _ dotless, findRegister_name distinct hb]

/-- A register that refers to an element of a register of the same cluster by its name is led to the
copy of that element if and only if some register of the cluster is written with this name. A field
in it that refers to a field of the element by both names is led there if and only if the register
that goes by the first name outside the cluster ends up with the same field list. -/
theorem unrenamed_reference_reaches_iff {doc : Document} {described : Described}
    (hd : doc.describe = .ok described) {scope : RegisterScope}
    (hs : scope.Declared described.device)
    (distinct : (scope.registers.map (·.name)).Nodup)
    (dotless : ∀ r ∈ scope.registers, '.' ∉ r.name.toList) {entries : List Entry}
    (he : doc.registerLists[scope.peripheral]? = some (some entries)) {around : Route}
    {turn : Turn} {p : Placement} (hp : placementAt? [] entries (around ++ [turn]) = some p)
    (hc : p.clusters ≠ []) {k j : Nat} {s : Register}
    (hk : p.siblings[k]? = some (.register s)) {i : Instance}
    (hi : (instances s.name s.array)[j]? = some i) :
    ∃ a ∈ scope.placed, ∃ b ∈ scope.placed,
      IsCopy doc entries (around ++ [turn]) a ∧ IsCopy doc entries (around ++ [⟨k, j⟩]) b ∧
      (p.register.derivedFrom = some i.name →
        ((registerLinks described.device).Next a b ↔
          p.siblings.any (·.isRegisterNamed i.name) = true)) ∧
      ∀ f g name, a.ownFields = some f.scope → f.element.derivedFrom = some (i.name ++ "." ++ name) →
        b.ownFields = some g.scope → findField g.scope name = some g →
        ((fieldLinks described.device).Next f g ↔ '.' ∉ name.toList ∧
          ∃ c, findRegister scope i.name = some c ∧
            fieldList described.device c = some g.scope) := by
  have hp' := placementAt?_sibling_element hp hk hi
  obtain ⟨a, ha, copy, describes⟩ := exists_copy hd hs he hp
  obtain ⟨b, hb, copy', describes'⟩ := exists_copy hd hs he hp'
  have element := isElement_of_placementAt? areElements_nil hp'
  have name : b.element.name = "_".intercalate (namesOf p.clusters ++ [i.name]) :=
    (describes'.name element).1
  obtain ⟨path, nonempty, long⟩ := describes'.exists_path element hc
  have longer : b.element.name ≠ i.name := by
    intro short
    rw [short, eq_comm, String.append_eq_right_iff] at long
    exact nonempty long
  have nodot := dotless _ (List.mem_of_getElem? (RegisterScope.mem_placed.1 hb).2)
  have hdot : '.' ∉ i.name.toList := by
    intro hmem
    rw [long, String.toList_append] at nodot
    exact nodot (List.mem_append_right _ hmem)
  have around_a : a.scope = scope := (RegisterScope.mem_placed.1 ha).1
  refine ⟨a, ha, b, hb, copy, copy', fun href => ?_, fun f g field hf href hg found => ?_⟩
  · have reference : a.element.derivedFrom = some (p.reference i.name) := by
      rw [(describes.name (isElement_of_placementAt? areElements_nil hp)).2, href, Option.map_some]
    have next : (registerLinks described.device).Next a b ↔
        lookupRegister described.device a.scope (p.reference i.name) = some b :=
      Links.next_iff_of_reference reference
    rw [next, around_a, lookupRegister_reference_iff distinct hb hc hdot name nodot longer]
  · have next : (fieldLinks described.device).Next f g ↔
        lookupField described.device f.scope (i.name ++ "." ++ field) = some g :=
      Links.next_iff_of_reference href
    have list : f.scope.registers = scope := by
      obtain ⟨fields, -, own⟩ := Option.map_eq_some_iff.1 hf
      rw [← own]
      exact around_a
    rw [next, lookupField_path_iff hdot found, list]

/-- A field of one bit. -/
def bitField (name : String) (derivedFrom : Option String) (access : Option Access) : Field where
  name
  array := none
  derivedFrom
  access
  bitOffset := 0
  bitWidth := 1
  description := none
  blocks := []

/-- A register of the given size with one field. -/
def bankRegister (name : String) (array : Option ArrayShape) (derivedFrom : Option String)
    (offset : UInt32) (size : Option UInt32) (fields : Option (List Field)) : Register where
  name
  array
  derivedFrom
  addressOffset := offset
  size
  access := none
  description := none
  fields

/-- A document with one peripheral of the given registers. -/
def bankDocument (entries : List Entry) : Document where
  name := "D"
  description := none
  size := none
  access := none
  peripherals := [
    { name := "P", array := none, derivedFrom := none, baseAddress := 0, size := none
      access := none, description := none, registers := some entries }]

/-- The register `ALT` and its field refer to `CTL` in their cluster, from which the register `CTL`
outside takes its fields. -/
def linkedEntries : List Entry := [
  .register (bankRegister "CTL" none (some "CH.CTL") 0 none none),
  .cluster { name := "CH", array := none, addressOffset := 16, size := none, access := none } [
    .register (bankRegister "CTL" none none 0 none (some [bitField "EN" none (some .writeOnly)])),
    .register (bankRegister "ALT" none (some "CTL") 4 none
      (some [bitField "SEL" (some "CTL.EN") none]))]]

/-- Both references reach the register `CTL` of the cluster. -/
theorem linkedDocument_reached : ∃ described,
    (bankDocument linkedEntries).describe = .ok described ∧
    ∃ a b, IsCopy (bankDocument linkedEntries) linkedEntries [⟨1, 0⟩, ⟨1, 0⟩] a ∧
      IsCopy (bankDocument linkedEntries) linkedEntries [⟨1, 0⟩, ⟨0, 0⟩] b ∧
      (registerLinks described.device).Next a b ∧
      ∃ f g, a.ownFields = some f.scope ∧ f.element.derivedFrom = some "CTL.EN" ∧
        b.ownFields = some g.scope ∧ (fieldLinks described.device).Next f g := by
  have computed : ∃ described, (bankDocument linkedEntries).describe = .ok described ∧
      ∃ scope ∈ (placedPeripherals described.device).filterMap PeripheralAt.ownRegisters,
        scope.peripheral = 0 ∧ scope.registers.map (·.name) = ["CTL", "CH_CTL", "CH_ALT"] ∧
        ∃ a ∈ scope.placed, ∃ b ∈ scope.placed, a.index = 2 ∧ b.index = 1 ∧
          ((a.ownFields.bind (findField · "SEL")).bind (·.element.derivedFrom)) = some "CTL.EN" ∧
          (b.ownFields.bind (findField · "EN")).isSome = true ∧
          (findRegister scope "CTL").bind (fieldList described.device) = b.ownFields :=
    exists_ok_of_decide (by decide +kernel)
  obtain ⟨described, hd, scope, hscope, hperipheral, names, a, ha, b, hb, hai, hbi, href, hg,
    list⟩ := computed
  obtain ⟨f, hf, href⟩ := Option.bind_eq_some_iff.1 href
  obtain ⟨t, ht, hf⟩ := Option.bind_eq_some_iff.1 hf
  obtain ⟨g, hg⟩ := Option.isSome_iff_exists.1 hg
  obtain ⟨u, hu, hg⟩ := Option.bind_eq_some_iff.1 hg
  rw [hu] at list
  obtain ⟨c, hc, list⟩ := Option.bind_eq_some_iff.1 list
  obtain rfl := (FieldScope.mem_placed.1 (mem_of_findField hf)).1
  obtain rfl := (FieldScope.mem_placed.1 (mem_of_findField hg)).1
  have declared : scope.Declared described.device := List.mem_filterMap.1 hscope
  have distinct : (scope.registers.map (·.name)).Nodup := by
    rw [names]
    decide
  have dotless : ∀ r ∈ scope.registers, '.' ∉ r.name.toList := by
    have all : ∀ name ∈ scope.registers.map (·.name), '.' ∉ name.toList := by
      rw [names]
      decide +kernel
    exact fun r hr => all r.name (List.mem_map_of_mem hr)
  have written : (bankDocument linkedEntries).registerLists[scope.peripheral]? =
      some (some linkedEntries) := by
    rw [hperipheral]
    rfl
  have hp : placementAt? [] linkedEntries ([⟨1, 0⟩] ++ [⟨1, 0⟩]) = some _ := rfl
  obtain ⟨a', ha', b', hb', copy, copy', register, field⟩ :=
    unrenamed_reference_reaches_iff hd declared distinct dotless written hp (by simp) (k := 0)
      (j := 0) rfl rfl
  obtain rfl := eq_of_index ha ha' (hai.trans (copy.index_eq (n := 2) rfl).symm)
  obtain rfl := eq_of_index hb hb' (hbi.trans (copy'.index_eq (n := 1) rfl).symm)
  refine ⟨described, hd, a, b, copy, copy', (register rfl).2 rfl, f, g, ht, href, hu, ?_⟩
  exact (field f g "EN" ht href hu hg).2 ⟨by decide +kernel, c, hc, list⟩

/-- The registers `CFG0` and `CTL` stand outside a cluster, and others of these names in it. -/
def bankEntries : List Entry := [
  .register (bankRegister "CFG0" none none 0 (some 8) none),
  .register (bankRegister "CTL" none none 4 none (some [bitField "EN" none (some .readOnly)])),
  .cluster { name := "CH", array := none, addressOffset := 16, size := none, access := none } [
    .register (bankRegister "CFG%s" (some ⟨2, 4, []⟩) none 0 (some 16) none),
    .register (bankRegister "ALT" none (some "CFG0") 8 none none),
    .register (bankRegister "CTL" none none 12 none (some [bitField "EN" none (some .writeOnly)])),
    .register (bankRegister "MODE" none none 16 none (some [bitField "SEL" (some "CTL.EN") none]))]]

/-- The names are distinct, have no dots and are not that of the peripheral. Still the references of
`ALT` to an element of `CFG%s` and of the field of `MODE` to that of `CTL` do not point into the
cluster, but to the registers of the same names outside. -/
theorem bankDocument_unreached : ∃ described,
    (bankDocument bankEntries).describe = .ok described ∧
    described.device.peripherals.map (·.name) = ["P"] ∧
    (declaredRegisters described.device).map (·.element.name) =
      ["CFG0", "CTL", "CH_CFG0", "CH_CFG1", "CH_ALT", "CH_CTL", "CH_MODE"] ∧
    (∃ a ∈ declaredRegisters described.device, ∃ b ∈ declaredRegisters described.device,
      ∃ c ∈ declaredRegisters described.device,
        a.element.name = "CH_ALT" ∧ b.element.name = "CH_CFG0" ∧ c.element.name = "CFG0" ∧
        ¬ (registerLinks described.device).Next a b ∧
        (registerLinks described.device).Next a c) ∧
    ∃ f ∈ declaredFields described.device, ∃ g ∈ declaredFields described.device,
      ∃ h ∈ declaredFields described.device,
        (f.scope.register, f.element.name) = (6, "SEL") ∧
        (g.scope.register, g.element.name) = (5, "EN") ∧
        (h.scope.register, h.element.name) = (1, "EN") ∧
        ¬ (fieldLinks described.device).Next f g ∧ (fieldLinks described.device).Next f h :=
  exists_ok_of_decide (by decide +kernel)

end RegisterHeaders.Svd
