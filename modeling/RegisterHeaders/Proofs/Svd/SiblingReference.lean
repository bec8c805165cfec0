import Mathlib.Data.List.TakeDrop
import RegisterHeaders.Proofs.DottedPath
import RegisterHeaders.Proofs.Svd.Flattening

/-!
# References between the registers of a cluster

A register may refer to another register of its cluster by the bare name. Flattening renames both in
the same way, so the reference of every copy of the one register is the name of the copy of the
other in the same element of the cluster. If the names in the flattened list are distinct and have
no dots, looking the reference up there finds this copy and no other (`lookupRegister_sibling`).
-/

namespace RegisterHeaders.Svd

open RegisterHeaders.Derivation Steps

/-! ## Lookup by name -/

theorem eq_of_index {scope : RegisterScope} {r s : RegisterAt} (hr : r ∈ scope.placed)
    (hs : s ∈ scope.placed) (h : r.index = s.index) : r = s := by
  obtain ⟨hrs, hr⟩ := RegisterScope.mem_placed.1 hr
  obtain ⟨hss, hs⟩ := RegisterScope.mem_placed.1 hs
  rw [h, hs] at hr
  cases r
  cases s
  cases hrs
  cases hss
  cases h
  cases hr
  rfl

/-- In a list of distinct names every register is found by its name. -/
theorem findRegister_name {scope : RegisterScope}
    (distinct : (scope.registers.map (·.name)).Nodup) {r : RegisterAt} (hr : r ∈ scope.placed) :
    findRegister scope r.element.name = some r := by
  cases hfind : findRegister scope r.element.name with
  | none =>
    have absent := List.find?_eq_none.1 hfind r hr
    simp at absent
  | some found =>
    have name : found.element.name = r.element.name := by simpa using List.find?_some hfind
    have hfound := mem_of_findRegister hfind
    have get := (RegisterScope.mem_placed.1 hr).2
    have getFound := (RegisterScope.mem_placed.1 hfound).2
    have bound : found.index < (scope.registers.map (·.name)).length := by
      rw [List.length_map]
      exact (List.getElem?_eq_some_iff.1 getFound).1
    have index : found.index = r.index := by
      refine (List.getElem?_inj bound distinct).1 ?_
      rw [List.getElem?_map, List.getElem?_map, get, getFound, Option.map_some, Option.map_some,
        name]
    rw [eq_of_index hfound hr index]

/-- A path without dots is a name in the list itself. -/
theorem lookupRegister_of_dotless (d : Description.Device) (scope : RegisterScope) {path : String}
    (h : '.' ∉ path.toList) : lookupRegister d scope path = findRegister scope path := by
  rw [lookupRegister, splitFirst_of_dotless h, flatName_of_dotless h]

/-! ## The copies of a register -/

/-- `a` is the copy that flattening `entries` makes for a route: it stands at the position of the
route in document order and says what the placement at the end of the route says. -/
structure IsCopy (doc : Document) (entries : List Entry) (route : Route) (a : RegisterAt) :
    Prop where
  position : (routesOf entries)[a.index]? = some route
  describes : ∃ p, placementAt? [] entries route = some p ∧ p.Describes doc a.element

/-- Every route that leads to a placement has a copy in the flattened list. -/
theorem exists_copy {doc : Document} {described : Described} (h : doc.describe = .ok described)
    {scope : RegisterScope} (hs : scope.Declared described.device) {entries : List Entry}
    (he : doc.registerLists[scope.peripheral]? = some (some entries)) {route : Route}
    {p : Placement} (hp : placementAt? [] entries route = some p) :
    ∃ a ∈ scope.placed, IsCopy doc entries route a ∧ p.Describes doc a.element := by
  obtain ⟨q, hq, hscope⟩ := hs
  obtain ⟨registers, hregs, rfl⟩ := Option.map_eq_some_iff.1 hscope
  obtain ⟨list, hl, singles, hu, hsingles⟩ :=
    forall₂_getElem? (describe_registerLists h) (mem_placedPeripherals.1 hq)
  obtain rfl := Option.some.inj (hl.symm.trans he)
  rw [Option.mapM_some, map_eq_ok_iff] at hu
  obtain ⟨rs, hu, rfl⟩ := hu
  rw [hregs, Option.map_some, Option.some.injEq] at hsingles
  -- the position of the route is that of the placement and of the single register
  obtain ⟨n, hn⟩ := List.getElem?_of_mem (mem_routesOf_iff.2 ⟨p, hp⟩)
  obtain ⟨p', hp', hroute⟩ := forall₂_getElem? (placementAt?_routesOf entries).flip hn
  obtain rfl := Option.some.inj (hroute.symm.trans hp)
  obtain ⟨r, hr, hunroll⟩ := forall₂_getElem? (unrollRegisters_placements hu).flip hp'
  have describes : p'.Describes doc (r.describe doc) := ⟨r, hunroll, rfl⟩
  refine ⟨⟨⟨q.index, registers⟩, n, r.describe doc⟩, ?_, ⟨hn, p', hp, describes⟩, describes⟩
  rw [RegisterScope.mem_placed]
  refine ⟨rfl, ?_⟩
  rw [hsingles, List.getElem?_map, hr, Option.map_some]

/-- What the copy of a register says of its name and its reference. -/
theorem Placement.Describes.name {doc : Document} {p : Placement} {r : Description.Register}
    (hp : p.IsElement) (h : p.Describes doc r) :
    r.name = "_".intercalate (namesOf p.clusters ++ [p.element.name]) ∧
      r.derivedFrom = p.register.derivedFrom.map p.reference := by
  obtain ⟨single, hu, rfl⟩ := h
  have gives := Placement.gives_of_unroll hp hu
  exact ⟨gives.name, gives.derivedFrom⟩

/-! ## Siblings -/

/-- The route to an element of a register beside the one that a route leads to ends in another
turn. -/
theorem placementAt?_sibling_element {clusters : List (Cluster × Instance)} {entries : List Entry}
    {around : Route} {turn : Turn} {p : Placement}
    (hp : placementAt? clusters entries (around ++ [turn]) = some p) {k j : Nat} {s : Register}
    (hk : p.siblings[k]? = some (.register s)) {i : Instance}
    (hi : (instances s.name s.array)[j]? = some i) :
    placementAt? clusters entries (around ++ [⟨k, j⟩]) = some ⟨s, i, p.siblings, p.clusters⟩ := by
  induction around generalizing clusters entries with
  | nil =>
    rw [List.nil_append, placementAt?] at hp
    split at hp
    · cases hp
    · rw [if_pos rfl] at hp
      obtain ⟨i, -, rfl⟩ := Option.map_eq_some_iff.1 hp
      simp [placementAt?, hk, hi]
    · obtain ⟨i, -, hp⟩ := Option.bind_eq_some_iff.1 hp
      cases hp
  | cons first around ih =>
    rw [List.cons_append, placementAt?] at hp ⊢
    split at hp
    · cases hp
    · rw [if_neg (by simp)] at hp
      cases hp
    · obtain ⟨i, hi, hp⟩ := Option.bind_eq_some_iff.1 hp
      exact Option.bind_eq_some_iff.2 ⟨i, hi, ih hp⟩

theorem placementAt?_sibling {clusters : List (Cluster × Instance)} {entries : List Entry}
    {around : Route} {turn : Turn} {p : Placement}
    (hp : placementAt? clusters entries (around ++ [turn]) = some p) {k : Nat} {s : Register}
    (hk : p.siblings[k]? = some (.register s)) (single : s.array = none) :
    placementAt? clusters entries (around ++ [⟨k, 0⟩]) =
      some ⟨s, ⟨s.name, 0, 0⟩, p.siblings, p.clusters⟩ :=
  placementAt?_sibling_element hp hk (by rw [single]; rfl)

/-- A reference to a register of the same cluster is looked up as the copy of that register in the
same element of the cluster. -/
theorem lookupRegister_sibling {doc : Document} {described : Described}
    (hd : doc.describe = .ok described) {scope : RegisterScope}
    (hs : scope.Declared described.device)
    (distinct : (scope.registers.map (·.name)).Nodup)
    (dotless : ∀ r ∈ scope.registers, '.' ∉ r.name.toList) {entries : List Entry}
    (he : doc.registerLists[scope.peripheral]? = some (some entries)) {around : Route}
    {turn : Turn} {p : Placement} (hp : placementAt? [] entries (around ++ [turn]) = some p)
    (hc : p.clusters ≠ []) {k : Nat} {s : Register} (hk : p.siblings[k]? = some (.register s))
    (single : s.array = none) (href : p.register.derivedFrom = some s.name)
    (hdot : '.' ∉ s.name.toList) :
    ∃ a ∈ scope.placed, ∃ b ∈ scope.placed, ∃ reference,
      IsCopy doc entries (around ++ [turn]) a ∧ IsCopy doc entries (around ++ [⟨k, 0⟩]) b ∧
      a.element.derivedFrom = some reference ∧
      lookupRegister described.device scope reference = some b := by
  have hp' := placementAt?_sibling hp hk single
  obtain ⟨a, ha, copy, describes⟩ := exists_copy hd hs he hp
  obtain ⟨b, hb, copy', describes'⟩ := exists_copy hd hs he hp'
  have derived := (describes.name (isElement_of_placementAt? areElements_nil hp)).2
  have name := (describes'.name (isElement_of_placementAt? areElements_nil hp')).1
  -- the copy of the sibling has the name that the reference is given
  have reference : p.reference s.name = b.element.name := by
    have sibling : p.siblings.any (·.isRegisterNamed s.name) = true :=
      List.any_eq_true.2 ⟨_, List.mem_of_getElem? hk, decide_eq_true rfl⟩
    rw [Placement.reference, if_pos ⟨hc, hdot, sibling⟩, name]
  refine ⟨a, ha, b, hb, b.element.name, copy, copy', ?_, ?_⟩
  · rw [derived, href, Option.map_some, reference]
  · have nodot := dotless _ (List.mem_of_getElem? (RegisterScope.mem_placed.1 hb).2)
    rw [lookupRegister_of_dotless _ _ nodot, findRegister_name distinct hb]

/-- A register without fields of the given name and reference. -/
def channelRegister (name : String) (derivedFrom : Option String) (offset : UInt32) : Register where
  name
  array := none
  derivedFrom
  addressOffset := offset
  size := none
  access := none
  description := none
  fields := none

/-- Two channels with a register that derives from its neighbour. -/
def channelEntries : List Entry :=
  [.cluster
    { name := "CH%s", array := some ⟨2, 16, []⟩, addressOffset := 0, size := none, access := none }
    [.register (channelRegister "CFG" none 0), .register (channelRegister "ALT" (some "CFG") 4)]]

/-- A document with the two channels. -/
def channelDocument : Document where
  name := "D"
  description := none
  size := none
  access := none
  peripherals := [
    { name := "P", array := none, derivedFrom := none, baseAddress := 0, size := none
      access := none, description := none, registers := some channelEntries }]

/-- The register `ALT` of the second channel refers to `CH1_CFG`, not to `CH0_CFG`. -/
theorem channelDocument_sibling : ∃ described, channelDocument.describe = .ok described ∧
    ∃ scope : RegisterScope, scope.Declared described.device ∧
      scope.registers.map (·.name) = ["CH0_CFG", "CH0_ALT", "CH1_CFG", "CH1_ALT"] ∧
      ∃ a ∈ scope.placed, ∃ b ∈ scope.placed, ∃ reference,
        IsCopy channelDocument channelEntries [⟨0, 1⟩, ⟨1, 0⟩] a ∧
        IsCopy channelDocument channelEntries [⟨0, 1⟩, ⟨0, 0⟩] b ∧
        a.element.derivedFrom = some reference ∧
        lookupRegister described.device scope reference = some b := by
  have computed : (channelDocument.describe.toOption.any fun described : Described =>
      (placedPeripherals described.device).any fun p => p.ownRegisters.any fun scope =>
        decide (scope.peripheral = 0 ∧
          scope.registers.map (·.name) = ["CH0_CFG", "CH0_ALT", "CH1_CFG", "CH1_ALT"])) = true := by
    decide +kernel
  obtain ⟨described, hd, computed⟩ := any_toOption_iff.1 computed
  obtain ⟨p, hp, computed⟩ := List.any_eq_true.1 computed
  obtain ⟨scope, hs, computed⟩ := (Option.any_eq_true _ _).1 computed
  obtain ⟨hperipheral, names⟩ := of_decide_eq_true computed
  have declared : scope.Declared described.device := ⟨p, hp, hs⟩
  refine ⟨described, hd, scope, declared, names, ?_⟩
  have distinct : (scope.registers.map (·.name)).Nodup := by
    rw [names]
    decide
  have dotless : ∀ r ∈ scope.registers, '.' ∉ r.name.toList := by
    have all : ∀ name ∈ scope.registers.map (·.name), '.' ∉ name.toList := by
      rw [names]
      decide +kernel
    exact fun r hr => all r.name (List.mem_map_of_mem hr)
  have list : channelDocument.registerLists[scope.peripheral]? = some (some channelEntries) := by
    rw [hperipheral]
    rfl
  have hp : placementAt? [] channelEntries ([⟨0, 1⟩] ++ [⟨1, 0⟩]) = some _ := rfl
  exact lookupRegister_sibling hd declared distinct dotless list hp (by simp) rfl rfl rfl
    (by decide +kernel)

end RegisterHeaders.Svd
