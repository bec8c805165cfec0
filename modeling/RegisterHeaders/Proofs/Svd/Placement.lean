import RegisterHeaders.Proofs.Derivation.Place
import RegisterHeaders.Proofs.Steps
import RegisterHeaders.Svd.Description

/-!
# Where the registers of a description stem from

A register list of a document stands for single registers, one for every choice of an element in the
arrays on the way to a register. `Placement` records such a choice: the register, its element, and
the elements of the clusters around it. Unrolling a list unrolls its placements one by one
(`unrollRegisters_placements`), so an attribute of a single register can be read off its placement.
Every register of the description that a document makes stems from one placement (`exists_stem`).
-/

namespace RegisterHeaders.Svd

open RegisterHeaders.Derivation Steps

/-! ## Placements -/

/-- A single register of a register list. -/
structure Placement where
  register : Register
  element : Instance
  /-- The entries of the list that the register is written in. -/
  siblings : List Entry
  /-- The elements of the clusters around it, the innermost first. -/
  clusters : List (Cluster × Instance)

mutual

/-- The placements in an entry among `siblings` in the given clusters. -/
def Entry.placements (clusters : List (Cluster × Instance)) (siblings : List Entry) :
    Entry → List Placement
  | .register r => (instances r.name r.array).map fun i => ⟨r, i, siblings, clusters⟩
  | .cluster c entries =>
    (instances c.name c.array).flatMap fun i => placementsIn ((c, i) :: clusters) entries entries

/-- The placements in a list of entries among `siblings` in the given clusters. -/
def placementsIn (clusters : List (Cluster × Instance)) (siblings : List Entry) :
    List Entry → List Placement
  | [] => []
  | entry :: rest => entry.placements clusters siblings ++ placementsIn clusters siblings rest

end

/-- The placements in a register list, in document order. -/
def placementsOf (entries : List Entry) : List Placement :=
  placementsIn [] entries entries

/-- What surrounds the entries of the innermost of some clusters. -/
def surroundingsOf : List (Cluster × Instance) → Except Overflow Surroundings
  | [] => .ok .outside
  | (c, i) :: outer => do c.surroundings (← surroundingsOf outer) i

/-- The single register of one element of a register. -/
def Register.unrollElement (outer : Surroundings) (siblings : List Entry) (r : Register)
    (i : Instance) : Except Overflow SingleRegister := do
  let start ← Checked.addAddress outer.offset r.addressOffset.toUInt64
  let addressOffset ← i.address start
  let fields ← r.fields.mapM unrollFields
  return {
    name := outer.path ++ i.name
    derivedFrom := r.derivedFrom.map (outer.reference siblings)
    addressOffset
    size := r.size.or outer.size
    access := r.access.or outer.access
    description := r.description
    fields }

/-- The single register of a placement. -/
def Placement.unroll (p : Placement) : Except Overflow SingleRegister := do
  p.register.unrollElement (← surroundingsOf p.clusters) p.siblings p.element

/-- The size that the nearest cluster around a placement gives, if any does. -/
def Placement.clusterSize (p : Placement) : Option UInt32 :=
  p.clusters.findSome? (·.1.size)

/-- The access that the nearest cluster around a placement gives, if any does. -/
def Placement.clusterAccess (p : Placement) : Option Access :=
  p.clusters.findSome? (·.1.access)

/-! ## Unrolling -/

theorem Register.unroll_eq (outer : Surroundings) (siblings : List Entry) (r : Register) :
    r.unroll outer siblings =
      (instances r.name r.array).mapM (r.unrollElement outer siblings) :=
  rfl

theorem forall₂_flatMap_flatten {α β γ : Type} {R : α → γ → Prop} {f : β → List α} {xs : List β}
    {ys : List (List γ)} (h : List.Forall₂ (fun x y => List.Forall₂ R (f x) y) xs ys) :
    List.Forall₂ R (xs.flatMap f) ys.flatten := by
  induction h with
  | nil => exact .nil
  | cons hxy _ ih => exact List.rel_append hxy ih

mutual

/-- Unrolling an entry unrolls its placements. -/
theorem Entry.unroll_placements {clusters : List (Cluster × Instance)} {outer : Surroundings}
    (h : surroundingsOf clusters = .ok outer) (siblings : List Entry) (entry : Entry)
    {rs : List SingleRegister} (hr : entry.unroll outer siblings = .ok rs) :
    List.Forall₂ (fun p r => p.unroll = .ok r) (entry.placements clusters siblings) rs := by
  cases entry with
  | register r =>
    rw [Entry.unroll, Register.unroll_eq, mapM_eq_ok_iff] at hr
    rw [Entry.placements, List.forall₂_map_left_iff]
    refine hr.imp fun i s hs => ?_
    rw [Placement.unroll, h]
    exact hs
  | cluster c entries =>
    rw [Entry.unroll] at hr
    obtain ⟨elements, he, hr⟩ := bind_eq_ok_iff.1 hr
    obtain rfl := Except.ok.inj hr
    rw [Entry.placements]
    -- one element of the cluster: its entries are unrolled inside it, and it joins the clusters
    refine forall₂_flatMap_flatten ((mapM_eq_ok_iff.1 he).imp fun i element hi => ?_)
    obtain ⟨inner, hs, hi⟩ := bind_eq_ok_iff.1 hi
    have hinner : surroundingsOf ((c, i) :: clusters) = .ok inner := by
      rw [surroundingsOf, h]
      exact hs
    exact unrollEntries_placements hinner entries entries hi

/-- Unrolling a list of entries unrolls its placements. -/
theorem unrollEntries_placements {clusters : List (Cluster × Instance)} {outer : Surroundings}
    (h : surroundingsOf clusters = .ok outer) (siblings : List Entry) (entries : List Entry)
    {rs : List SingleRegister} (hr : unrollEntries outer siblings entries = .ok rs) :
    List.Forall₂ (fun p r => p.unroll = .ok r) (placementsIn clusters siblings entries) rs := by
  cases entries with
  | nil =>
    obtain rfl := Except.ok.inj hr
    exact .nil
  | cons entry rest =>
    rw [unrollEntries] at hr
    obtain ⟨first, hf, hr⟩ := bind_eq_ok_iff.1 hr
    obtain ⟨others, ho, hr⟩ := bind_eq_ok_iff.1 hr
    obtain rfl := Except.ok.inj hr
    rw [placementsIn]
    exact List.rel_append (entry.unroll_placements h siblings hf)
      (unrollEntries_placements h siblings rest ho)

end

/-- Unrolling a register list unrolls its placements. -/
theorem unrollRegisters_placements {entries : List Entry} {rs : List SingleRegister}
    (h : unrollRegisters entries = .ok rs) :
    List.Forall₂ (fun p r => p.unroll = .ok r) (placementsOf entries) rs :=
  unrollEntries_placements rfl entries entries h

/-! ## The attributes of a single register -/

theorem defaults_of_surroundingsOf {clusters : List (Cluster × Instance)} {s : Surroundings}
    (h : surroundingsOf clusters = .ok s) :
    s.size = clusters.findSome? (·.1.size) ∧ s.access = clusters.findSome? (·.1.access) := by
  induction clusters generalizing s with
  | nil =>
    obtain rfl := Except.ok.inj h
    exact ⟨rfl, rfl⟩
  | cons ci clusters ih =>
    obtain ⟨c, i⟩ := ci
    rw [surroundingsOf] at h
    obtain ⟨outer, ho, h⟩ := bind_eq_ok_iff.1 h
    rw [Cluster.surroundings] at h
    obtain ⟨start, -, h⟩ := bind_eq_ok_iff.1 h
    obtain ⟨offset, -, h⟩ := bind_eq_ok_iff.1 h
    obtain rfl := Except.ok.inj h
    obtain ⟨hsize, haccess⟩ := ih ho
    rw [findSome?_cons_eq_or, findSome?_cons_eq_or, ← hsize, ← haccess]
    exact ⟨rfl, rfl⟩

/-- A single register has the size and the access that are written in its register, or else those of
the nearest cluster that gives them. -/
theorem Placement.attributes_of_unroll {p : Placement} {r : SingleRegister}
    (h : p.unroll = .ok r) :
    r.size = p.register.size.or p.clusterSize ∧
      r.access = p.register.access.or p.clusterAccess := by
  rw [Placement.unroll] at h
  obtain ⟨outer, ho, h⟩ := bind_eq_ok_iff.1 h
  rw [Register.unrollElement] at h
  obtain ⟨start, -, h⟩ := bind_eq_ok_iff.1 h
  obtain ⟨offset, -, h⟩ := bind_eq_ok_iff.1 h
  obtain ⟨fields, -, h⟩ := bind_eq_ok_iff.1 h
  obtain rfl := Except.ok.inj h
  obtain ⟨hsize, haccess⟩ := defaults_of_surroundingsOf ho
  exact ⟨by rw [hsize]; rfl, by rw [haccess]; rfl⟩

/-! ## The registers of a document -/

/-- The placements in the register list of a peripheral. -/
def Peripheral.placements (p : Peripheral) : List Placement :=
  p.registers.elim [] placementsOf

/-- The placements in the register lists of the single peripherals of a document. -/
def Document.placements (doc : Document) : List (List Placement) :=
  doc.peripherals.flatMap fun p => (instances p.name p.array).map fun _ => p.placements

/-- A described register stems from a placement: both are at the same position of the register list
of the same single peripheral. -/
def Stems (doc : Document) (r : RegisterAt) (p : Placement) : Prop :=
  ∃ list, doc.placements[r.scope.peripheral]? = some list ∧ list[r.index]? = some p

/-- A described register says what the single register of a placement says. -/
def Placement.Describes (doc : Document) (p : Placement) (r : Description.Register) : Prop :=
  ∃ single, p.unroll = .ok single ∧ single.describe doc = r

/-- Unrolling the register list of a peripheral, if it has one, unrolls its placements. -/
theorem elim_placementsOf_of_mapM {list : Option (List Entry)}
    {registers : Option (List SingleRegister)}
    (h : list.mapM unrollRegisters = .ok registers) :
    List.Forall₂ (fun p r => p.unroll = .ok r) (list.elim [] placementsOf)
      (registers.getD []) := by
  cases list with
  | none =>
    obtain rfl := Except.ok.inj h
    exact .nil
  | some entries =>
    rw [Option.mapM_some, map_eq_ok_iff] at h
    obtain ⟨singles, hs, rfl⟩ := h
    exact unrollRegisters_placements hs

/-- The register lists of the single peripherals of a document, as they are written. -/
def Document.registerLists (doc : Document) : List (Option (List Entry)) :=
  doc.peripherals.flatMap fun p => (instances p.name p.array).map fun _ => p.registers

/-- The registers of a description are those of the written lists, unrolled. -/
theorem describe_registerLists {doc : Document} {described : Described}
    (h : doc.describe = .ok described) :
    List.Forall₂
      (fun list (p : Description.Peripheral) => ∃ singles, list.mapM unrollRegisters = .ok singles ∧
        p.registers = singles.map fun registers => registers.map (·.describe doc))
      doc.registerLists described.device.peripherals := by
  rw [Document.describe] at h
  obtain ⟨singles, hs, h⟩ := bind_eq_ok_iff.1 h
  obtain rfl := Except.ok.inj h
  rw [Document.unroll] at hs
  obtain ⟨lists, hl, hs⟩ := bind_eq_ok_iff.1 hs
  obtain rfl := Except.ok.inj hs
  rw [List.forall₂_map_right_iff]
  refine forall₂_flatMap_flatten ((mapM_eq_ok_iff.1 hl).imp fun p list hp => ?_)
  rw [Peripheral.unroll, mapM_eq_ok_iff] at hp
  rw [List.forall₂_map_left_iff]
  refine hp.imp fun i single hi => ?_
  obtain ⟨address, -, hi⟩ := bind_eq_ok_iff.1 hi
  obtain ⟨registers, hr, hi⟩ := bind_eq_ok_iff.1 hi
  obtain rfl := Except.ok.inj hi
  exact ⟨registers, hr, rfl⟩

theorem placements_eq_map (doc : Document) :
    doc.placements = doc.registerLists.map fun list => list.elim [] placementsOf := by
  simp [Document.placements, Document.registerLists, Peripheral.placements, List.map_flatMap]

/-- The registers of a description are what the placements of the document say. -/
theorem describe_placements {doc : Document} {described : Described}
    (h : doc.describe = .ok described) :
    List.Forall₂
      (fun list (p : Description.Peripheral) =>
        List.Forall₂ (Placement.Describes doc) list (p.registers.getD []))
      doc.placements described.device.peripherals := by
  rw [placements_eq_map, List.forall₂_map_left_iff]
  refine (describe_registerLists h).imp fun list p hlist => ?_
  obtain ⟨singles, hu, hp⟩ := hlist
  have hregs : p.registers.getD [] = (singles.getD []).map (·.describe doc) := by
    rw [hp]
    cases singles <;> rfl
  rw [hregs, List.forall₂_map_right_iff]
  exact (elim_placementsOf_of_mapM hu).imp fun placement single hs => ⟨single, hs, rfl⟩

/-- Every register of the description of a document stems from a placement, and says what the single
register of that placement says. -/
theorem exists_stem {doc : Document} {described : Described} (h : doc.describe = .ok described)
    {r : RegisterAt} (hr : r ∈ declaredRegisters described.device) :
    ∃ p, Stems doc r p ∧ p.Describes doc r.element := by
  obtain ⟨⟨p, hp, hs⟩, hr⟩ := scope_declared_of_mem hr
  obtain ⟨registers, hregs, hscope⟩ := Option.map_eq_some_iff.1 hs
  obtain ⟨list, hl, hlist⟩ := forall₂_getElem? (describe_placements h) (mem_placedPeripherals.1 hp)
  rw [hregs, Option.getD_some] at hlist
  have hi := (RegisterScope.mem_placed.1 hr).2
  rw [← hscope] at hi
  obtain ⟨placement, hpl, hd⟩ := forall₂_getElem? hlist hi
  refine ⟨placement, ⟨list, ?_, hpl⟩, hd⟩
  rw [← hscope]
  exact hl

end RegisterHeaders.Svd
