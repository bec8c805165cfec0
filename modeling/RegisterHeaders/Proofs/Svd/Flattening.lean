import Mathlib.Algebra.Ring.Nat
import RegisterHeaders.Proofs.Overflow
import RegisterHeaders.Proofs.Svd.ArrayElement
import RegisterHeaders.Proofs.Svd.Route

/-!
# What a register list stands for

Unrolling a register list gives one single register for every route, in document order, and nothing
else. Its name joins the names of the elements on the route, its address offset is the exact sum of
the offsets and distances on the route, and its size and access are those of the register or else of
the innermost cluster that has them (`Placement.Gives`). What the elements of an array are says
`IsElementAt`. This holds whenever all sums fit into their words (`Fits`), and only then does
unrolling give anything.
-/

namespace RegisterHeaders.Svd

open Checked Steps

/-! ## Elements of arrays -/

/-- The exact distance of an element from the first one of its array. -/
def Instance.distance (i : Instance) : Nat :=
  i.position * i.increment.toNat

section Element

variable {name : String} {shape : Option ArrayShape} {i : Instance}

/-- The distance of an element fits into a 64-bit word, so its product there is exact. -/
theorem Instance.toNat_product (h : i ∈ instances name shape) :
    (i.position.toUInt64 * i.increment.toUInt64).toNat = i.distance := by
  have position : i.position.toUInt64.toNat = i.position :=
    Nat.mod_eq_of_lt (Nat.lt_trans (position_lt h) (by decide))
  have fits : i.position * i.increment.toNat < 2 ^ 32 * 2 ^ 32 :=
    Nat.mul_lt_mul'' (Nat.lt_trans (position_lt h) (by decide)) i.increment.toNat_lt
  rw [UInt64.toNat_mul, position, UInt32.toNat_toUInt64]
  exact Nat.mod_eq_of_lt fits

theorem Instance.address_eq_ok_iff (h : i ∈ instances name shape) {start a : UInt64} :
    i.address start = .ok a ↔ a.toNat = start.toNat + i.distance := by
  rw [address, addAddress_eq_ok_iff, toNat_product h]

theorem Instance.bitOffset_eq_ok_iff (h : i ∈ instances name shape) {start b : UInt32} :
    i.bitOffset start = .ok b ↔ b.toNat = start.toNat + i.distance := by
  have position : i.position.toUInt32.toNat = i.position :=
    Nat.mod_eq_of_lt (Nat.lt_trans (position_lt h) (by decide))
  simp only [bitOffset, bind_eq_ok_iff, mulOffset_eq_ok_iff, addOffset_eq_ok_iff, position]
  constructor
  · rintro ⟨product, hp, hb⟩
    rw [hb, hp, distance]
  · intro hb
    have fits : i.distance < 2 ^ 32 := by
      have := b.toNat_lt
      omega
    exact ⟨UInt32.ofNat i.distance, UInt32.toNat_ofNat_of_lt' fits,
      by rw [hb, UInt32.toNat_ofNat_of_lt' fits]⟩

end Element

/-! ## Fields -/

/-- The single fields of a field: their names, their exact bit offsets and where they stem from. -/
def Field.elements (f : Field) : List (String × Nat × Field) :=
  (instances f.name f.array).map fun i => (i.name, f.bitOffset.toNat + i.distance, f)

/-- What a single field says. -/
def SingleField.content (s : SingleField) : String × Nat × Field :=
  (s.name, s.bitOffset.toNat, s.field)

theorem Field.elements_of_unroll {f : Field} {singles : List SingleField}
    (h : f.unroll = .ok singles) : singles.map SingleField.content = f.elements := by
  rw [unroll, mapM_eq_ok_iff] at h
  rw [elements, eq_comm, ← List.forall₂_eq_eq_eq, List.forall₂_map_left_iff,
    List.forall₂_map_right_iff]
  refine forall₂_imp_of_mem h fun i hi s hs => ?_
  obtain ⟨offset, ho, hs⟩ := bind_eq_ok_iff.1 hs
  obtain rfl := Except.ok.inj hs
  rw [SingleField.content, (Instance.bitOffset_eq_ok_iff hi).1 ho]

theorem elements_of_unrollFields {fields : List Field} {singles : List SingleField}
    (h : unrollFields fields = .ok singles) :
    singles.map SingleField.content = fields.flatMap Field.elements := by
  obtain ⟨lists, hl, h⟩ := bind_eq_ok_iff.1 h
  obtain rfl := Except.ok.inj h
  have contents : fields.map Field.elements = lists.map (·.map SingleField.content) := by
    rw [← List.forall₂_eq_eq_eq, List.forall₂_map_left_iff, List.forall₂_map_right_iff]
    exact (mapM_eq_ok_iff.1 hl).imp fun f list hf => (Field.elements_of_unroll hf).symm
  rw [List.map_flatten, ← contents, List.flatMap]

theorem exists_unrollFields_iff {fields : List Field} :
    (∃ singles, unrollFields fields = .ok singles) ↔
      ∀ f ∈ fields, ∀ i ∈ instances f.name f.array,
        f.bitOffset.toNat + i.distance < 2 ^ 32 := by
  have element {f : Field} {i : Instance} (hi : i ∈ instances f.name f.array) :
      (∃ b, i.bitOffset f.bitOffset = .ok b) ↔ f.bitOffset.toNat + i.distance < 2 ^ 32 := by
    simp only [Instance.bitOffset_eq_ok_iff hi]
    exact ⟨fun ⟨b, hb⟩ => hb ▸ b.toNat_lt, fun h => ⟨_, UInt32.toNat_ofNat_of_lt' h⟩⟩
  simp only [unrollFields, exists_bind_eq_ok_iff, pure, Except.pure, Except.ok.injEq, exists_eq',
    and_true, exists_mapM_eq_ok_iff, Field.unroll]
  exact forall₂_congr fun f _ => forall₂_congr fun i hi => element hi

/-! ## Clusters -/

/-- The exact address offset of the innermost of some clusters. -/
def offsetOf (clusters : List (Cluster × Instance)) : Nat :=
  (clusters.map fun (c, i) => c.addressOffset.toNat + i.distance).sum

/-- The names of the elements of some clusters, the outermost first. -/
def namesOf (clusters : List (Cluster × Instance)) : List String :=
  (clusters.map fun (_, i) => i.name).reverse

/-- Whether the second of each pair is an element of the first. -/
def AreElements (clusters : List (Cluster × Instance)) : Prop :=
  ∀ c ∈ clusters, c.2 ∈ instances c.1.name c.1.array

theorem areElements_nil : AreElements [] :=
  fun _ h => absurd h List.not_mem_nil

section Address

variable {name : String} {shape : Option ArrayShape} {i : Instance} {outer a : UInt64}

theorem toNat_address (hi : i ∈ instances name shape) {start address : UInt64}
    (hs : addAddress outer a = .ok start) (ha : i.address start = .ok address) :
    address.toNat = a.toNat + i.distance + outer.toNat := by
  rw [addAddress_eq_ok_iff] at hs
  rw [Instance.address_eq_ok_iff hi] at ha
  omega

theorem exists_address_iff (hi : i ∈ instances name shape) :
    (∃ start, addAddress outer a = .ok start ∧ ∃ address, i.address start = .ok address) ↔
      a.toNat + i.distance + outer.toNat < 2 ^ 64 := by
  constructor
  · rintro ⟨start, hs, address, ha⟩
    rw [← toNat_address hi hs ha]
    exact address.toNat_lt
  · intro fits
    have start : (UInt64.ofNat (outer.toNat + a.toNat)).toNat = outer.toNat + a.toNat :=
      UInt64.toNat_ofNat_of_lt' (Nat.lt_of_le_of_lt (by omega) fits)
    refine ⟨_, addAddress_eq_ok_iff.2 start, UInt64.ofNat (a.toNat + i.distance + outer.toNat), ?_⟩
    rw [Instance.address_eq_ok_iff hi, UInt64.toNat_ofNat_of_lt' fits, start]
    omega

end Address

theorem Cluster.exists_surroundings_iff {outer : Surroundings} {c : Cluster} {i : Instance}
    (hi : i ∈ instances c.name c.array) :
    (∃ s, c.surroundings outer i = .ok s) ↔
      c.addressOffset.toNat + i.distance + outer.offset.toNat < 2 ^ 64 := by
  rw [← UInt32.toNat_toUInt64, ← exists_address_iff hi]
  simp only [surroundings, exists_bind_eq_ok_iff, pure, Except.pure, Except.ok.injEq, exists_eq',
    and_true]

theorem Cluster.offset_of_surroundings {outer s : Surroundings} {c : Cluster} {i : Instance}
    (hi : i ∈ instances c.name c.array) (h : c.surroundings outer i = .ok s) :
    s.offset.toNat = c.addressOffset.toNat + i.distance + outer.offset.toNat ∧
      s.path = outer.path ++ i.name ++ "_" := by
  obtain ⟨start, hs, h⟩ := bind_eq_ok_iff.1 h
  obtain ⟨address, ha, h⟩ := bind_eq_ok_iff.1 h
  obtain rfl := Except.ok.inj h
  have exact := toNat_address hi hs ha
  rw [UInt32.toNat_toUInt64] at exact
  exact ⟨exact, rfl⟩

/-- The surroundings in some clusters have the exact offset of the innermost one. -/
theorem offset_of_surroundingsOf {clusters : List (Cluster × Instance)} {s : Surroundings}
    (hc : AreElements clusters) (h : surroundingsOf clusters = .ok s) :
    s.offset.toNat = offsetOf clusters := by
  induction clusters generalizing s with
  | nil =>
    obtain rfl := Except.ok.inj h
    rfl
  | cons ci clusters ih =>
    obtain ⟨c, i⟩ := ci
    obtain ⟨hi, hrest⟩ := List.forall_mem_cons.1 hc
    rw [surroundingsOf] at h
    obtain ⟨outer, ho, h⟩ := bind_eq_ok_iff.1 h
    rw [(Cluster.offset_of_surroundings hi h).1, ih hrest ho]
    rfl

/-- A name after the path in some clusters is joined to the names of their elements. -/
theorem path_append {clusters : List (Cluster × Instance)} {s : Surroundings}
    (hc : AreElements clusters) (h : surroundingsOf clusters = .ok s) (name : String) :
    s.path ++ name = "_".intercalate (namesOf clusters ++ [name]) := by
  induction clusters generalizing s name with
  | nil =>
    obtain rfl := Except.ok.inj h
    exact String.empty_append.trans String.intercalate_singleton.symm
  | cons ci clusters ih =>
    obtain ⟨c, i⟩ := ci
    obtain ⟨hi, hrest⟩ := List.forall_mem_cons.1 hc
    rw [surroundingsOf] at h
    obtain ⟨outer, ho, h⟩ := bind_eq_ok_iff.1 h
    have names : namesOf ((c, i) :: clusters) = namesOf clusters ++ [i.name] := by simp [namesOf]
    rw [(Cluster.offset_of_surroundings hi h).2, ih hrest ho i.name, names,
      String.intercalate_append_of_ne_nil (l := namesOf clusters ++ [i.name]) (by simp) (by simp),
      String.intercalate_singleton]

theorem path_eq_empty_iff {clusters : List (Cluster × Instance)} {s : Surroundings}
    (hc : AreElements clusters) (h : surroundingsOf clusters = .ok s) :
    s.path = "" ↔ clusters = [] := by
  cases clusters with
  | nil =>
    obtain rfl := Except.ok.inj h
    exact ⟨fun _ => rfl, fun _ => rfl⟩
  | cons ci clusters =>
    obtain ⟨c, i⟩ := ci
    obtain ⟨outer, -, h⟩ := bind_eq_ok_iff.1 h
    rw [(Cluster.offset_of_surroundings (hc _ List.mem_cons_self) h).2]
    simp

theorem exists_surroundingsOf_iff {clusters : List (Cluster × Instance)}
    (hc : AreElements clusters) :
    (∃ s, surroundingsOf clusters = .ok s) ↔ offsetOf clusters < 2 ^ 64 := by
  induction clusters with
  | nil => exact ⟨fun _ => Nat.two_pow_pos 64, fun _ => ⟨_, rfl⟩⟩
  | cons ci clusters ih =>
    obtain ⟨c, i⟩ := ci
    obtain ⟨hi, hrest⟩ := List.forall_mem_cons.1 hc
    have offset : offsetOf ((c, i) :: clusters) =
        c.addressOffset.toNat + i.distance + offsetOf clusters := rfl
    simp only [surroundingsOf, exists_bind_eq_ok_iff, Cluster.exists_surroundings_iff hi, offset]
    constructor
    · rintro ⟨outer, ho, fits⟩
      rwa [← offset_of_surroundingsOf hrest ho]
    · intro fits
      obtain ⟨outer, ho⟩ := (ih hrest).2 (by omega)
      exact ⟨outer, ho, by rwa [offset_of_surroundingsOf hrest ho]⟩

/-! ## Registers -/

/-- The exact address offset of a placement. -/
def Placement.offset (p : Placement) : Nat :=
  p.register.addressOffset.toNat + p.element.distance + offsetOf p.clusters

/-- A reference written in the register of a placement, as it reads outside the clusters: a name of
a register in the innermost cluster is joined to the names of the clusters, as that register is. -/
def Placement.reference (p : Placement) (name : String) : String :=
  if p.clusters ≠ [] ∧ '.' ∉ name.toList ∧ p.siblings.any (·.isRegisterNamed name) then
    "_".intercalate (namesOf p.clusters ++ [name])
  else name

theorem Placement.reference_eq {p : Placement} (hc : AreElements p.clusters) {outer : Surroundings}
    (h : surroundingsOf p.clusters = .ok outer) (name : String) :
    outer.reference p.siblings name = p.reference name := by
  have path : outer.path ≠ "" ↔ p.clusters ≠ [] := not_congr (path_eq_empty_iff hc h)
  rw [Surroundings.reference, reference]
  simp only [path, path_append hc h]

/-- What a placement makes of its register. -/
structure Placement.Gives (p : Placement) (r : SingleRegister) : Prop where
  name : r.name = "_".intercalate (namesOf p.clusters ++ [p.element.name])
  derivedFrom : r.derivedFrom = p.register.derivedFrom.map p.reference
  addressOffset : r.addressOffset.toNat = p.offset
  size : r.size = p.register.size.or p.clusterSize
  access : r.access = p.register.access.or p.clusterAccess
  description : r.description = p.register.description
  fields : r.fields.map (·.map SingleField.content) =
    p.register.fields.map (·.flatMap Field.elements)

/-- Whether the instances of a placement are elements of its register and clusters. -/
structure Placement.IsElement (p : Placement) : Prop where
  element : p.element ∈ instances p.register.name p.register.array
  clusters : AreElements p.clusters

theorem Placement.gives_of_unroll {p : Placement} (hp : p.IsElement) {r : SingleRegister}
    (h : p.unroll = .ok r) : p.Gives r := by
  obtain ⟨size, access⟩ := p.attributes_of_unroll h
  obtain ⟨outer, ho, h⟩ := bind_eq_ok_iff.1 h
  obtain ⟨start, hs, h⟩ := bind_eq_ok_iff.1 h
  obtain ⟨address, ha, h⟩ := bind_eq_ok_iff.1 h
  obtain ⟨fields, hf, h⟩ := bind_eq_ok_iff.1 h
  obtain rfl := Except.ok.inj h
  refine ⟨path_append hp.clusters ho _, ?_, ?_, size, access, rfl, ?_⟩
  · exact congrArg (Option.map · p.register.derivedFrom)
      (funext (Placement.reference_eq hp.clusters ho))
  · rw [toNat_address hp.element hs ha, offset_of_surroundingsOf hp.clusters ho,
      UInt32.toNat_toUInt64]
    rfl
  · cases hfields : p.register.fields with
    | none =>
      rw [hfields] at hf
      obtain rfl := Except.ok.inj hf
      rfl
    | some list =>
      rw [hfields, Option.mapM_some, map_eq_ok_iff] at hf
      obtain ⟨singles, hsingles, rfl⟩ := hf
      exact congrArg some (elements_of_unrollFields hsingles)

/-- Whether the exact positions of a placement fit into their words. -/
structure Placement.Fits (p : Placement) : Prop where
  offset : p.offset < 2 ^ 64
  fields : ∀ f ∈ p.register.fields.getD [], ∀ i ∈ instances f.name f.array,
    f.bitOffset.toNat + i.distance < 2 ^ 32

theorem exists_mapM_unrollFields_iff {fields : Option (List Field)} :
    (∃ singles, fields.mapM unrollFields = .ok singles) ↔
      ∀ f ∈ fields.getD [], ∀ i ∈ instances f.name f.array,
        f.bitOffset.toNat + i.distance < 2 ^ 32 := by
  cases fields with
  | none => simp [pure, Except.pure]
  | some list =>
    rw [Option.mapM_some, Option.getD_some, ← exists_unrollFields_iff]
    simp only [map_eq_ok_iff]
    exact ⟨fun ⟨_, singles, h, _⟩ => ⟨singles, h⟩, fun ⟨singles, h⟩ => ⟨_, singles, h, rfl⟩⟩

theorem Placement.exists_unroll_iff {p : Placement} (hp : p.IsElement) :
    (∃ r, p.unroll = .ok r) ↔ p.Fits := by
  simp only [unroll, Register.unrollElement, exists_bind_eq_ok_iff, pure, Except.pure,
    Except.ok.injEq, exists_eq', and_true, exists_mapM_unrollFields_iff]
  constructor
  · rintro ⟨outer, ho, start, hs, address, ha, hf⟩
    refine ⟨?_, hf⟩
    have fits := (exists_address_iff hp.element).1 ⟨start, hs, address, ha⟩
    rwa [offset_of_surroundingsOf hp.clusters ho, UInt32.toNat_toUInt64] at fits
  · rintro ⟨offset, hf⟩
    rw [Placement.offset] at offset
    obtain ⟨outer, ho⟩ := (exists_surroundingsOf_iff hp.clusters).2 (by omega)
    have fits : p.register.addressOffset.toUInt64.toNat + p.element.distance +
        outer.offset.toNat < 2 ^ 64 := by
      rwa [offset_of_surroundingsOf hp.clusters ho, UInt32.toNat_toUInt64]
    obtain ⟨start, hs, address, ha⟩ := (exists_address_iff hp.element).2 fits
    exact ⟨outer, ho, start, hs, address, ha, hf⟩

theorem isElement_of_placementAt? {clusters : List (Cluster × Instance)} {entries : List Entry}
    {route : Route} {p : Placement} (hc : AreElements clusters)
    (h : placementAt? clusters entries route = some p) : p.IsElement := by
  induction route generalizing clusters entries with
  | nil => cases h
  | cons turn rest ih =>
    rw [placementAt?] at h
    split at h
    · cases h
    · split at h
      · obtain ⟨i, hi, rfl⟩ := Option.map_eq_some_iff.1 h
        exact ⟨List.mem_of_getElem? hi, hc⟩
      · cases h
    · obtain ⟨i, hi, h⟩ := Option.bind_eq_some_iff.1 h
      exact ih (List.forall_mem_cons.2 ⟨List.mem_of_getElem? hi, hc⟩) h

theorem isElement_of_mem_placementsOf {entries : List Entry} {p : Placement}
    (h : p ∈ placementsOf entries) : p.IsElement := by
  obtain ⟨n, hn⟩ := List.getElem?_of_mem h
  obtain ⟨route, -, hp⟩ := forall₂_getElem? (placementAt?_routesOf entries) hn
  exact isElement_of_placementAt? areElements_nil hp

/-! ## Lists that can be unrolled -/

mutual

/-- The elements of the clusters in an entry, each with those around it, the innermost first. -/
def Entry.nests (clusters : List (Cluster × Instance)) :
    Entry → List (List (Cluster × Instance))
  | .register _ => []
  | .cluster c entries =>
    (instances c.name c.array).flatMap fun i =>
      ((c, i) :: clusters) :: nestsIn ((c, i) :: clusters) entries

/-- The elements of the clusters in a list of entries, each with those around it. -/
def nestsIn (clusters : List (Cluster × Instance)) :
    List Entry → List (List (Cluster × Instance))
  | [] => []
  | entry :: rest => entry.nests clusters ++ nestsIn clusters rest

end

mutual

/-- An entry can be unrolled if and only if its clusters and its placements can. -/
theorem Entry.exists_unroll_iff {clusters : List (Cluster × Instance)} {outer : Surroundings}
    (h : surroundingsOf clusters = .ok outer) (siblings : List Entry) (entry : Entry) :
    (∃ rs, entry.unroll outer siblings = .ok rs) ↔
      (∀ nest ∈ entry.nests clusters, ∃ s, surroundingsOf nest = .ok s) ∧
        ∀ p ∈ entry.placements clusters siblings, ∃ r, p.unroll = .ok r := by
  cases entry with
  | register r =>
    have element (i : Instance) : (Placement.mk r i siblings clusters).unroll =
        r.unrollElement outer siblings i := by
      rw [Placement.unroll, h]
      rfl
    rw [Entry.unroll, Register.unroll_eq, exists_mapM_eq_ok_iff, Entry.nests,
      Entry.placements]
    simp [element]
  | cluster c entries =>
    have inside (i : Instance) :
        (∃ rs, (do
          let inner ← c.surroundings outer i
          unrollEntries inner entries entries) = .ok rs) ↔
        (∀ nest ∈ ((c, i) :: clusters) :: nestsIn ((c, i) :: clusters) entries,
            ∃ s, surroundingsOf nest = .ok s) ∧
          ∀ p ∈ placementsIn ((c, i) :: clusters) entries entries, ∃ r, p.unroll = .ok r := by
      have innermost : surroundingsOf ((c, i) :: clusters) = c.surroundings outer i := by
        rw [surroundingsOf, h]
        rfl
      rw [exists_bind_eq_ok_iff, List.forall_mem_cons, and_assoc, innermost]
      constructor
      · rintro ⟨inner, hi, hrs⟩
        exact ⟨⟨inner, hi⟩,
          (exists_unrollEntries_iff (innermost.trans hi) entries entries).1 hrs⟩
      · rintro ⟨⟨inner, hi⟩, hrest⟩
        exact ⟨inner, hi,
          (exists_unrollEntries_iff (innermost.trans hi) entries entries).2 hrest⟩
    simp only [Entry.unroll, exists_bind_eq_ok_iff, pure, Except.pure, Except.ok.injEq, exists_eq',
      and_true, exists_mapM_eq_ok_iff, Entry.nests, Entry.placements, List.mem_flatMap,
      forall_exists_index, and_imp]
    simp only [exists_bind_eq_ok_iff] at inside
    constructor
    · intro hall
      exact ⟨fun nest i hi => ((inside i).1 (hall i hi)).1 nest,
        fun p i hi => ((inside i).1 (hall i hi)).2 p⟩
    · rintro ⟨nests, placements⟩ i hi
      exact (inside i).2 ⟨fun nest => nests nest i hi, fun p => placements p i hi⟩

theorem exists_unrollEntries_iff {clusters : List (Cluster × Instance)} {outer : Surroundings}
    (h : surroundingsOf clusters = .ok outer) (siblings : List Entry) (entries : List Entry) :
    (∃ rs, unrollEntries outer siblings entries = .ok rs) ↔
      (∀ nest ∈ nestsIn clusters entries, ∃ s, surroundingsOf nest = .ok s) ∧
        ∀ p ∈ placementsIn clusters siblings entries, ∃ r, p.unroll = .ok r := by
  cases entries with
  | nil => simp [unrollEntries, nestsIn, placementsIn, pure, Except.pure]
  | cons entry rest =>
    simp only [unrollEntries, exists_bind_eq_ok_iff, pure, Except.pure, Except.ok.injEq, exists_eq',
      and_true, exists_and_right, nestsIn, placementsIn, List.forall_mem_append,
      entry.exists_unroll_iff h siblings, exists_unrollEntries_iff h siblings rest]
    tauto

end

/-- Whether all exact positions in a register list fit into their words: the address offsets of the
elements of clusters, and the positions of the placements. -/
structure Fits (entries : List Entry) : Prop where
  clusters : ∀ nest ∈ nestsIn [] entries, offsetOf nest < 2 ^ 64
  placements : ∀ p ∈ placementsOf entries, p.Fits

mutual

theorem Entry.areElements_of_mem_nests {clusters nest : List (Cluster × Instance)} {entry : Entry}
    (hc : AreElements clusters) (h : nest ∈ entry.nests clusters) : AreElements nest := by
  cases entry with
  | register r =>
    rw [Entry.nests] at h
    cases h
  | cluster c entries =>
    rw [Entry.nests] at h
    obtain ⟨i, hi, h⟩ := List.mem_flatMap.1 h
    have inner : AreElements ((c, i) :: clusters) := List.forall_mem_cons.2 ⟨hi, hc⟩
    rcases List.mem_cons.1 h with rfl | h
    · exact inner
    · exact areElements_of_mem_nestsIn inner h

theorem areElements_of_mem_nestsIn {clusters nest : List (Cluster × Instance)}
    {entries : List Entry} (hc : AreElements clusters) (h : nest ∈ nestsIn clusters entries) :
    AreElements nest := by
  cases entries with
  | nil =>
    rw [nestsIn] at h
    cases h
  | cons entry rest =>
    rw [nestsIn] at h
    rcases List.mem_append.1 h with h | h
    · exact entry.areElements_of_mem_nests hc h
    · exact areElements_of_mem_nestsIn hc h

end

theorem exists_unrollRegisters_iff (entries : List Entry) :
    (∃ rs, unrollRegisters entries = .ok rs) ↔ Fits entries := by
  have outside : surroundingsOf [] = .ok .outside := rfl
  have elements : ∀ nest ∈ nestsIn [] entries, AreElements nest :=
    fun nest hn => areElements_of_mem_nestsIn areElements_nil hn
  rw [unrollRegisters, exists_unrollEntries_iff outside]
  constructor
  · rintro ⟨nests, placements⟩
    refine ⟨fun nest hn => ?_, fun p hp => ?_⟩
    · exact (exists_surroundingsOf_iff (elements nest hn)).1 (nests nest hn)
    · exact (Placement.exists_unroll_iff (isElement_of_mem_placementsOf hp)).1 (placements p hp)
  · rintro ⟨nests, placements⟩
    refine ⟨fun nest hn => ?_, fun p hp => ?_⟩
    · exact (exists_surroundingsOf_iff (elements nest hn)).2 (nests nest hn)
    · exact (Placement.exists_unroll_iff (isElement_of_mem_placementsOf hp)).2 (placements p hp)

/-! ## Flattening -/

/-- What a register list stands for: one single register for each route that leads to a placement,
in document order, which is what the placement makes of its register. -/
def Flattens (entries : List Entry) (rs : List SingleRegister) : Prop :=
  ∃ routes : List Route, routes.Pairwise Route.Before ∧
    (∀ route, route ∈ routes ↔ ∃ p, placementAt? [] entries route = some p) ∧
    List.Forall₂ (fun route r => ∃ p, placementAt? [] entries route = some p ∧ p.Gives r) routes rs

theorem flattens_of_unrollRegisters {entries : List Entry} {rs : List SingleRegister}
    (h : unrollRegisters entries = .ok rs) : Flattens entries rs := by
  refine ⟨routesOf entries, pairwise_before_routesOf entries, fun route => mem_routesOf_iff, ?_⟩
  refine forall₂_trans ?_ (placementAt?_routesOf entries) (unrollRegisters_placements h)
  intro route p r hp hr
  exact ⟨p, hp, Placement.gives_of_unroll (isElement_of_placementAt? areElements_nil hp) hr⟩

/-- Unrolling a register list gives what the list stands for if all exact positions fit into their
words. If one does not, it gives nothing. Each turn of a route is to one of the elements that the
name and the shape of an entry stand for: the entry itself, or as many elements as its array counts,
each with its own index in its name and its own distance from the first. -/
theorem unrollRegisters_flattens_iff (entries : List Entry) :
    ((∃ rs, unrollRegisters entries = .ok rs ∧ Flattens entries rs) ↔ Fits entries) ∧
    ∀ name shape, (instances name shape).length = shape.elim 1 (·.count.toNat) ∧
      ∀ n i, (instances name shape)[n]? = some i ↔ IsElementAt name shape n i := by
  refine ⟨?_, fun name shape =>
    ⟨length_instances name shape, fun n i => getElem?_instances_eq_some_iff⟩⟩
  rw [← exists_unrollRegisters_iff]
  constructor
  · rintro ⟨rs, h, -⟩
    exact ⟨rs, h⟩
  · rintro ⟨rs, h⟩
    exact ⟨rs, h, flattens_of_unrollRegisters h⟩

end RegisterHeaders.Svd
