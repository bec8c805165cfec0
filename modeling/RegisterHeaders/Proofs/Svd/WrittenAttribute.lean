import RegisterHeaders.Proofs.Derivation.Meaning
import RegisterHeaders.Proofs.Svd.Placement

/-!
# Size and access of the registers of a document

The size of a register is written in the register, in a register it derives from, or as a default in
a cluster around one of them. Clusters are flattened before derivations are followed, so along the
chain of a register the default of a cluster around one element comes before what the next element
writes. The main result says for every register of every document what becomes of its size and its
access: the first value written along the chain is taken unless a different default stands before
it, and a default or the value of the peripheral is taken if nothing is written.
-/

namespace RegisterHeaders.Svd

open RegisterHeaders.Derivation Steps

/-! ## Values along a chain -/

section Chain

variable {α β : Type} {written default : α → Option β} {stems : List α} {v : β}

theorem findSome?_or_of_written (h : stems.findSome? written = some v) :
    stems.findSome? (fun s => (written s).or (default s)) =
      some (((stems.takeWhile fun s => (written s).isNone).findSome? default).getD v) := by
  induction stems with
  | nil => simp at h
  | cons s rest ih =>
    rw [findSome?_cons_eq_or] at h ⊢
    cases hs : written s with
    | some w =>
      rw [hs, Option.some_or] at h
      rw [List.takeWhile_cons_of_neg (by simp [hs])]
      simpa using h
    | none =>
      rw [hs, Option.none_or] at h
      rw [List.takeWhile_cons_of_pos (by simp [hs]), findSome?_cons_eq_or, ih h, Option.none_or]
      cases default s <;> rfl

theorem findSome?_or_of_unwritten (h : stems.findSome? written = none) :
    stems.findSome? (fun s => (written s).or (default s)) = stems.findSome? default := by
  induction stems with
  | nil => rfl
  | cons s rest ih =>
    rw [findSome?_cons_eq_or, Option.or_eq_none_iff] at h
    rw [findSome?_cons_eq_or, findSome?_cons_eq_or, ih h.2, h.1, Option.none_or]

theorem findSome?_congr_forall₂ {γ : Type} {get : γ → Option β} {get' : α → Option β}
    {chain : List γ} (h : List.Forall₂ (fun c s => get c = get' s) chain stems) :
    chain.findSome? get = stems.findSome? get' := by
  induction h with
  | nil => rfl
  | cons hcs _ ih => rw [findSome?_cons_eq_or, findSome?_cons_eq_or, hcs, ih]

end Chain

/-- What becomes of an attribute along a chain. The first value that is written is taken if and only
if no other default stands before it; if none is written it is the first default, or the value
`outer` of the enclosing peripheral. -/
structure TakesAttribute {α β : Type} (written default : α → Option β) (stems : List α)
    (outer value : β) : Prop where
  of_written : ∀ v, stems.findSome? written = some v →
    (value = v ↔ ∀ w,
      (stems.takeWhile fun s => (written s).isNone).findSome? default = some w → w = v)
  of_unwritten : stems.findSome? written = none →
    value = (stems.findSome? default).getD outer

theorem takesAttribute {α β : Type} {written default : α → Option β} {stems : List α}
    {outer value : β}
    (h : value = (stems.findSome? fun s => (written s).or (default s)).getD outer) :
    TakesAttribute written default stems outer value where
  of_written v hv := by
    rw [findSome?_or_of_written hv, Option.getD_some] at h
    rw [h]
    cases (stems.takeWhile fun s => (written s).isNone).findSome? default <;> simp
  of_unwritten hn := by rw [h, findSome?_or_of_unwritten hn]

/-! ## The registers of a document -/

/-- What becomes of the size and the access of a register `r` of the description of a document that
ends up as `m` in a peripheral of the given width and access. -/
def TakesWritten (doc : Document) (d : Description.Device) (p : RegisterHeaders.Peripheral)
    (r : RegisterAt) (m : RegisterHeaders.Register) : Prop :=
  ∃ chain stems, (registerLinks d).Chain r chain ∧ List.Forall₂ (Stems doc) chain stems ∧
    List.Forall₂ (fun r p => p.Describes doc r.element) chain stems ∧
    TakesAttribute (·.register.size) Placement.clusterSize stems p.width m.width ∧
    TakesAttribute (·.register.access) Placement.clusterAccess stems p.access m.access

theorem exists_stems {doc : Document} {described : Described} (h : doc.describe = .ok described)
    {chain : List RegisterAt} (hc : chain ⊆ declaredRegisters described.device) :
    ∃ stems, List.Forall₂ (Stems doc) chain stems ∧
      List.Forall₂ (fun r p => p.Describes doc r.element) chain stems := by
  induction chain with
  | nil => exact ⟨[], .nil, .nil⟩
  | cons r rest ih =>
    obtain ⟨hr, hrest⟩ := List.cons_subset.1 hc
    obtain ⟨p, hs, hd⟩ := exists_stem h hr
    obtain ⟨stems, hss, hds⟩ := ih hrest
    exact ⟨p :: stems, .cons hs hss, .cons hd hds⟩

theorem Placement.Describes.attributes {doc : Document} {p : Placement}
    {r : Description.Register} (h : p.Describes doc r) :
    r.width = p.register.size.or p.clusterSize ∧
      r.access = p.register.access.or p.clusterAccess := by
  obtain ⟨single, hu, rfl⟩ := h
  exact p.attributes_of_unroll hu

theorem takesWritten_of_means {doc : Document} {described : Described}
    (h : doc.describe = .ok described) {p : RegisterHeaders.Peripheral} {r : RegisterAt}
    {m : RegisterHeaders.Register} (hr : r ∈ declaredRegisters described.device)
    (hm : MeansRegister described.device p.baseAddress p.access p.width r m) :
    TakesWritten doc described.device p r m := by
  obtain ⟨chain, hc, -, -, -, haccess, hwidth, -, -⟩ := hm
  obtain ⟨stems, hs, hd⟩ := exists_stems h (hc.subset (registerLinks_within described.device) hr)
  refine ⟨chain, stems, hc, hs, hd, takesAttribute ?_, takesAttribute ?_⟩
  · rw [hwidth, findSome?_congr_forall₂ (hd.imp fun r p hp => hp.attributes.1)]
  · rw [haccess, findSome?_congr_forall₂ (hd.imp fun r p hp => hp.attributes.2)]

/-- Every register of a resolved document takes the size and the access that are written first along
its chain, unless the default of a cluster around an earlier element of the chain differs. Without
any that is written it takes the first default, or the value of the peripheral it ends up in. -/
theorem resolved_registers_take_written {doc : Document} {described : Described} {m : Device}
    (hd : doc.describe = .ok described) (hm : resolve described.device = .ok m) :
    List.Forall₂
      (fun p mp => List.Forall₂ (TakesWritten doc described.device mp)
        ((registerList described.device p).elim [] RegisterScope.placed) mp.registers)
      (placedPeripherals described.device) m.peripherals := by
  obtain ⟨-, -, -, -, means⟩ := means_of_resolve hm
  refine forall₂_imp_of_mem means fun p hp mp hmp => ?_
  obtain ⟨chain, hc, -, -, -, -, -, registers⟩ := hmp
  rw [← registerList_of_chain hp hc] at registers
  refine forall₂_imp_of_mem registers fun r hr mr hmr => ?_
  exact takesWritten_of_means hd (mem_of_registerList hp hr) hmr

/-- A register of 16 bits. -/
def baseRegister : Register where
  name := "BASE"
  array := none
  derivedFrom := none
  addressOffset := 0
  size := some 16
  access := none
  description := none
  fields := none

/-- A register that derives from `baseRegister`. -/
def derivingRegister : Register where
  name := "COPY"
  array := none
  derivedFrom := some "BASE"
  addressOffset := 0
  size := none
  access := none
  description := none
  fields := none

/-- A cluster whose registers have 8 bits by default. -/
def narrowCluster : Cluster where
  name := "GROUP"
  array := none
  addressOffset := 16
  size := some 8
  access := none

/-- A document in which a register of a cluster derives from one outside of it. -/
def clusterDocument : Document where
  name := "D"
  description := none
  size := none
  access := none
  peripherals := [
    { name := "P", array := none, derivedFrom := none, baseAddress := 0, size := none
      access := none, description := none
      registers := some
        [.register baseRegister, .cluster narrowCluster [.register derivingRegister]] }]

theorem clusterDocument_outcome : ∃ described m, clusterDocument.describe = .ok described ∧
    resolve described.device = .ok m ∧
    m.peripherals.map (fun p => p.registers.map fun r => (r.name, r.width)) =
      [[("BASE", 16), ("GROUP_COPY", 8)]] ∧
    ∃ r ∈ declaredRegisters described.device, ∃ base ∈ declaredRegisters described.device,
      r.element.name = "GROUP_COPY" ∧ r.place = (0, 1) ∧ base.place = (0, 0) ∧
        (registerLinks described.device).bases described.device.registerCount r = .ok [base] := by
  have computed : (clusterDocument.describe.toOption.any fun described =>
      (resolve described.device).toOption.any fun m => decide (
        m.peripherals.map (fun p => p.registers.map fun r => (r.name, r.width)) =
          [[("BASE", 16), ("GROUP_COPY", 8)]] ∧
        ∃ r ∈ declaredRegisters described.device, ∃ base ∈ declaredRegisters described.device,
          r.element.name = "GROUP_COPY" ∧ r.place = (0, 1) ∧ base.place = (0, 0) ∧
            (registerLinks described.device).bases described.device.registerCount r =
              .ok [base])) = true := by
    decide +kernel
  obtain ⟨described, hd, computed⟩ := any_toOption_iff.1 computed
  obtain ⟨m, hm, computed⟩ := any_toOption_iff.1 computed
  exact ⟨described, m, hd, hm, of_decide_eq_true computed⟩

theorem clusterDocument_takes_written : ∃ described m,
    clusterDocument.describe = .ok described ∧ resolve described.device = .ok m ∧
    List.Forall₂
      (fun p mp => List.Forall₂ (TakesWritten clusterDocument described.device mp)
        ((registerList described.device p).elim [] RegisterScope.placed) mp.registers)
      (placedPeripherals described.device) m.peripherals := by
  obtain ⟨described, m, hd, hm, -⟩ := clusterDocument_outcome
  exact ⟨described, m, hd, hm, resolved_registers_take_written hd hm⟩

/-- The register `COPY` writes no size and its base writes 16, but it gets the 8 bits of its
cluster. -/
theorem clusterDocument_ignores_written_size : ∃ described m,
    clusterDocument.describe = .ok described ∧ resolve described.device = .ok m ∧
    m.peripherals.map (fun p => p.registers.map fun r => (r.name, r.width)) =
      [[("BASE", 16), ("GROUP_COPY", 8)]] ∧
    ∃ r base stem baseStem, r.element.name = "GROUP_COPY" ∧
      (registerLinks described.device).Chain r [r, base] ∧
      Stems clusterDocument r stem ∧ stem.register.size = none ∧
      Stems clusterDocument base baseStem ∧ baseStem.register.size = some 16 := by
  obtain ⟨described, m, hd, hm, widths, r, hr, base, -, name, place, basePlace, bases⟩ :=
    clusterDocument_outcome
  have chain := (Links.bases_eq_ok_iff (registerLinks_within described.device)
    (Nat.le_of_eq (length_declaredRegisters described.device)) hr).1 bases
  obtain ⟨scope, index⟩ := Prod.mk.inj place
  obtain ⟨baseScope, baseIndex⟩ := Prod.mk.inj basePlace
  obtain ⟨baseStem, stem, placements, baseWritten, written⟩ : ∃ baseStem stem,
      clusterDocument.placements = [[baseStem, stem]] ∧ baseStem.register.size = some 16 ∧
        stem.register.size = none := ⟨_, _, rfl, rfl, rfl⟩
  refine ⟨described, m, hd, hm, widths, r, base, stem, baseStem, name, chain,
    ⟨[baseStem, stem], ?_, ?_⟩, written, ⟨[baseStem, stem], ?_, ?_⟩, baseWritten⟩
  · rw [placements, scope]
    rfl
  · rw [index]
    rfl
  · rw [placements, baseScope]
    rfl
  · rw [baseIndex]
    rfl

end RegisterHeaders.Svd
