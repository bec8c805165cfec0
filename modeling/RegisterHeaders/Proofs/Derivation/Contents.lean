import RegisterHeaders.Proofs.Derivation.Fault

/-!
# Contents of elements

Which elements a reference in a register or field can point to is decided by the contents of the
lists around it, not by the peripheral that declares them. So two descriptions in which the names of
peripherals lead to the same registers (`namedRegisters`) agree on where references point, as far as
contents go: a derivation chain of the one visits elements of the same contents as the chain of the
other (`registerChain_contents`, `fieldChain_contents`), although their places may differ.
The main result is that an element means in the other description what it means in the first
(`MeansField.transfer`, `MeansRegister.transfer`).
-/

namespace RegisterHeaders.Derivation

open Steps

/-! ## Chains of two sets of links -/

theorem forall₂_of_map_eq {α β γ : Type} {P Q : α → β → Prop} {contents : α → γ} {xs ys : List α}
    {zs : List β} (h : xs.map contents = ys.map contents) (hP : List.Forall₂ P xs zs)
    (step : ∀ x ∈ xs, ∀ y ∈ ys, contents x = contents y → ∀ z, P x z → Q y z) :
    List.Forall₂ Q ys zs := by
  induction hP generalizing ys with
  | nil =>
    obtain rfl := List.map_eq_nil_iff.1 h.symm
    exact .nil
  | @cons x z xs zs hx hxs ih =>
    obtain ⟨y, ys, rfl, hy, hys⟩ := List.map_eq_cons_iff.1 h.symm
    refine .cons (step x List.mem_cons_self y List.mem_cons_self hy.symm z hx) ?_
    exact ih hys.symm fun x' hx' y' hy' =>
      step x' (List.mem_cons_of_mem x hx') y' (List.mem_cons_of_mem y hy')

/-- Links whose references point to elements of the same contents have chains of the same
contents. -/
theorem Links.Chain.exists_map_eq {α ι γ : Type} {links links' : Links α ι}
    {elements elements' : List α} (hw : links.Within elements) (hw' : links'.Within elements')
    {contents : α → γ}
    (step : ∀ a ∈ elements, ∀ a' ∈ elements', contents a = contents a' →
      links.reference a = links'.reference a' ∧
        ∀ path, (links.find a path).map contents = (links'.find a' path).map contents)
    {a a' : α} {chain : List α} (h : links.Chain a chain) (ha : a ∈ elements)
    (ha' : a' ∈ elements') (heq : contents a = contents a') :
    ∃ chain', links'.Chain a' chain' ∧ chain.map contents = chain'.map contents := by
  induction h generalizing a' with
  | @last a hr =>
    refine ⟨[a'], .last ?_, by simp [heq]⟩
    rw [← (step a ha a' ha' heq).1, hr]
  | @link a b chain hn rest ih =>
    obtain ⟨path, hp, hb⟩ := hn
    obtain ⟨hr, hf⟩ := step a ha a' ha' heq
    have hfind : (links'.find a' path).map contents = some (contents b) := by
      rw [← hf, hb, Option.map_some]
    obtain ⟨b', hb', hbeq⟩ := Option.map_eq_some_iff.1 hfind
    have hn' : links'.Next a' b' := ⟨path, hr ▸ hp, hb'⟩
    obtain ⟨chain', hc', hmap⟩ :=
      ih (hw.mem_of_next ha ⟨path, hp, hb⟩) (hw'.mem_of_next ha' hn') hbeq.symm
    exact ⟨a' :: chain', .link hn' hc', by rw [List.map_cons, List.map_cons, heq, hmap]⟩

/-! ## Contents -/

/-- A register and the list that holds it, wherever the list is declared. -/
def RegisterAt.contents (r : RegisterAt) : List Description.Register × Description.Register :=
  (r.scope.registers, r.element)

/-- A field list and the register list around it, wherever they are declared. -/
def FieldScope.contents (s : FieldScope) : List Description.Register × List Description.Field :=
  (s.registers.registers, s.fields)

/-- A field and the lists that hold it, wherever they are declared. -/
def FieldAt.contents (f : FieldAt) :
    (List Description.Register × List Description.Field) × Description.Field :=
  (f.scope.contents, f.element)

/-- What the name of a peripheral leads to: nothing, a peripheral without a register list, or
registers. -/
def namedRegisters (d : Description.Device) (name : String) :
    Option (Option (List Description.Register)) :=
  (findPeripheral d name).map fun p => (registerList d p).map (·.registers)

theorem RegisterScope.map_contents_placed (s : RegisterScope) :
    s.placed.map RegisterAt.contents = s.registers.map (s.registers, ·) := by
  rw [placed, List.map_map, ← List.zipIdx_map_fst 0 s.registers, List.map_map]
  simp [Function.comp_def, RegisterAt.contents]

theorem FieldScope.map_contents_placed (s : FieldScope) :
    s.placed.map FieldAt.contents = s.fields.map (s.contents, ·) := by
  rw [placed, List.map_map, ← List.zipIdx_map_fst 0 s.fields, List.map_map]
  simp [Function.comp_def, FieldAt.contents, FieldScope.contents]

theorem elim_registers_contents {o o' : Option RegisterScope}
    (h : o.map (·.registers) = o'.map (·.registers)) :
    (o.elim [] RegisterScope.placed).map RegisterAt.contents =
      (o'.elim [] RegisterScope.placed).map RegisterAt.contents := by
  cases o <;> cases o' <;> simp_all [RegisterScope.map_contents_placed]

theorem elim_fields_contents {o o' : Option FieldScope}
    (h : o.map FieldScope.contents = o'.map FieldScope.contents) :
    (o.elim [] FieldScope.placed).map FieldAt.contents =
      (o'.elim [] FieldScope.placed).map FieldAt.contents := by
  cases o <;> cases o' <;> simp_all [FieldScope.map_contents_placed, FieldScope.contents]

/-! ## Lookup -/

section Lookup

variable {d d' : Description.Device} {s t : RegisterScope} {r r' : RegisterAt} {f f' : FieldAt}

theorem findRegister_contents (h : s.registers = t.registers) (name : String) :
    (findRegister s name).map RegisterAt.contents =
      (findRegister t name).map RegisterAt.contents := by
  have read (s : RegisterScope) : (findRegister s name).map RegisterAt.contents =
      (s.registers.map (s.registers, ·)).find? (·.2.name = name) := by
    rw [← s.map_contents_placed, List.find?_map]
    rfl
  rw [read, read, h]

theorem findField_contents {s t : FieldScope} (h : s.contents = t.contents) (name : String) :
    (findField s name).map FieldAt.contents = (findField t name).map FieldAt.contents := by
  have read (s : FieldScope) : (findField s name).map FieldAt.contents =
      (s.contents.2.map (s.contents, ·)).find? (·.2.name = name) := by
    show _ = (s.fields.map (s.contents, ·)).find? _
    rw [← s.map_contents_placed, List.find?_map]
    rfl
  rw [read, read, h]

theorem lookupRegister_contents (hn : namedRegisters d = namedRegisters d')
    (h : s.registers = t.registers) (path : String) :
    (lookupRegister d s path).map RegisterAt.contents =
      (lookupRegister d' t path).map RegisterAt.contents := by
  unfold lookupRegister
  split
  · exact findRegister_contents h _
  · next owner rest _ =>
    have named := congrFun hn owner
    unfold namedRegisters at named
    cases hp : findPeripheral d owner with
    | none =>
      rw [hp, Option.map_none, eq_comm, Option.map_eq_none_iff] at named
      rw [named]
      exact findRegister_contents h _
    | some p =>
      rw [hp, Option.map_some, eq_comm, Option.map_eq_some_iff] at named
      obtain ⟨p', hp', named⟩ := named
      rw [hp']
      cases hl : registerList d p with
      | none =>
        rw [hl, Option.map_none, Option.map_eq_none_iff] at named
        simp [named, hl]
      | some list =>
        rw [hl, Option.map_some, Option.map_eq_some_iff] at named
        obtain ⟨list', hl', named⟩ := named
        simpa [hl, hl'] using findRegister_contents named.symm _

/-! ## Registers -/

/-- Along chains of the same contents an attribute has the same first value. -/
theorem findSome?_eq_of_contents {α β γ : Type} {contents : α → γ} {get : α → Option β}
    (read : γ → Option β) (hread : ∀ a, get a = read (contents a)) {chain chain' : List α}
    (h : chain.map contents = chain'.map contents) :
    chain.findSome? get = chain'.findSome? get := by
  have along (chain : List α) : chain.findSome? get = (chain.map contents).findSome? read := by
    rw [List.findSome?_map, Function.comp_def, funext hread]
  rw [along, along, h]

theorem registerChain_contents (hn : namedRegisters d = namedRegisters d')
    {chain : List RegisterAt} (hc : (registerLinks d).Chain r chain) (hr : r ∈ declaredRegisters d)
    (hr' : r' ∈ declaredRegisters d') (h : r.contents = r'.contents) :
    ∃ chain', (registerLinks d').Chain r' chain' ∧
      chain.map RegisterAt.contents = chain'.map RegisterAt.contents := by
  refine hc.exists_map_eq (registerLinks_within d) (registerLinks_within d') ?_ hr hr' h
  intro a _ a' _ heq
  obtain ⟨hscope, helement⟩ := Prod.mk.inj heq
  exact ⟨congrArg Description.Register.derivedFrom helement, lookupRegister_contents hn hscope⟩

theorem firstFields_contents {chain chain' : List RegisterAt}
    (h : chain.map RegisterAt.contents = chain'.map RegisterAt.contents) :
    (chain.findSome? RegisterAt.ownFields).map FieldScope.contents =
      (chain'.findSome? RegisterAt.ownFields).map FieldScope.contents := by
  rw [List.map_findSome?, List.map_findSome?]
  refine findSome?_eq_of_contents (fun c => c.2.fields.map (c.1, ·)) (fun r => ?_) h
  simp [RegisterAt.ownFields, RegisterAt.contents, FieldScope.contents, Function.comp_def]

theorem fieldList_contents (hn : namedRegisters d = namedRegisters d')
    {chain : List RegisterAt} (hc : (registerLinks d).Chain r chain) (hr : r ∈ declaredRegisters d)
    (hr' : r' ∈ declaredRegisters d') (h : r.contents = r'.contents) :
    (fieldList d r).map FieldScope.contents = (fieldList d' r').map FieldScope.contents := by
  obtain ⟨chain', hc', hmap⟩ := registerChain_contents hn hc hr hr' h
  rw [fieldList_of_chain hr hc, fieldList_of_chain hr' hc']
  exact firstFields_contents hmap

/-! ## Fields -/

theorem lookupField_contents (hn : namedRegisters d = namedRegisters d')
    (ends : ∀ r ∈ declaredRegisters d, ∃ chain, (registerLinks d).Chain r chain)
    {s t : FieldScope} (hs : s.Declared d) (ht : t.Declared d') (h : s.contents = t.contents)
    (path : String) :
    (lookupField d s path).map FieldAt.contents = (lookupField d' t path).map FieldAt.contents := by
  unfold lookupField
  split
  · exact findField_contents h path
  · next owner name _ =>
    have around : s.registers.registers = t.registers.registers := congrArg Prod.fst h
    have found := lookupRegister_contents hn around owner
    cases hl : lookupRegister d s.registers owner with
    | none =>
      rw [hl, Option.map_none, eq_comm, Option.map_eq_none_iff] at found
      simp [found]
    | some r =>
      rw [hl, Option.map_some, eq_comm, Option.map_eq_some_iff] at found
      obtain ⟨r', hl', found⟩ := found
      have hr := mem_of_lookupRegister hs.registers hl
      obtain ⟨chain, hc⟩ := ends r hr
      have list := fieldList_contents hn hc hr (mem_of_lookupRegister ht.registers hl') found.symm
      rw [hl']
      cases hf : fieldList d r with
      | none =>
        rw [hf, Option.map_none, eq_comm, Option.map_eq_none_iff] at list
        simp [list, hf]
      | some fields =>
        rw [hf, Option.map_some, eq_comm, Option.map_eq_some_iff] at list
        obtain ⟨fields', hf', list⟩ := list
        simpa [hf, hf'] using findField_contents list.symm name

theorem fieldChain_contents (hn : namedRegisters d = namedRegisters d')
    (ends : ∀ r ∈ declaredRegisters d, ∃ chain, (registerLinks d).Chain r chain)
    {chain : List FieldAt} (hc : (fieldLinks d).Chain f chain) (hf : f ∈ declaredFields d)
    (hf' : f' ∈ declaredFields d') (h : f.contents = f'.contents) :
    ∃ chain', (fieldLinks d').Chain f' chain' ∧
      chain.map FieldAt.contents = chain'.map FieldAt.contents := by
  refine hc.exists_map_eq (fieldLinks_within d) (fieldLinks_within d') ?_ hf hf' h
  intro a ha a' ha' heq
  obtain ⟨hscope, helement⟩ := Prod.mk.inj heq
  exact ⟨congrArg Description.Field.derivedFrom helement, lookupField_contents hn ends
    (fieldScope_declared_of_mem ha).1 (fieldScope_declared_of_mem ha').1 hscope⟩

/-! ## Meanings -/

theorem MeansField.transfer (hn : namedRegisters d = namedRegisters d')
    (ends : ∀ r ∈ declaredRegisters d, ∃ chain, (registerLinks d).Chain r chain)
    (hf : f ∈ declaredFields d) (hf' : f' ∈ declaredFields d') (h : f.contents = f'.contents)
    {access : Access} {m : Field} (hm : MeansField d access f m) : MeansField d' access f' m := by
  obtain ⟨chain, hc, hname, haccess, hoffset, hwidth, hdescription, hvalues⟩ := hm
  obtain ⟨chain', hc', hmap⟩ := fieldChain_contents hn ends hc hf hf' h
  have first {β : Type} (get : Description.Field → Option β) :
      chain.findSome? (fun f => get f.element) = chain'.findSome? (fun f => get f.element) :=
    findSome?_eq_of_contents (fun c => get c.2) (fun _ => rfl) hmap
  have helement : f.element = f'.element := congrArg Prod.snd h
  exact ⟨chain', hc', helement ▸ hname, first (·.access) ▸ haccess, first (·.bitOffset) ▸ hoffset,
    first (·.bitWidth) ▸ hwidth, first (·.description) ▸ hdescription,
    first (·.enumeratedValues) ▸ hvalues⟩

theorem MeansRegister.transfer (hn : namedRegisters d = namedRegisters d')
    (ends : ∀ r ∈ declaredRegisters d, ∃ chain, (registerLinks d).Chain r chain)
    (hr : r ∈ declaredRegisters d) (hr' : r' ∈ declaredRegisters d')
    (h : r.contents = r'.contents) {baseAddress : UInt64} {access : Access} {width : UInt32}
    {m : Register} (hm : MeansRegister d baseAddress access width r m) :
    MeansRegister d' baseAddress access width r' m := by
  obtain ⟨chain, hc, hname, hoffset, haddress, haccess, hwidth, hdescription, hfields⟩ := hm
  obtain ⟨chain', hc', hmap⟩ := registerChain_contents hn hc hr hr' h
  have first {β : Type} (get : Description.Register → Option β) :
      chain.findSome? (fun r => get r.element) = chain'.findSome? (fun r => get r.element) :=
    findSome?_eq_of_contents (fun c => get c.2) (fun _ => rfl) hmap
  have helement : r.element = r'.element := congrArg Prod.snd h
  have lists := firstFields_contents hmap
  refine ⟨chain', hc', helement ▸ hname, first (·.addressOffset) ▸ hoffset, haddress,
    first (·.access) ▸ haccess, first (·.width) ▸ hwidth, first (·.description) ▸ hdescription, ?_⟩
  rw [← fieldList_of_chain hr hc] at lists hfields
  rw [← fieldList_of_chain hr' hc'] at lists ⊢
  refine forall₂_of_map_eq (elim_fields_contents lists) hfields fun f hf f' hf' heq z hz => ?_
  exact hz.transfer hn ends (mem_of_fieldList hr hf) (mem_of_fieldList hr' hf') heq

end Lookup

end RegisterHeaders.Derivation
