import RegisterHeaders.Proofs.Derivation.Inheritance

/-!
# The list that a derivation leads to

An element without a list of its own has that of the first element its references lead to that has
one. `links.Finds own a b` says so without a bound on the number of references, and
`links.Misses own a` that there is no such element: the references end, point to nothing or lead
back to an element on the trail before a list is met. An element does not have both
(`Finds.not_misses`), and one of the two by way of the walks (`Links.findsFirst_firstWithin`).

The walks that look for a list take a bounded number of steps. The bound is the number of elements
of the kind, and before a list is met no element is visited twice; so the walks find what there is
to find, and any greater bound would do as well (`childLists_found`).
-/

namespace RegisterHeaders.Derivation

namespace Links

variable {α ι β : Type} {links : Links α ι} {own : α → Option β} {elements : List α} {a c : α}
  {b : β} {trail : List α} {n : Nat}

/-- Of the elements that references lead to from `a`, itself included, the first that has something
of its own has `b`. -/
inductive Finds (links : Links α ι) (own : α → Option β) : α → β → Prop
  | here {a : α} {b : β} (h : own a = some b) : Finds links own a b
  | base {a c : α} {b : β} (without : own a = none) (h : links.Next a c) (rest : Finds links own c b) :
      Finds links own a b

/-- The references from `a` lead to no element that has something of its own. -/
inductive Misses (links : Links α ι) (own : α → Option β) (a : α) : Prop
  /-- They come to an element without a reference. -/
  | ends {trail : List α} {b : α} (visited : links.Trail a trail b)
      (without : ∀ x ∈ trail, own x = none) (h : links.reference b = none)
  /-- They come to a reference that points to nothing. -/
  | dangles {trail : List α} {b : α} {path : String} (visited : links.Trail a trail b)
      (without : ∀ x ∈ trail, own x = none) (h : links.reference b = some path)
      (nothing : links.find b path = none)
  /-- They come back to the place of an element on the trail. -/
  | loops {trail : List α} {b c : α} (visited : links.Trail a trail b)
      (without : ∀ x ∈ trail, own x = none) (h : links.Next b c)
      (back : links.place c ∈ trail.map links.place)

/-- `found` is what following the references from `a` finds. -/
structure FindsFirst (links : Links α ι) (own : α → Option β) (a : α) (found : Option β) :
    Prop where
  eq_some_iff : ∀ b, found = some b ↔ links.Finds own a b
  eq_none_iff : found = none ↔ links.Misses own a

theorem Finds.unique {b' : β} (h : links.Finds own a b) (h' : links.Finds own a b') : b = b' := by
  induction h with
  | here h =>
    cases h' with
    | here h' => exact Option.some.inj (h.symm.trans h')
    | base without => cases h.symm.trans without
  | base without hn _ ih =>
    cases h' with
    | here h' => cases h'.symm.trans without
    | base _ hn' rest' =>
      obtain rfl := hn.unique hn'
      exact ih rest'

/-! ## Either a list or none -/

/-- What an element on a trail refers to is on the trail too, unless the element is its end. -/
theorem Trail.next_mem {x y : α} (visited : links.Trail a trail c) (hx : x ∈ trail)
    (hn : links.Next x y) : y ∈ trail ∨ x = c := by
  induction visited with
  | start => exact Or.inr (List.mem_singleton.1 hx)
  | @step trail b c _ hc _ ih =>
    rcases List.mem_append.1 hx with hx | hx
    · left
      rcases ih hx with hy | rfl
      · exact List.mem_append_left _ hy
      · obtain rfl := hn.unique hc
        simp
    · exact Or.inr (List.mem_singleton.1 hx)

/-- Where no list is met, the references stay among elements without one. -/
theorem Misses.exists_closed (hw : links.Within elements) (ha : a ∈ elements)
    (h : links.Misses own a) :
    ∃ trail : List α, a ∈ trail ∧ (∀ x ∈ trail, own x = none) ∧
      ∀ x ∈ trail, ∀ y, links.Next x y → y ∈ trail := by
  have start {trail : List α} {c : α} (visited : links.Trail a trail c) : a ∈ trail := by
    obtain ⟨tail, rfl⟩ := visited.exists_tail
    exact List.mem_cons_self
  cases h with
  | @ends trail b visited without hr =>
    refine ⟨trail, start visited, without, fun x hx y hn => (visited.next_mem hx hn).resolve_right ?_⟩
    rintro rfl
    obtain ⟨path, hp, -⟩ := hn
    cases hp.symm.trans hr
  | @dangles trail b path visited without hr nothing =>
    refine ⟨trail, start visited, without, fun x hx y hn => (visited.next_mem hx hn).resolve_right ?_⟩
    rintro rfl
    rw [next_iff_of_reference hr, nothing] at hn
    cases hn
  | @loops trail b c visited without hc back =>
    refine ⟨trail, start visited, without, fun x hx y hn => ?_⟩
    rcases visited.next_mem hx hn with hy | rfl
    · exact hy
    · obtain rfl := hn.unique hc
      obtain ⟨z, hz, place⟩ := List.mem_map.1 back
      have among := visited.subset hw ha
      obtain rfl := hw.eq_of_place (among hz) (hw.mem_of_next (among hx) hn) place
      exact hz

theorem Finds.not_misses (hw : links.Within elements) (ha : a ∈ elements)
    (h : links.Finds own a b) : ¬ links.Misses own a := by
  intro hm
  obtain ⟨trail, hmem, without, closed⟩ := hm.exists_closed hw ha
  clear hm ha
  induction h with
  | here h => cases h.symm.trans (without _ hmem)
  | base _ hn _ ih => exact ih (closed _ hmem _ hn)

/-! ## Bounded walks -/

theorem finds_of_firstWithin (h : links.firstWithin own n a = some b) : links.Finds own a b := by
  induction n generalizing a with
  | zero => cases h
  | succ n ih =>
    rw [firstWithin] at h
    split at h
    · next hb => exact .here (hb.trans h)
    · next hnone =>
      obtain ⟨path, hp, h⟩ := Option.bind_eq_some_iff.1 h
      obtain ⟨c, hc, h⟩ := Option.bind_eq_some_iff.1 h
      exact .base hnone ⟨path, hp, hc⟩ (ih h)

/-- A walk that finds nothing, though it could visit every element off the trail, has met an end, a
reference to nothing or the trail itself. -/
theorem misses_of_firstWithin (hw : links.Within elements) {root : α} (hroot : root ∈ elements)
    (visited : links.Trail root trail a) (before : ∀ x ∈ trail, x = a ∨ own x = none)
    (hn : elements.length < trail.length + n) (h : links.firstWithin own n a = none) :
    links.Misses own root := by
  induction n generalizing trail a with
  | zero =>
    have := visited.length_le hw hroot
    omega
  | succ n ih =>
    rw [firstWithin] at h
    split at h
    · cases h
    · next hnone =>
      have without : ∀ x ∈ trail, own x = none := fun x hx => by
        rcases before x hx with rfl | hx
        · exact hnone
        · exact hx
      rcases links.next_cases a with hr | ⟨path, hr, hf⟩ | ⟨c, hc⟩
      · exact .ends visited without hr
      · exact .dangles visited without hr hf
      · by_cases back : links.place c ∈ trail.map links.place
        · exact .loops visited without hc back
        · refine ih (visited.step hc back) (fun x hx => ?_) ?_ ?_
          · rcases List.mem_append.1 hx with hx | hx
            · exact Or.inr (without x hx)
            · exact Or.inl (List.mem_singleton.1 hx)
          · rw [List.length_append, List.length_singleton]
            omega
          · obtain ⟨path, hp, hf⟩ := hc
            simpa [hp, hf] using h

/-- A walk that may visit as many elements as there are finds the first list, if there is one. -/
theorem findsFirst_firstWithin (hw : links.Within elements) (ha : a ∈ elements)
    (hn : elements.length ≤ n) : links.FindsFirst own a (links.firstWithin own n a) := by
  have missing : links.firstWithin own n a = none → links.Misses own a :=
    misses_of_firstWithin hw ha .start (by simp) (by rw [List.length_singleton]; omega)
  constructor
  · intro b
    refine ⟨finds_of_firstWithin, fun h => ?_⟩
    cases hfound : links.firstWithin own n a with
    | none => exact absurd (missing hfound) (h.not_misses hw ha)
    | some b' => rw [(finds_of_firstWithin hfound).unique h]
  · refine ⟨missing, fun h => ?_⟩
    cases hfound : links.firstWithin own n a with
    | none => rfl
    | some b => exact absurd h ((finds_of_firstWithin hfound).not_misses hw ha)

theorem FindsFirst.unique {found found' : Option β} (h : links.FindsFirst own a found)
    (h' : links.FindsFirst own a found') : found = found' :=
  Option.ext fun b => (h.eq_some_iff b).trans (h'.eq_some_iff b).symm

end Links

/-! ## Registers and fields -/

theorem findsFirst_registerListWithin {d : Description.Device} {p : PeripheralAt}
    (hp : p ∈ placedPeripherals d) {steps : Nat} (hs : d.peripherals.length ≤ steps) :
    (peripheralLinks d).FindsFirst PeripheralAt.ownRegisters p (registerListWithin d steps p) := by
  rw [registerListWithin_eq]
  refine Links.findsFirst_firstWithin (peripheralLinks_within d) hp ?_
  rwa [length_placedPeripherals]

theorem findsFirst_fieldListWithin {d : Description.Device} {r : RegisterAt}
    (hr : r ∈ declaredRegisters d) {steps : Nat} (hs : d.registerCount ≤ steps) :
    (registerLinks d).FindsFirst RegisterAt.ownFields r (fieldListWithin d steps r) := by
  rw [fieldListWithin_eq]
  refine Links.findsFirst_firstWithin (registerLinks_within d) hr ?_
  rwa [length_declaredRegisters]

/-- The list of a peripheral or register is the first that its derivation leads to, in the place
where it is declared; there is none if and only if the derivation ends, dangles or runs in a circle
before it leads to one. No other bound on the steps of the walk gives anything else, as long as it
is not below the number of peripherals or registers. -/
theorem childLists_found (d : Description.Device) :
    (∀ p ∈ placedPeripherals d,
      (peripheralLinks d).FindsFirst PeripheralAt.ownRegisters p (registerList d p) ∧
      ∀ steps, d.peripherals.length ≤ steps → registerListWithin d steps p = registerList d p) ∧
    ∀ r ∈ declaredRegisters d,
      (registerLinks d).FindsFirst RegisterAt.ownFields r (fieldList d r) ∧
      ∀ steps, d.registerCount ≤ steps → fieldListWithin d steps r = fieldList d r := by
  refine ⟨fun p hp => ?_, fun r hr => ?_⟩
  · have found : (peripheralLinks d).FindsFirst PeripheralAt.ownRegisters p (registerList d p) :=
      findsFirst_registerListWithin hp (Nat.le_succ _)
    exact ⟨found, fun steps hs => (findsFirst_registerListWithin hp hs).unique found⟩
  · have found : (registerLinks d).FindsFirst RegisterAt.ownFields r (fieldList d r) :=
      findsFirst_fieldListWithin hr (Nat.le_succ _)
    exact ⟨found, fun steps hs => (findsFirst_fieldListWithin hr hs).unique found⟩

/-- A register that sets nothing but its name, its base and its fields. -/
def bareRegister (name : String) (base : Option String)
    (fields : Option (List Description.Field)) : Description.Register :=
  ⟨name, base, none, none, none, none, fields⟩

/-- The registers of the peripheral that has a list of its own in the middle of `relayDevice`: the
fields of the first one are those of the last one, reached through two other peripherals, and the
two between derive from each other. -/
def relayRegisters : List Description.Register :=
  [bareRegister "X" (some "D.Y") none, bareRegister "L" (some "M") none,
    bareRegister "M" (some "L") none, bareRegister "Z" none (some [])]

/-- A device where the list of `A` is that of `C`, and where a register of `D` refers to it. -/
def relayDevice : Description.Device where
  name := "R"
  description := none
  access := none
  width := none
  peripherals := [⟨"A", some "B", none, none, none, none, none⟩,
    ⟨"B", some "C", none, none, none, none, none⟩,
    ⟨"C", none, some 0, none, none, none, some relayRegisters⟩,
    ⟨"D", none, some 0, none, none, none, some [bareRegister "Y" (some "A.Z") none]⟩]

/-- In `relayDevice` the register list of `A` is two references away, the field list of `X` is found
across the peripherals `D` and `A`, and the circle of `L` and `M` has none. -/
theorem relayDevice_childLists :
    registerList relayDevice ⟨0, ⟨"A", some "B", none, none, none, none, none⟩⟩ =
      some ⟨2, relayRegisters⟩ ∧
    fieldList relayDevice ⟨⟨2, relayRegisters⟩, 0, bareRegister "X" (some "D.Y") none⟩ =
      some ⟨⟨2, relayRegisters⟩, 3, []⟩ ∧
    fieldList relayDevice ⟨⟨2, relayRegisters⟩, 1, bareRegister "L" (some "M") none⟩ = none := by
  obtain ⟨peripherals, registers⟩ := childLists_found relayDevice
  refine ⟨?_, ?_, ?_⟩
  · obtain ⟨a, -⟩ := peripherals ⟨0, ⟨"A", some "B", none, none, none, none, none⟩⟩
      (by decide +kernel)
    refine (a.eq_some_iff _).2 (.base rfl ⟨"B", rfl, rfl⟩ (.base rfl ⟨"C", rfl, rfl⟩ (.here rfl)))
  · let x : RegisterAt := ⟨⟨2, relayRegisters⟩, 0, bareRegister "X" (some "D.Y") none⟩
    let y : RegisterAt := ⟨⟨3, [bareRegister "Y" (some "A.Z") none]⟩, 0,
      bareRegister "Y" (some "A.Z") none⟩
    let z : RegisterAt := ⟨⟨2, relayRegisters⟩, 3, bareRegister "Z" none (some [])⟩
    have hy : (registerLinks relayDevice).Next x y := by decide +kernel
    have hz : (registerLinks relayDevice).Next y z := by decide +kernel
    obtain ⟨found, -⟩ := registers x (by decide +kernel)
    exact (found.eq_some_iff _).2 (.base rfl hy (.base rfl hz (.here rfl)))
  · let l : RegisterAt := ⟨⟨2, relayRegisters⟩, 1, bareRegister "L" (some "M") none⟩
    let m : RegisterAt := ⟨⟨2, relayRegisters⟩, 2, bareRegister "M" (some "L") none⟩
    have hm : (registerLinks relayDevice).Next l m := by decide +kernel
    have hl : (registerLinks relayDevice).Next m l := by decide +kernel
    obtain ⟨found, -⟩ := registers l (by decide +kernel)
    exact found.eq_none_iff.2 (.loops (.step .start hm (by decide)) (by decide) hl (by decide))

end RegisterHeaders.Derivation
