import RegisterHeaders.Proofs.Derivation.Inheritance

/-!
# Derivations that run in a circle

`links.after a n` is the element that `n` references lead to from `a`, with no record of what was
visited on the way. The walk that resolves a derivation keeps such a record, the trail, and stops at
the first reference that leads back to a place on it. Trails and `after` tell the same story
(`Trail.exists_after`, `exists_trail`), and as there are finitely many places the references end or
lead back after as many links as there are elements at most (`exists_stop`).

The main result is `flatten_follows`: for every declared element of a description, whatever the
names are, a cycle is reported if and only if the references lead back to a visited place, and the
report names the elements up to the first return. A derivation whose references come to an end is
never reported.
-/

namespace RegisterHeaders.Derivation

namespace Links

variable {α ι ρ : Type} {links : Links α ι} {elements : List α} {a b c : α} {n : Nat}

/-! ## Following references -/

/-- The element that `n` references lead to from `a`, if there is one. -/
def after (links : Links α ι) (a : α) : Nat → Option α
  | 0 => some a
  | n + 1 => (links.after a n).bind fun b => (links.reference b).bind (links.find b)

/-- After `n` references from `a` the place is one that was visited before. -/
def ReturnsAt (links : Links α ι) (a : α) (n : Nat) : Prop :=
  (links.after a n).isSome ∧
    ∃ m < n, (links.after a m).map links.place = (links.after a n).map links.place

/-- The first return to a visited place is after `n` references from `a`. -/
def FirstReturn (links : Links α ι) (a : α) (n : Nat) : Prop :=
  links.ReturnsAt a n ∧ ∀ m < n, ¬ links.ReturnsAt a m

instance [DecidableEq ι] (links : Links α ι) (a : α) (n : Nat) : Decidable (links.ReturnsAt a n) :=
  inferInstanceAs (Decidable (_ ∧ _))

instance [DecidableEq ι] (links : Links α ι) (a : α) (n : Nat) :
    Decidable (links.FirstReturn a n) :=
  inferInstanceAs (Decidable (_ ∧ _))

/-- The names of the elements that the first `n` references from `a` lead to, from `a` on. -/
def Names (links : Links α ι) (a : α) (n : Nat) (names : List String) : Prop :=
  List.Forall₂ (fun m name => (links.after a m).map links.name = some name) (List.range (n + 1))
    names

instance (links : Links α ι) (a : α) (n : Nat) (names : List String) :
    Decidable (links.Names a n names) :=
  inferInstanceAs (Decidable (List.Forall₂ _ _ _))

theorem after_succ_eq_some_iff :
    links.after a (n + 1) = some c ↔ ∃ b, links.after a n = some b ∧ links.Next b c := by
  simp only [after, Option.bind_eq_some_iff, Next]

/-- After a reference from `a` to `b`, what follows `b` follows `a` one reference later. -/
theorem after_succ_of_next (h : links.Next a b) : links.after a (n + 1) = links.after b n := by
  induction n with
  | zero => exact after_succ_eq_some_iff.2 ⟨a, rfl, h⟩
  | succ n ih => rw [after, ih, after]

theorem exists_after_of_le (h : links.after a n = some b) {m : Nat} (hm : m ≤ n) :
    ∃ x, links.after a m = some x := by
  induction n generalizing b with
  | zero => exact ⟨a, by rw [Nat.le_zero.1 hm]; rfl⟩
  | succ n ih =>
    obtain ⟨x, hx, -⟩ := after_succ_eq_some_iff.1 h
    rcases Nat.lt_or_eq_of_le hm with hm | rfl
    · exact ih hx (Nat.le_of_lt_succ hm)
    · exact ⟨b, h⟩

theorem returnsAt_iff (h : links.after a n = some c) :
    links.ReturnsAt a n ↔
      ∃ m < n, ∃ b, links.after a m = some b ∧ links.place b = links.place c := by
  simp only [ReturnsAt, h, Option.isSome_some, Option.map_some, Option.map_eq_some_iff, true_and]

/-! ## Trails -/

/-- A trail lists what is reached after each of its references. -/
theorem Trail.exists_after {trail : List α} (h : links.Trail a trail b) :
    ∃ n, trail.length = n + 1 ∧ links.after a n = some b ∧
      ∀ m ≤ n, trail[m]? = links.after a m := by
  induction h with
  | start =>
    refine ⟨0, rfl, rfl, fun m hm => ?_⟩
    rw [Nat.le_zero.1 hm]
    rfl
  | @step trail b c visited hn fresh ih =>
    obtain ⟨n, length, last, listed⟩ := ih
    have next : links.after a (n + 1) = some c := after_succ_eq_some_iff.2 ⟨b, last, hn⟩
    refine ⟨n + 1, by simp [length], next, fun m hm => ?_⟩
    rcases Nat.lt_or_eq_of_le hm with hm | rfl
    · rw [List.getElem?_append_left (by omega), listed m (by omega)]
    · rw [next, ← length, List.getElem?_concat_length]

/-- Up to the first return, what is reached after each reference makes a trail. -/
theorem exists_trail (h : links.after a n = some b) (fresh : ∀ m ≤ n, ¬ links.ReturnsAt a m) :
    ∃ trail, links.Trail a trail b ∧ trail.length = n + 1 := by
  induction n generalizing b with
  | zero =>
    obtain rfl := Option.some.inj h
    exact ⟨[a], .start, rfl⟩
  | succ n ih =>
    obtain ⟨x, hx, hn⟩ := after_succ_eq_some_iff.1 h
    obtain ⟨trail, visited, length⟩ := ih hx fun m hm => fresh m (by omega)
    refine ⟨trail ++ [b], visited.step hn fun back => ?_, by simp [length]⟩
    -- a place on the trail is that of an element reached before
    obtain ⟨y, hy, place⟩ := List.mem_map.1 back
    obtain ⟨m, hm⟩ := List.getElem?_of_mem hy
    obtain ⟨n', length', -, listed⟩ := visited.exists_after
    have hlt := (List.getElem?_eq_some_iff.1 hm).1
    rw [listed m (by omega)] at hm
    exact fresh (n + 1) (Nat.le_refl _) ((returnsAt_iff h).2 ⟨m, by omega, y, hm, place⟩)

/-- There is no return on a trail. -/
theorem Trail.not_returnsAt {trail : List α} (h : links.Trail a trail b) {m : Nat}
    (hm : m < trail.length) : ¬ links.ReturnsAt a m := by
  obtain ⟨n, length, -, listed⟩ := h.exists_after
  intro back
  obtain ⟨c, hc⟩ := Option.isSome_iff_exists.1 back.1
  obtain ⟨k, hk, x, hx, place⟩ := (returnsAt_iff hc).1 back
  rw [← listed m (by omega)] at hc
  rw [← listed k (by omega)] at hx
  have same : (trail.map links.place)[k]? = (trail.map links.place)[m]? := by
    rw [List.getElem?_map, List.getElem?_map, hx, hc, Option.map_some, Option.map_some, place]
  have := (List.nodup_iff_getElem?_ne_getElem?.1 h.nodup) k m hk (by rwa [List.length_map])
  exact this same

/-- The references end or lead back after as many links as there are elements at most. -/
theorem exists_stop (hw : links.Within elements) (ha : a ∈ elements) :
    ∃ n ≤ elements.length, links.after a n = none ∨ links.ReturnsAt a n := by
  by_contra never
  push Not at never
  obtain ⟨b, hb⟩ := Option.ne_none_iff_exists'.1 (never elements.length (Nat.le_refl _)).1
  obtain ⟨trail, visited, length⟩ := exists_trail hb fun m hm => (never m hm).2
  have := visited.length_le hw ha
  omega

/-! ## The outcome of following references -/

/-- The names on a trail, and that of the element after it, are those of the elements reached. -/
theorem Trail.names {trail : List α} (h : links.Trail a trail b) (hn : links.Next b c) :
    links.Names a trail.length ((trail ++ [c]).map links.name) := by
  obtain ⟨n, length, last, listed⟩ := h.exists_after
  have next : links.after a (n + 1) = some c := after_succ_eq_some_iff.2 ⟨b, last, hn⟩
  rw [Names, List.forall₂_iff_get]
  refine ⟨by simp, fun m hm hm' => ?_⟩
  rw [List.length_range] at hm
  simp only [List.get_eq_getElem, List.getElem_range, List.getElem_map]
  by_cases hlt : m < trail.length
  · rw [List.getElem_append_left hlt, ← listed m (by omega), List.getElem?_eq_getElem hlt,
      Option.map_some]
  · obtain rfl : m = n + 1 := by omega
    rw [next, Option.map_some, List.getElem_append_right (by omega), List.getElem_singleton]

theorem Names.unique {names names' : List String} (h : links.Names a n names)
    (h' : links.Names a n names') : names = names' := by
  rw [Names] at h h'
  generalize List.range (n + 1) = steps at h h'
  induction h generalizing names' with
  | nil =>
    cases h'
    rfl
  | cons hx _ ih =>
    cases h' with
    | cons hx' h' => rw [Option.some.inj (hx.symm.trans hx'), ih h']

/-- Following the references from `a` fails with a cycle if and only if they lead back to a visited
place; the names are those of the elements up to the first return. -/
theorem failure_cycle_iff {kind : ElementKind} {names : List String} :
    links.Failure a (.cycle kind names) ↔
      kind = links.kind ∧ ∃ n, links.FirstReturn a n ∧ links.Names a n names := by
  constructor
  · intro h
    cases h with
    | @circular trail b c visited hn back =>
      refine ⟨rfl, trail.length, ⟨?_, fun m hm => visited.not_returnsAt hm⟩, visited.names hn⟩
      obtain ⟨n, length, last, listed⟩ := visited.exists_after
      have next : links.after a trail.length = some c := by
        rw [length]
        exact after_succ_eq_some_iff.2 ⟨b, last, hn⟩
      obtain ⟨x, hx, place⟩ := List.mem_map.1 back
      obtain ⟨m, hm⟩ := List.getElem?_of_mem hx
      have hlt := (List.getElem?_eq_some_iff.1 hm).1
      rw [listed m (by omega)] at hm
      exact (returnsAt_iff next).2 ⟨m, hlt, x, hm, place⟩
  · rintro ⟨rfl, n, ⟨back, first⟩, hnames⟩
    obtain ⟨c, hc⟩ := Option.isSome_iff_exists.1 back.1
    obtain ⟨m, hm, x, hx, place⟩ := (returnsAt_iff hc).1 back
    obtain ⟨k, rfl⟩ : ∃ k, n = k + 1 := ⟨n - 1, by omega⟩
    obtain ⟨b, hb, hn⟩ := after_succ_eq_some_iff.1 hc
    obtain ⟨trail, visited, length⟩ := exists_trail hb fun j hj => first j (by omega)
    obtain ⟨k', length', -, listed⟩ := visited.exists_after
    rw [← listed m (by omega)] at hx
    have hmem : links.place c ∈ trail.map links.place :=
      List.mem_map.2 ⟨x, List.mem_of_getElem? hx, place⟩
    rw [← length] at hnames
    rw [hnames.unique (visited.names hn)]
    exact .circular visited hn hmem

/-- An element has a derivation chain if and only if its references lead to an element without
one. -/
theorem exists_chain_iff :
    (∃ chain, links.Chain a chain) ↔
      ∃ n b, links.after a n = some b ∧ links.reference b = none := by
  constructor
  · rintro ⟨chain, h⟩
    induction h with
    | @last a h => exact ⟨0, a, rfl, h⟩
    | link hn _ ih =>
      obtain ⟨n, b, hb, hr⟩ := ih
      exact ⟨n + 1, b, by rw [after_succ_of_next hn, hb], hr⟩
  · rintro ⟨n, b, hb, hr⟩
    induction n generalizing a with
    | zero =>
      obtain rfl := Option.some.inj hb
      exact ⟨[a], .last hr⟩
    | succ n ih =>
      obtain ⟨x, hx⟩ := exists_after_of_le hb (Nat.succ_le_succ (Nat.zero_le n))
      obtain ⟨a', ha', hn⟩ := after_succ_eq_some_iff.1 hx
      obtain rfl := Option.some.inj ha'
      rw [after_succ_of_next hn] at hb
      obtain ⟨chain, hc⟩ := ih hb
      exact ⟨_, .link hn hc⟩

/-- `outcome` is what following the references from `a` comes to, where `count` is the number of
elements. -/
structure IsOutcome (links : Links α ι) (count : Nat) (a : α) (outcome : Except Error ρ) :
    Prop where
  /-- The references end or lead back, after `count` of them at most. -/
  stops : ∃ n ≤ count, links.after a n = none ∨ links.ReturnsAt a n
  /-- There is a result if the references come to an end, whatever the names on the way are. -/
  exists_ok_iff : (∃ merged, outcome = .ok merged) ↔
    ∃ n b, links.after a n = some b ∧ links.reference b = none
  /-- A cycle is reported if the references lead back to a visited place, with the names up to the
  first return. -/
  cycle_iff : ∀ kind names, outcome = .error (.cycle kind names) ↔
    kind = links.kind ∧ ∃ n, links.FirstReturn a n ∧ links.Names a n names

theorem isOutcome (hw : links.Within elements) (ha : a ∈ elements) {count : Nat}
    (hc : elements.length = count) {outcome : Except Error ρ} {collect : List α → ρ}
    (ok : ∀ merged, outcome = .ok merged ↔ ∃ chain, links.Chain a chain ∧ collect chain = merged)
    (error : ∀ e, outcome = .error e ↔ links.Failure a e) : links.IsOutcome count a outcome where
  stops := hc ▸ exists_stop hw ha
  exists_ok_iff := by
    rw [← exists_chain_iff]
    simp only [ok]
    exact ⟨fun ⟨_, chain, h, _⟩ => ⟨chain, h⟩, fun ⟨chain, h⟩ => ⟨_, chain, h, rfl⟩⟩
  cycle_iff kind names := (error _).trans failure_cycle_iff

end Links

/-- Flattening an element of a description comes to what following its references comes to: it
stops, and it reports a cycle if and only if the references lead back to the place of an element
that was visited before. -/
theorem flatten_follows (d : Description.Device) :
    (∀ p ∈ placedPeripherals d,
      (peripheralLinks d).IsOutcome d.peripherals.length p (flattenPeripheral d p)) ∧
    (∀ r ∈ declaredRegisters d,
      (registerLinks d).IsOutcome d.registerCount r (flattenRegister d r)) ∧
    ∀ f ∈ declaredFields d, (fieldLinks d).IsOutcome d.fieldCount f (flattenField d f) := by
  refine ⟨fun p hp => ?_, fun r hr => ?_, fun f hf => ?_⟩
  · exact Links.isOutcome (peripheralLinks_within d) hp (length_placedPeripherals d)
      (fun _ => flattenPeripheral_eq_ok_iff hp) fun _ => flattenPeripheral_eq_error_iff hp
  · exact Links.isOutcome (registerLinks_within d) hr (length_declaredRegisters d)
      (fun _ => flattenRegister_eq_ok_iff hr) fun _ => flattenRegister_eq_error_iff hr
  · exact Links.isOutcome (fieldLinks_within d) hf (length_declaredFields d)
      (fun _ => flattenField_eq_ok_iff hf) fun _ => flattenField_eq_error_iff hf

/-- A register that sets nothing and derives from another one. -/
def derivedRegister (name base : String) : Description.Register :=
  ⟨name, some base, none, none, none, none, none⟩

/-- Registers of which the first is not in the circle that its derivation leads into. -/
def circleRegisters : List Description.Register :=
  [derivedRegister "A" "B", derivedRegister "B" "C", derivedRegister "C" "B"]

/-- A device with these registers, and with two peripherals of one name, the second of which derives
from the first. -/
def circleDevice : Description.Device where
  name := "D"
  description := none
  access := none
  width := none
  peripherals := [⟨"P", none, some 0, none, none, none, some circleRegisters⟩,
    ⟨"P", some "P", none, none, none, none, none⟩]

/-- The derivation of the first register returns to the second one; that of the second peripheral
does not return, although the peripherals have the same name. -/
theorem circleDevice_follows :
    flattenRegister circleDevice ⟨⟨0, circleRegisters⟩, 0, derivedRegister "A" "B"⟩ =
      .error (.cycle .register ["A", "B", "C", "B"]) ∧
    ∃ merged, flattenPeripheral circleDevice ⟨1, ⟨"P", some "P", none, none, none, none, none⟩⟩ =
      .ok merged := by
  obtain ⟨peripherals, registers, -⟩ := flatten_follows circleDevice
  constructor
  · have first := registers ⟨⟨0, circleRegisters⟩, 0, derivedRegister "A" "B"⟩ (by decide +kernel)
    exact (first.cycle_iff _ _).2 ⟨rfl, 3, by decide +kernel, by decide +kernel⟩
  · have second := peripherals ⟨1, ⟨"P", some "P", none, none, none, none, none⟩⟩
      (by decide +kernel)
    exact second.exists_ok_iff.2 ⟨1, ⟨0, ⟨"P", none, some 0, none, none, none, some circleRegisters⟩⟩,
      by decide +kernel, rfl⟩

end RegisterHeaders.Derivation
