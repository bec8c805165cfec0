import RegisterHeaders.Proofs.Svd.Placement

/-!
# Routes to the registers of a list

A single register is known by the route that leads to it from the register list of its peripheral:
at every level an entry of the list and one of the elements that the entry stands for. Routes are in
document order if the first turn in which they differ takes an earlier entry, or an earlier element
of the same entry. `routesOf` lists the routes that lead somewhere (`mem_routesOf_iff`) in document
order (`pairwise_before_routesOf`), side by side with the placements that they lead to
(`placementAt?_routesOf`).
-/

namespace RegisterHeaders.Svd

/-! ## Routes -/

/-- A turn on the way to a register: the position of an entry in its list, and that of one of the
elements that the entry stands for. -/
structure Turn where
  entry : Nat
  element : Nat
  deriving Repr, DecidableEq

/-- The way from a register list to a single register, one turn for every level. -/
abbrev Route := List Turn

/-- Whether a route comes before another one in document order. -/
def Route.Before : Route → Route → Prop
  | s :: r, t :: u =>
    s.entry < t.entry ∨
      s.entry = t.entry ∧ (s.element < t.element ∨ s.element = t.element ∧ Before r u)
  | _, _ => False

/-- The placement that a route leads to from a list of entries in the given clusters. -/
def placementAt? (clusters : List (Cluster × Instance)) (entries : List Entry) :
    Route → Option Placement
  | [] => none
  | turn :: rest =>
    match entries[turn.entry]? with
    | none => none
    | some (.register r) =>
      if rest = [] then
        (instances r.name r.array)[turn.element]?.map fun i => ⟨r, i, entries, clusters⟩
      else none
    | some (.cluster c inner) =>
      (instances c.name c.array)[turn.element]?.bind fun i =>
        placementAt? ((c, i) :: clusters) inner rest

mutual

/-- The routes to the registers of the entry at a position. -/
def Entry.routes (position : Nat) : Entry → List Route
  | .register r =>
    (List.range (instances r.name r.array).length).map fun element => [⟨position, element⟩]
  | .cluster c entries =>
    (List.range (instances c.name c.array).length).flatMap fun element =>
      (routesFrom 0 entries).map (⟨position, element⟩ :: ·)

/-- The routes to the registers of the entries from a position on. -/
def routesFrom (position : Nat) : List Entry → List Route
  | [] => []
  | entry :: rest => entry.routes position ++ routesFrom (position + 1) rest

end

/-- The routes to the registers of a list, in document order. -/
def routesOf (entries : List Entry) : List Route :=
  routesFrom 0 entries

/-! ## Membership -/

theorem mem_routes_register_iff {turn : Turn} {rest : Route} {k : Nat} {r : Register} :
    turn :: rest ∈ (Entry.register r).routes k ↔
      turn.entry = k ∧ turn.element < (instances r.name r.array).length ∧ rest = [] := by
  obtain ⟨entry, element⟩ := turn
  simp only [Entry.routes, List.mem_map, List.mem_range, List.cons.injEq, Turn.mk.injEq]
  constructor
  · rintro ⟨i, hi, ⟨rfl, rfl⟩, rfl⟩
    exact ⟨rfl, hi, rfl⟩
  · rintro ⟨rfl, hi, rfl⟩
    exact ⟨element, hi, ⟨rfl, rfl⟩, rfl⟩

theorem mem_routes_cluster_iff {turn : Turn} {rest : Route} {k : Nat} {c : Cluster}
    {entries : List Entry} :
    turn :: rest ∈ (Entry.cluster c entries).routes k ↔
      turn.entry = k ∧ turn.element < (instances c.name c.array).length ∧
        rest ∈ routesOf entries := by
  obtain ⟨entry, element⟩ := turn
  simp only [Entry.routes, List.mem_flatMap, List.mem_map, List.mem_range, List.cons.injEq,
    Turn.mk.injEq]
  constructor
  · rintro ⟨i, hi, rest, hr, ⟨rfl, rfl⟩, rfl⟩
    exact ⟨rfl, hi, hr⟩
  · rintro ⟨rfl, hi, hr⟩
    exact ⟨element, hi, rest, hr, ⟨rfl, rfl⟩, rfl⟩

theorem nil_not_mem_routes {k : Nat} {entry : Entry} : [] ∉ entry.routes k := by
  cases entry <;> simp [Entry.routes]

/-- The routes of an entry begin with its position. -/
theorem entry_eq_of_mem_routes {turn : Turn} {rest : Route} {k : Nat} {entry : Entry}
    (h : turn :: rest ∈ entry.routes k) : turn.entry = k := by
  cases entry with
  | register r => exact (mem_routes_register_iff.1 h).1
  | cluster c entries => exact (mem_routes_cluster_iff.1 h).1

theorem mem_routesFrom_iff {route : Route} {k : Nat} {entries : List Entry} :
    route ∈ routesFrom k entries ↔
      ∃ (j : Nat) (entry : Entry), entries[j]? = some entry ∧ route ∈ entry.routes (k + j) := by
  induction entries generalizing k with
  | nil => simp [routesFrom]
  | cons entry rest ih =>
    rw [routesFrom, List.mem_append, ih]
    constructor
    · rintro (h | ⟨j, e, he, h⟩)
      · exact ⟨0, entry, rfl, h⟩
      · exact ⟨j + 1, e, he, by rwa [show k + (j + 1) = k + 1 + j by omega]⟩
    · rintro ⟨_ | j, e, he, h⟩
      · obtain rfl := Option.some.inj he
        exact Or.inl h
      · exact Or.inr ⟨j, e, he, by rwa [show k + 1 + j = k + (j + 1) by omega]⟩

theorem cons_mem_routesOf_iff {turn : Turn} {rest : Route} {entries : List Entry} :
    turn :: rest ∈ routesOf entries ↔
      ∃ entry, entries[turn.entry]? = some entry ∧ turn :: rest ∈ entry.routes turn.entry := by
  rw [routesOf, mem_routesFrom_iff]
  simp only [Nat.zero_add]
  constructor
  · rintro ⟨j, entry, he, h⟩
    obtain rfl := entry_eq_of_mem_routes h
    exact ⟨entry, he, h⟩
  · rintro ⟨entry, he, h⟩
    exact ⟨turn.entry, entry, he, h⟩

/-- The routes of a list are those that lead to a placement. -/
theorem mem_routesOf_iff {route : Route} {clusters : List (Cluster × Instance)}
    {entries : List Entry} :
    route ∈ routesOf entries ↔ ∃ p, placementAt? clusters entries route = some p := by
  induction route generalizing clusters entries with
  | nil =>
    rw [routesOf, mem_routesFrom_iff]
    simp [nil_not_mem_routes, placementAt?]
  | cons turn rest ih =>
    rw [cons_mem_routesOf_iff, placementAt?]
    cases hentry : entries[turn.entry]? with
    | none => simp
    | some entry =>
      simp only [Option.some.injEq, exists_eq_left']
      cases entry with
      | register r =>
        simp only [mem_routes_register_iff, true_and]
        by_cases hr : rest = [] <;> simp [hr, List.getElem?_eq_some_iff]
      | cluster c inner =>
        simp only [mem_routes_cluster_iff, true_and]
        constructor
        · rintro ⟨within, h⟩
          obtain ⟨p, hp⟩ := ih.1 h
          exact ⟨p, Option.bind_eq_some_iff.2 ⟨_, List.getElem?_eq_getElem within, hp⟩⟩
        · rintro ⟨p, hp⟩
          obtain ⟨i, hi, hp⟩ := Option.bind_eq_some_iff.1 hp
          exact ⟨(List.getElem?_eq_some_iff.1 hi).1, ih.2 ⟨p, hp⟩⟩

/-! ## Document order -/

theorem pairwise_lt_turn {k n : Nat} {routes : List Route}
    (h : routes.Pairwise Route.Before) :
    ((List.range n).flatMap fun element => routes.map (⟨k, element⟩ :: ·)).Pairwise
      Route.Before := by
  rw [List.pairwise_flatMap]
  constructor
  · intro element _
    rw [List.pairwise_map]
    exact h.imp fun hab => Or.inr ⟨rfl, Or.inr ⟨rfl, hab⟩⟩
  · refine List.pairwise_lt_range.imp fun hij r hr u hu => ?_
    obtain ⟨_, -, rfl⟩ := List.mem_map.1 hr
    obtain ⟨_, -, rfl⟩ := List.mem_map.1 hu
    exact Or.inr ⟨rfl, Or.inl hij⟩

/-- The turns of routes of earlier entries come first. -/
theorem before_of_mem_routes {k m : Nat} (hkm : k < m) {entry entry' : Entry} {r u : Route}
    (hr : r ∈ entry.routes k) (hu : u ∈ entry'.routes m) : r.Before u := by
  cases r with
  | nil => exact absurd hr nil_not_mem_routes
  | cons s r =>
    cases u with
    | nil => exact absurd hu nil_not_mem_routes
    | cons t u =>
      obtain rfl := entry_eq_of_mem_routes hr
      obtain rfl := entry_eq_of_mem_routes hu
      exact Or.inl hkm

mutual

theorem Entry.pairwise_before_routes (k : Nat) (entry : Entry) :
    (entry.routes k).Pairwise Route.Before := by
  cases entry with
  | register r =>
    rw [Entry.routes, List.pairwise_map]
    exact List.pairwise_lt_range.imp fun hij => Or.inr ⟨rfl, Or.inl hij⟩
  | cluster c entries =>
    rw [Entry.routes]
    exact pairwise_lt_turn (pairwise_before_routesFrom 0 entries)

theorem pairwise_before_routesFrom (k : Nat) (entries : List Entry) :
    (routesFrom k entries).Pairwise Route.Before := by
  cases entries with
  | nil => exact .nil
  | cons entry rest =>
    rw [routesFrom, List.pairwise_append]
    refine ⟨entry.pairwise_before_routes k, pairwise_before_routesFrom (k + 1) rest, ?_⟩
    intro r hr u hu
    obtain ⟨j, entry', -, hu⟩ := mem_routesFrom_iff.1 hu
    exact before_of_mem_routes (by omega) hr hu

end

/-- The routes of a list are in document order. -/
theorem pairwise_before_routesOf (entries : List Entry) :
    (routesOf entries).Pairwise Route.Before :=
  pairwise_before_routesFrom 0 entries

theorem Route.not_before_self (r : Route) : ¬ r.Before r := by
  induction r with
  | nil => exact id
  | cons turn rest ih => simp [Before, ih]

theorem nodup_routesOf (entries : List Entry) : (routesOf entries).Nodup :=
  (pairwise_before_routesOf entries).imp fun h heq => by
    subst heq
    exact Route.not_before_self _ h

/-! ## Routes and placements -/

theorem forall₂_range_getElem? {α : Type} (xs : List α) :
    List.Forall₂ (fun i x => xs[i]? = some x) (List.range xs.length) xs := by
  rw [List.forall₂_iff_get]
  refine ⟨List.length_range, fun i h₁ h₂ => ?_⟩
  simp

mutual

/-- The routes of an entry lead to its placements. -/
theorem Entry.placementAt?_routes {clusters : List (Cluster × Instance)} {siblings : List Entry}
    {k : Nat} {entry : Entry} (h : siblings[k]? = some entry) :
    List.Forall₂ (fun route p => placementAt? clusters siblings route = some p) (entry.routes k)
      (entry.placements clusters siblings) := by
  cases entry with
  | register r =>
    rw [Entry.routes, Entry.placements, List.forall₂_map_left_iff, List.forall₂_map_right_iff]
    refine (forall₂_range_getElem? _).imp fun element i hi => ?_
    simp [placementAt?, h, hi]
  | cluster c entries =>
    rw [Entry.routes, Entry.placements]
    refine List.rel_flatMap (forall₂_range_getElem? _) fun element i hi => ?_
    rw [List.forall₂_map_left_iff]
    have inner (j : Nat) : entries[j]? = entries[0 + j]? := by rw [Nat.zero_add]
    refine (placementAt?_routesFrom inner).imp fun route p hp => ?_
    simp [placementAt?, h, hi, hp]

/-- The routes of the entries from a position on lead to their placements. -/
theorem placementAt?_routesFrom {clusters : List (Cluster × Instance)} {siblings : List Entry}
    {k : Nat} {entries : List Entry} (h : ∀ j, entries[j]? = siblings[k + j]?) :
    List.Forall₂ (fun route p => placementAt? clusters siblings route = some p)
      (routesFrom k entries) (placementsIn clusters siblings entries) := by
  cases entries with
  | nil => exact .nil
  | cons entry rest =>
    rw [routesFrom, placementsIn]
    refine List.rel_append (Entry.placementAt?_routes (h 0).symm) (placementAt?_routesFrom ?_)
    intro j
    rw [show k + 1 + j = k + (j + 1) by omega, ← h (j + 1)]
    rfl

end

/-- The routes of a list lead to its placements, one after the other. -/
theorem placementAt?_routesOf (entries : List Entry) :
    List.Forall₂ (fun route p => placementAt? [] entries route = some p) (routesOf entries)
      (placementsOf entries) :=
  placementAt?_routesFrom fun j => by rw [Nat.zero_add]

end RegisterHeaders.Svd
