import Mathlib.Data.List.Find
import Mathlib.Data.List.Nodup
import Mathlib.Data.List.Perm.Basic
import RegisterHeaders.Proofs.Steps

/-!
# Arranging lists

A list is put into another order by the positions that its elements are taken from (`arrange`). If
every position is taken once, what is found under a name that no two elements share stays the same
(`find?_arrange_map`), the place of an element in the new list is known from its place in the old
one (`zipIdx_arrange`), and a step that succeeds for all elements gives the results in the new order
(`mapM_arrange_eq_ok_iff`).
-/

namespace RegisterHeaders.Derivation

open Steps

variable {α β γ ε : Type} {order : Option (List Nat)} {xs : List α}

/-- The elements at the given positions. Without positions the list stays as it is. -/
def arrange (order : Option (List Nat)) (xs : List α) : List α :=
  match order with
  | none => xs
  | some positions => positions.filterMap (xs[·]?)

/-- The new position of the element at position `i`. -/
def positionIn (order : Option (List Nat)) (i : Nat) : Nat :=
  match order with
  | none => i
  | some positions => positions.idxOf i

/-- The positions, if any are given, are those of all names, no two of which are the same. -/
def Fits (order : Option (List Nat)) (names : List String) : Prop :=
  ∀ positions ∈ order, positions.Perm (List.range names.length) ∧ names.Nodup

instance (names : List String) : Decidable (Fits order names) :=
  inferInstanceAs (Decidable (∀ positions ∈ order, _))

theorem arrange_map (f : α → β) (xs : List α) :
    arrange order (xs.map f) = (arrange order xs).map f := by
  rcases order with _ | positions
  · rfl
  · simp only [arrange, List.map_filterMap, List.getElem?_map]

theorem filterMap_getElem?_range (xs : List α) :
    (List.range xs.length).filterMap (xs[·]?) = xs := by
  induction xs with
  | nil => rfl
  | cons x xs ih =>
    rw [List.length_cons, List.range_succ_eq_map, List.filterMap_cons, List.filterMap_map]
    simp only [List.getElem?_cons_zero, Function.comp_def, List.getElem?_cons_succ, ih]

section Fits

variable {names : List String}

theorem arrange_perm (h : Fits order names) (length : xs.length = names.length) :
    (arrange order xs).Perm xs := by
  rcases order with _ | positions
  · exact .refl xs
  · have perm := (h positions rfl).1.filterMap (xs[·]?)
    rwa [← length, filterMap_getElem?_range] at perm

/-- An element of a name that no other has is found wherever it stands. -/
theorem find?_arrange_map (move : α → β) (name : β → String)
    (h : Fits order (xs.map fun x => name (move x))) (wanted : String) :
    (arrange order (xs.map move)).find? (name · = wanted) =
      (xs.find? fun x => name (move x) = wanted).map move := by
  rw [arrange_map, List.find?_map]
  rcases order with _ | positions
  · rfl
  · obtain ⟨-, nodup⟩ := h positions rfl
    have perm : (arrange (some positions) xs).Perm xs := arrange_perm h (by simp)
    apply congrArg (Option.map move)
    refine (List.find?_eq_find?_of_perm perm.symm ?_).symm
    rintro x ⟨hx, hxn⟩ y ⟨hy, hyn⟩
    exact List.inj_on_of_nodup_map nodup hx hy
      ((of_decide_eq_true hxn).trans (of_decide_eq_true hyn).symm)

theorem getElem?_filterMap_of_lt {positions : List Nat} (h : ∀ i ∈ positions, i < xs.length)
    (k : Nat) : (positions.filterMap (xs[·]?))[k]? = positions[k]?.bind (xs[·]?) := by
  induction positions generalizing k with
  | nil => rfl
  | cons i positions ih =>
    rw [List.forall_mem_cons] at h
    rw [List.filterMap_cons, List.getElem?_eq_getElem h.1]
    cases k with
    | zero => simp [h.1]
    | succ k => simpa using ih h.2 k

/-- The elements of a list in another order, each with its new position. -/
theorem zipIdx_arrange (h : Fits order names) (length : xs.length = names.length) :
    (arrange order xs).zipIdx =
      arrange order (xs.zipIdx.map fun x => (x.1, positionIn order x.2)) := by
  rcases order with _ | positions
  · simp [arrange, positionIn]
  · obtain ⟨perm, -⟩ := h positions rfl
    have lt : ∀ i ∈ positions, i < xs.length := by
      intro i hi
      rw [length]
      exact List.mem_range.1 (perm.subset hi)
    have nodup : positions.Nodup := perm.nodup_iff.2 List.nodup_range
    apply List.ext_getElem?
    intro k
    rw [List.getElem?_zipIdx, arrange, arrange, getElem?_filterMap_of_lt lt,
      getElem?_filterMap_of_lt (by simpa using lt)]
    cases hk : positions[k]? with
    | none => rfl
    | some i =>
      obtain ⟨inside, rfl⟩ := List.getElem?_eq_some_iff.1 hk
      simp [positionIn, nodup.idxOf_getElem k inside, List.getElem?_zipIdx, Function.comp_def]

theorem map_zipIdx_arrange (h : Fits order names) (length : xs.length = names.length)
    (make : α × Nat → β) :
    (arrange order xs).zipIdx.map make =
      arrange order (xs.zipIdx.map fun x => make (x.1, positionIn order x.2)) := by
  rw [zipIdx_arrange h length, ← arrange_map, List.map_map]
  rfl

end Fits

theorem forall₂_arrange {R : α → β → Prop} {ys : List β} (h : List.Forall₂ R xs ys) :
    List.Forall₂ R (arrange order xs) (arrange order ys) := by
  rcases order with _ | positions
  · exact h
  · induction positions with
    | nil => exact .nil
    | cons i positions ih =>
      cases hy : ys[i]? with
      | none =>
        have hx : xs[i]? = none := by
          rw [List.getElem?_eq_none_iff] at hy ⊢
          rwa [h.length_eq]
        simpa only [arrange, List.filterMap_cons, hx, hy] using ih
      | some y =>
        obtain ⟨x, hx, hxy⟩ := forall₂_getElem? h hy
        simp only [arrange, List.filterMap_cons, hx, hy]
        exact .cons hxy ih

/-- A step succeeds for the elements in the other order if and only if it does in the first, with
the results in the other order. -/
theorem mapM_arrange_eq_ok_iff {names : List String} (h : Fits order names)
    (length : xs.length = names.length) {f : α → Except ε β} {zs : List β} :
    (arrange order xs).mapM f = .ok zs ↔ ∃ ys, xs.mapM f = .ok ys ∧ arrange order ys = zs := by
  have arranged {ys : List β} (hys : xs.mapM f = .ok ys) :
      (arrange order xs).mapM f = .ok (arrange order ys) :=
    mapM_eq_ok_iff.2 (forall₂_arrange (mapM_eq_ok_iff.1 hys))
  constructor
  · intro hzs
    have all : ∀ x ∈ xs, ∃ y, f x = .ok y := fun x hx =>
      exists_mapM_eq_ok_iff.1 ⟨zs, hzs⟩ x ((arrange_perm h length).mem_iff.2 hx)
    obtain ⟨ys, hys⟩ := exists_mapM_eq_ok all
    exact ⟨ys, hys, Except.ok.inj ((arranged hys).symm.trans hzs)⟩
  · rintro ⟨ys, hys, rfl⟩
    exact arranged hys

/-- Steps that do the same for corresponding elements, but for a change of the result. -/
theorem mapM_map_eq_ok_iff {δ : Type} {f : α → Except ε β} {g : γ → Except ε δ} {move : α → γ}
    {change : α → β → δ}
    (same : ∀ x ∈ xs, ∀ z, g (move x) = .ok z ↔ ∃ y, f x = .ok y ∧ change x y = z)
    {zs : List δ} :
    (xs.map move).mapM g = .ok zs ↔ ∃ ys, xs.mapM f = .ok ys ∧ List.zipWith change xs ys = zs := by
  induction xs generalizing zs with
  | nil => simp [pure, Except.pure, eq_comm]
  | cons x xs ih =>
    rw [List.forall_mem_cons] at same
    simp only [List.map_cons, List.mapM_cons, bind_eq_ok_iff, same.1, ih same.2, pure, Except.pure,
      Except.ok.injEq]
    constructor
    · rintro ⟨_, ⟨y, hy, rfl⟩, _, ⟨ys, hys, rfl⟩, rfl⟩
      exact ⟨y :: ys, ⟨y, hy, ys, hys, rfl⟩, rfl⟩
    · rintro ⟨_, ⟨y, hy, ys, hys, rfl⟩, rfl⟩
      exact ⟨_, ⟨y, hy, rfl⟩, _, ⟨ys, hys, rfl⟩, rfl⟩

theorem mapM_arrange_map_eq_ok_iff {δ : Type} {names : List String} (h : Fits order names)
    (length : xs.length = names.length) {f : α → Except ε β} {g : γ → Except ε δ} {move : α → γ}
    {change : α → β → δ}
    (same : ∀ x ∈ xs, ∀ z, g (move x) = .ok z ↔ ∃ y, f x = .ok y ∧ change x y = z)
    {zs : List δ} :
    (arrange order (xs.map move)).mapM g = .ok zs ↔
      ∃ ys, xs.mapM f = .ok ys ∧ arrange order (List.zipWith change xs ys) = zs := by
  simp only [mapM_arrange_eq_ok_iff h ((List.length_map move).trans length),
    mapM_map_eq_ok_iff same]
  constructor
  · rintro ⟨_, ⟨ys, hys, rfl⟩, rfl⟩
    exact ⟨ys, hys, rfl⟩
  · rintro ⟨ys, hys, rfl⟩
    exact ⟨_, ⟨ys, hys, rfl⟩, rfl⟩

end RegisterHeaders.Derivation
