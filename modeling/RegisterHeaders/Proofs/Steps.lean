import Mathlib.Data.List.Forall2

/-!
# Steps that may fail

A step gives a value or an error. Steps that follow each other, two of them (`bind`) or one for
every element of a list (`mapM`), give their values if all succeed, and else the error of the first
that fails. `FirstFault` says what this first error is when the errors of every single element are
given by a relation. Steps with a state hand it on, error or not (`run_bind_eq_iff`).
-/

namespace RegisterHeaders.Steps

variable {ε α β : Type}

/-! ## Two steps -/

theorem bind_eq_ok_iff {x : Except ε α} {f : α → Except ε β} {b : β} :
    (x >>= f) = .ok b ↔ ∃ a, x = .ok a ∧ f a = .ok b := by
  cases x <;> simp [bind, Except.bind]

theorem exists_bind_eq_ok_iff {x : Except ε α} {f : α → Except ε β} :
    (∃ b, (x >>= f) = .ok b) ↔ ∃ a, x = .ok a ∧ ∃ b, f a = .ok b := by
  cases x <;> simp [bind, Except.bind]

theorem bind_eq_error_iff {x : Except ε α} {f : α → Except ε β} {e : ε} :
    (x >>= f) = .error e ↔ x = .error e ∨ ∃ a, x = .ok a ∧ f a = .error e := by
  cases x <;> simp [bind, Except.bind]

theorem map_eq_ok_iff {x : Except ε α} {f : α → β} {b : β} :
    f <$> x = .ok b ↔ ∃ a, x = .ok a ∧ f a = b := by
  cases x <;> simp [Functor.map, Except.map]

theorem exists_ok_iff {x : Except ε α} : (∃ a, x = .ok a) ↔ ∀ e, x ≠ .error e := by
  cases x <;> simp

theorem exists_error_iff {x : Except ε α} : (∃ e, x = .error e) ↔ ¬ ∃ a, x = .ok a := by
  cases x <;> simp

theorem any_toOption_iff {x : Except ε α} {p : α → Bool} :
    x.toOption.any p = true ↔ ∃ a, x = .ok a ∧ p a = true := by
  cases x <;> simp [Except.toOption]

theorem exists_ok_of_decide {x : Except ε α} {P : α → Prop} [DecidablePred P]
    (h : (x.toOption.any fun a => P a) = true) : ∃ a, x = .ok a ∧ P a := by
  obtain ⟨a, ha, hp⟩ := any_toOption_iff.1 h
  exact ⟨a, ha, of_decide_eq_true hp⟩

theorem run_bind {σ : Type} (x : StateM σ α) (f : α → StateM σ β) (s : σ) :
    (x >>= f) s = f (x s).1 (x s).2 :=
  rfl

theorem run_pure {σ : Type} (a : α) (s : σ) : (pure a : StateM σ α) s = (a, s) :=
  rfl

theorem run_bind_eq_iff {σ : Type} {x : StateM σ α} {f : α → StateM σ β} {s s' : σ} {b : β} :
    (x >>= f) s = (b, s') ↔ ∃ a middle, x s = (a, middle) ∧ f a middle = (b, s') := by
  constructor
  · intro h
    exact ⟨(x s).1, (x s).2, rfl, h⟩
  · rintro ⟨a, middle, hx, hf⟩
    rw [← hf]
    simp [bind, StateT.bind, hx]

/-! ## The first value of a list -/

theorem findSome?_cons_eq_or {get : α → Option β} {a : α} {rest : List α} :
    (a :: rest).findSome? get = (get a).or (rest.findSome? get) := by
  rw [List.findSome?_cons]
  cases get a <;> rfl

/-! ## A step for every element of a list -/

theorem mapM_eq_ok_iff {f : α → Except ε β} {xs : List α} {ys : List β} :
    xs.mapM f = .ok ys ↔ List.Forall₂ (fun x y => f x = .ok y) xs ys := by
  induction xs generalizing ys with
  | nil => cases ys <;> simp [pure, Except.pure]
  | cons x xs ih =>
    rw [List.mapM_cons, bind_eq_ok_iff]
    simp only [bind_eq_ok_iff, ih, List.forall₂_cons_left_iff, pure, Except.pure, Except.ok.injEq]
    constructor
    · rintro ⟨y, hy, ys', hys, rfl⟩
      exact ⟨y, ys', hy, hys, rfl⟩
    · rintro ⟨y, ys', hy, hys, rfl⟩
      exact ⟨y, hy, ys', hys, rfl⟩

theorem forall₂_imp_of_mem {R S : α → β → Prop} {xs : List α} {ys : List β}
    (hr : List.Forall₂ R xs ys) (h : ∀ x ∈ xs, ∀ y, R x y → S x y) : List.Forall₂ S xs ys := by
  have hmem := (List.forall₂_and_left xs ys).2 ⟨fun x hx => hx, hr⟩
  exact hmem.imp fun x y hxy => h x hxy.1 y hxy.2

theorem forall₂_congr_of_mem {R S : α → β → Prop} {xs : List α} {ys : List β}
    (h : ∀ x ∈ xs, ∀ y, R x y ↔ S x y) : List.Forall₂ R xs ys ↔ List.Forall₂ S xs ys :=
  ⟨fun hr => forall₂_imp_of_mem hr fun x hx y => (h x hx y).1,
    fun hs => forall₂_imp_of_mem hs fun x hx y => (h x hx y).2⟩

theorem forall₂_trans {γ : Type} {R : α → β → Prop} {S : β → γ → Prop} {T : α → γ → Prop}
    {xs : List α} {ys : List β} {zs : List γ} (h : ∀ x y z, R x y → S y z → T x z)
    (hr : List.Forall₂ R xs ys) (hs : List.Forall₂ S ys zs) : List.Forall₂ T xs zs := by
  induction hr generalizing zs with
  | nil =>
    cases hs
    exact .nil
  | cons hxy _ ih =>
    cases hs with
    | cons hyz hs => exact .cons (h _ _ _ hxy hyz) (ih hs)

theorem forall₂_getElem? {R : α → β → Prop} {xs : List α} {ys : List β}
    (h : List.Forall₂ R xs ys) {i : Nat} {y : β} (hy : ys[i]? = some y) :
    ∃ x, xs[i]? = some x ∧ R x y := by
  induction h generalizing i with
  | nil => simp at hy
  | cons hxy _ ih =>
    cases i with
    | zero =>
      obtain rfl := Option.some.inj hy
      exact ⟨_, rfl, hxy⟩
    | succ i => exact ih hy

theorem forall₂_mem_right {R : α → β → Prop} {xs : List α} {ys : List β}
    (h : List.Forall₂ R xs ys) {y : β} (hy : y ∈ ys) : ∃ x ∈ xs, R x y := by
  obtain ⟨i, hi⟩ := List.getElem?_of_mem hy
  obtain ⟨x, hx, hxy⟩ := forall₂_getElem? h hi
  exact ⟨x, List.mem_of_getElem? hx, hxy⟩

/-! ## The first error -/

/-- The error of the first element of a list that has one, where `P x e` says that `x` has the
error `e`. -/
def FirstFault (P : α → ε → Prop) (xs : List α) (e : ε) : Prop :=
  ∃ before x after, xs = before ++ x :: after ∧ (∀ y ∈ before, ∀ e', ¬ P y e') ∧ P x e

section FirstFault

variable {P Q : α → ε → Prop} {xs ys : List α} {e : ε}

theorem firstFault_nil : ¬ FirstFault P [] e := by
  rintro ⟨before, x, after, h, -⟩
  simp at h

theorem firstFault_cons {x : α} :
    FirstFault P (x :: xs) e ↔ P x e ∨ (∀ e', ¬ P x e') ∧ FirstFault P xs e := by
  constructor
  · rintro ⟨_ | ⟨y, before⟩, z, after, h, hb, hz⟩
    · obtain ⟨rfl, -⟩ := List.cons.inj h
      exact Or.inl hz
    · obtain ⟨rfl, rfl⟩ := List.cons.inj h
      exact Or.inr ⟨hb x List.mem_cons_self,
        before, z, after, rfl, fun w hw => hb w (List.mem_cons_of_mem x hw), hz⟩
  · rintro (h | ⟨h, before, z, after, rfl, hb, hz⟩)
    · exact ⟨[], x, xs, rfl, by simp, h⟩
    · refine ⟨x :: before, z, after, rfl, fun w hw => ?_, hz⟩
      rcases List.mem_cons.1 hw with rfl | hw
      · exact h
      · exact hb w hw

theorem firstFault_append :
    FirstFault P (xs ++ ys) e ↔
      FirstFault P xs e ∨ (∀ x ∈ xs, ∀ e', ¬ P x e') ∧ FirstFault P ys e := by
  induction xs with
  | nil => simp [firstFault_nil]
  | cons x xs ih =>
    simp only [List.cons_append, firstFault_cons, ih, List.forall_mem_cons]
    tauto

/-- A list without a first error has no error at all. -/
theorem not_firstFault_iff : (∀ e, ¬ FirstFault P xs e) ↔ ∀ x ∈ xs, ∀ e, ¬ P x e := by
  induction xs with
  | nil => simp [firstFault_nil]
  | cons x xs ih =>
    simp only [firstFault_cons, not_or, not_and, List.forall_mem_cons, ← ih]
    exact ⟨fun h => ⟨fun e => (h e).1, fun e => (h e).2 fun e' => (h e').1⟩,
      fun h e => ⟨h.1 e, fun _ => h.2 e⟩⟩

theorem firstFault_flatMap {g : β → List α} {zs : List β} :
    FirstFault P (zs.flatMap g) e ↔ FirstFault (fun z => FirstFault P (g z)) zs e := by
  induction zs with
  | nil => simp [firstFault_nil]
  | cons z zs ih => rw [List.flatMap_cons, firstFault_append, firstFault_cons, ih, not_firstFault_iff]

theorem firstFault_map {g : β → α} {zs : List β} :
    FirstFault P (zs.map g) e ↔ FirstFault (fun z => P (g z)) zs e := by
  induction zs with
  | nil => simp [firstFault_nil]
  | cons z zs ih => rw [List.map_cons, firstFault_cons, firstFault_cons, ih]

theorem firstFault_congr (h : ∀ x ∈ xs, ∀ e, P x e ↔ Q x e) :
    FirstFault P xs e ↔ FirstFault Q xs e := by
  induction xs with
  | nil => simp [firstFault_nil]
  | cons x xs ih =>
    rw [firstFault_cons, firstFault_cons, ih fun y hy => h y (List.mem_cons_of_mem x hy)]
    simp only [h x List.mem_cons_self]

theorem mapM_eq_error_iff {f : α → Except ε β} :
    xs.mapM f = .error e ↔ FirstFault (fun x e => f x = .error e) xs e := by
  induction xs with
  | nil => simp [firstFault_nil, pure, Except.pure]
  | cons x xs ih =>
    rw [List.mapM_cons, bind_eq_error_iff, firstFault_cons, ← exists_ok_iff, ← ih]
    simp only [bind_eq_error_iff, pure, Except.pure, reduceCtorEq, and_false, exists_false, or_false,
      exists_and_right]

theorem exists_mapM_eq_ok {f : α → Except ε β} (h : ∀ x ∈ xs, ∃ y, f x = .ok y) :
    ∃ ys, xs.mapM f = .ok ys := by
  rw [exists_ok_iff]
  intro e he
  obtain ⟨before, x, after, rfl, -, hx⟩ := mapM_eq_error_iff.1 he
  obtain ⟨y, hy⟩ := h x (by simp)
  rw [hy] at hx
  cases hx

/-- A step succeeds for a list if and only if it succeeds for every element. -/
theorem exists_mapM_eq_ok_iff {f : α → Except ε β} :
    (∃ ys, xs.mapM f = .ok ys) ↔ ∀ x ∈ xs, ∃ y, f x = .ok y := by
  refine ⟨?_, exists_mapM_eq_ok⟩
  rintro ⟨ys, h⟩ x hx
  obtain ⟨y, -, hy⟩ := forall₂_mem_right (mapM_eq_ok_iff.1 h).flip hx
  exact ⟨y, hy⟩

end FirstFault

end RegisterHeaders.Steps
