import Mathlib.Data.List.Nodup
import Mathlib.Data.List.Perm.Subperm
import RegisterHeaders.Derivation.Chain

/-!
# Following references

`links.Chain a chain` is the derivation chain of an element: the element, the one that its reference
points to, and so on to an element without a reference. Where there is no such chain,
`links.Failure a e` says what is met on the way: a reference that points to nothing, or one that
points back to an element on the trail.

Elements are told apart by their places. Where the places do so for a list of all elements that a
reference can point to (`links.Within elements`), a chain never comes back to an element
(`Chain.nodup`), and `bases` finds the chain or the failure of every element, whichever there is:
the number of elements bounds no chain short (`bases_eq_ok_iff`, `bases_eq_error_iff`).
-/

namespace RegisterHeaders.Derivation.Links

variable {α ι β : Type} {links : Links α ι} {elements : List α}

/-- The reference written in `a` points to `b`. -/
def Next (links : Links α ι) (a b : α) : Prop :=
  ∃ path, links.reference a = some path ∧ links.find a path = some b

theorem next_iff_bind {a b : α} :
    links.Next a b ↔ (links.reference a).bind (links.find a) = some b :=
  Option.bind_eq_some_iff.symm

instance [DecidableEq α] (links : Links α ι) (a b : α) : Decidable (links.Next a b) :=
  decidable_of_iff _ next_iff_bind.symm

theorem next_iff_of_reference {a b : α} {path : String} (h : links.reference a = some path) :
    links.Next a b ↔ links.find a path = some b := by
  rw [next_iff_bind, h, Option.bind_some]

/-- The derivation chain of an element. -/
inductive Chain (links : Links α ι) : α → List α → Prop
  | last {a : α} (h : links.reference a = none) : Chain links a [a]
  | link {a b : α} {chain : List α} (h : links.Next a b) (rest : Chain links b chain) :
      Chain links a (a :: chain)

/-- The elements visited from `a` to `b`, none of them twice. -/
inductive Trail (links : Links α ι) (a : α) : List α → α → Prop
  | start : Trail links a [a] a
  | step {trail : List α} {b c : α} (visited : Trail links a trail b) (h : links.Next b c)
      (fresh : links.place c ∉ trail.map links.place) : Trail links a (trail ++ [c]) c

/-- How following the references from `a` goes wrong, as an error. -/
inductive Failure (links : Links α ι) (a : α) : Error → Prop
  | dangling {trail : List α} {b : α} {path : String} (visited : links.Trail a trail b)
      (h : links.reference b = some path) (nothing : links.find b path = none) :
      Failure links a (.unresolved links.kind (links.name b) path)
  | circular {trail : List α} {b c : α} (visited : links.Trail a trail b) (h : links.Next b c)
      (back : links.place c ∈ trail.map links.place) :
      Failure links a (.cycle links.kind ((trail ++ [c]).map links.name))

/-- References in the elements of a list point to elements of it, no two of which have one place. -/
structure Within (links : Links α ι) (elements : List α) : Prop where
  mem_of_next : ∀ {a b}, a ∈ elements → links.Next a b → b ∈ elements
  eq_of_place : ∀ {a b}, a ∈ elements → b ∈ elements → links.place a = links.place b → a = b

theorem Next.unique {a b c : α} (hb : links.Next a b) (hc : links.Next a c) : b = c := by
  obtain ⟨path, hp, hb⟩ := hb
  obtain ⟨path', hp', hc⟩ := hc
  obtain rfl := Option.some.inj (hp.symm.trans hp')
  exact Option.some.inj (hb.symm.trans hc)

/-- An element has no reference, a dangling one, or one that points to an element. -/
theorem next_cases (links : Links α ι) (a : α) :
    links.reference a = none ∨
      (∃ path, links.reference a = some path ∧ links.find a path = none) ∨ ∃ b, links.Next a b := by
  rcases h : links.reference a with _ | path
  · exact Or.inl rfl
  · rcases h' : links.find a path with _ | b
    · exact Or.inr (Or.inl ⟨path, rfl, h'⟩)
    · exact Or.inr (Or.inr ⟨b, path, h, h'⟩)

/-! ## Chains -/

theorem Chain.head {a : α} {chain : List α} (h : links.Chain a chain) :
    ∃ bases, chain = a :: bases := by
  cases h <;> exact ⟨_, rfl⟩

theorem Chain.unique {a : α} {c c' : List α} (h : links.Chain a c) (h' : links.Chain a c') :
    c = c' := by
  induction h generalizing c' with
  | last h =>
    cases h' with
    | last => rfl
    | link hn =>
      obtain ⟨path, hp, -⟩ := hn
      rw [h] at hp
      cases hp
  | link hn _ ih =>
    cases h' with
    | last h =>
      obtain ⟨path, hp, -⟩ := hn
      rw [h] at hp
      cases hp
    | link hn' rest' =>
      obtain rfl := hn.unique hn'
      rw [ih rest']

theorem Chain.suffix_of_mem {a b : α} {chain : List α} (h : links.Chain a chain) (hb : b ∈ chain) :
    ∃ rest, rest <:+ chain ∧ links.Chain b rest := by
  induction h with
  | last h =>
    obtain rfl := List.mem_singleton.1 hb
    exact ⟨[b], List.suffix_refl _, .last h⟩
  | @link a c chain hn rest ih =>
    rcases List.mem_cons.1 hb with rfl | hb
    · exact ⟨b :: chain, List.suffix_refl _, .link hn rest⟩
    · obtain ⟨s, hs, hc⟩ := ih hb
      exact ⟨s, hs.trans (List.suffix_cons a chain), hc⟩

theorem Chain.subset (hw : links.Within elements) {a : α} {chain : List α} (ha : a ∈ elements)
    (h : links.Chain a chain) : chain ⊆ elements := by
  induction h with
  | last h => simpa using ha
  | link hn rest ih => exact List.cons_subset.2 ⟨ha, ih (hw.mem_of_next ha hn)⟩

/-- A chain that ends never comes back to an element: from there it would go on for ever. -/
theorem Chain.nodup (hw : links.Within elements) {a : α} {chain : List α} (ha : a ∈ elements)
    (h : links.Chain a chain) : (chain.map links.place).Nodup := by
  induction h with
  | last h => simp
  | @link a b chain hn rest ih =>
    have hb := hw.mem_of_next ha hn
    rw [List.map_cons, List.nodup_cons]
    refine ⟨fun hmem => ?_, ih hb⟩
    obtain ⟨x, hx, hp⟩ := List.mem_map.1 hmem
    obtain rfl := hw.eq_of_place (rest.subset hw hb hx) ha hp
    obtain ⟨s, hs, hc⟩ := rest.suffix_of_mem hx
    have heq := hc.unique (.link hn rest)
    have hle := hs.length_le
    rw [heq, List.length_cons] at hle
    omega

/-- A chain has at most as many elements as there are. -/
theorem Chain.length_le (hw : links.Within elements) {a : α} {chain : List α} (ha : a ∈ elements)
    (h : links.Chain a chain) : chain.length ≤ elements.length :=
  ((List.Nodup.of_map _ (h.nodup hw ha)).subperm (h.subset hw ha)).length_le

/-! ## Trails -/

theorem Trail.exists_tail {a b : α} {trail : List α} (h : links.Trail a trail b) :
    ∃ tail, trail = a :: tail := by
  induction h with
  | start => exact ⟨[], rfl⟩
  | step _ _ _ ih =>
    obtain ⟨tail, rfl⟩ := ih
    exact ⟨tail ++ [_], rfl⟩

theorem Trail.nodup {a b : α} {trail : List α} (h : links.Trail a trail b) :
    (trail.map links.place).Nodup := by
  induction h with
  | start => simp
  | step _ _ fresh ih =>
    rw [List.map_append, List.map_singleton]
    exact List.nodup_append.2 ⟨ih, by simp, by
      rintro x hx y hy rfl
      obtain rfl := List.mem_singleton.1 hy
      exact fresh hx⟩

theorem Trail.end_mem {a b : α} {trail : List α} (h : links.Trail a trail b) : b ∈ trail := by
  cases h <;> simp

theorem Trail.subset (hw : links.Within elements) {a b : α} {trail : List α} (ha : a ∈ elements)
    (h : links.Trail a trail b) : trail ⊆ elements := by
  induction h with
  | start => simpa using ha
  | step visited hn _ ih =>
    exact List.append_subset.2 ⟨ih, by simpa using hw.mem_of_next (ih visited.end_mem) hn⟩

theorem Trail.length_le (hw : links.Within elements) {a b : α} {trail : List α} (ha : a ∈ elements)
    (h : links.Trail a trail b) : trail.length ≤ elements.length :=
  ((List.Nodup.of_map _ h.nodup).subperm (h.subset hw ha)).length_le

/-! ## The outcome of `bases` -/

section Bases

variable [DecidableEq ι] {n count : Nat} {trail bases : List α} {a b : α} {e : Error}

theorem basesFrom_of_none (h : links.reference a = none) : links.basesFrom n trail a = .ok [] := by
  rw [basesFrom.eq_def]
  simp [base, h]

theorem basesFrom_of_dangling {path : String} (h : links.reference a = some path)
    (h' : links.find a path = none) :
    links.basesFrom n trail a = .error (.unresolved links.kind (links.name a) path) := by
  rw [basesFrom.eq_def]
  simp [base, h, h']

theorem basesFrom_of_visited (h : links.Next a b)
    (hb : links.place b ∈ trail.map links.place ∨ n = 0) :
    links.basesFrom n trail a = .error (links.circular trail b) := by
  obtain ⟨path, hp, hf⟩ := h
  rw [basesFrom.eq_def]
  simp only [base, hp, hf]
  rcases hb with hb | rfl
  · rw [if_pos hb]
  · split_ifs <;> rfl

theorem basesFrom_of_fresh (h : links.Next a b) (hb : links.place b ∉ trail.map links.place) :
    links.basesFrom (n + 1) trail a = (links.basesFrom n (trail ++ [b]) b).map (b :: ·) := by
  obtain ⟨path, hp, hf⟩ := h
  rw [basesFrom]
  simp only [base, hp, hf, hb, if_false]
  cases links.basesFrom n (trail ++ [b]) b <;> rfl

/-- What a step of `basesFrom` can do: it ends, fails, or goes on to a fresh element. -/
theorem basesFrom_cases (links : Links α ι) (n : Nat) (trail : List α) (a : α) :
    (links.reference a = none ∧ links.basesFrom n trail a = .ok []) ∨
    (∃ path, links.reference a = some path ∧ links.find a path = none ∧
      links.basesFrom n trail a = .error (.unresolved links.kind (links.name a) path)) ∨
    (∃ b, links.Next a b ∧ (links.place b ∈ trail.map links.place ∨ n = 0) ∧
      links.basesFrom n trail a = .error (links.circular trail b)) ∨
    ∃ b m, links.Next a b ∧ links.place b ∉ trail.map links.place ∧ n = m + 1 ∧
      links.basesFrom n trail a = (links.basesFrom m (trail ++ [b]) b).map (b :: ·) := by
  rcases links.next_cases a with h | ⟨path, h, hf⟩ | ⟨b, h⟩
  · exact Or.inl ⟨h, basesFrom_of_none h⟩
  · exact Or.inr (Or.inl ⟨path, h, hf, basesFrom_of_dangling h hf⟩)
  · by_cases hb : links.place b ∈ trail.map links.place ∨ n = 0
    · exact Or.inr (Or.inr (Or.inl ⟨b, h, hb, basesFrom_of_visited h hb⟩))
    · obtain ⟨hfresh, hn⟩ := not_or.1 hb
      obtain ⟨m, rfl⟩ := Nat.exists_eq_succ_of_ne_zero hn
      exact Or.inr (Or.inr (Or.inr ⟨b, m, h, hfresh, rfl, basesFrom_of_fresh h hfresh⟩))

/-- The bases that are found continue the chain. -/
theorem chain_of_basesFrom (h : links.basesFrom n trail a = .ok bases) :
    links.Chain a (a :: bases) := by
  induction n using Nat.strongRecOn generalizing trail a bases with
  | _ n ih =>
    rcases links.basesFrom_cases n trail a with
      ⟨hr, heq⟩ | ⟨path, -, -, heq⟩ | ⟨b, -, -, heq⟩ | ⟨b, m, hb, -, rfl, heq⟩ <;> rw [heq] at h
    · obtain rfl := Except.ok.inj h
      exact .last hr
    · cases h
    · cases h
    · cases hrest : links.basesFrom m (trail ++ [b]) b with
      | error e =>
        rw [hrest] at h
        cases h
      | ok rest =>
        rw [hrest] at h
        obtain rfl := Except.ok.inj h
        exact .link hb (ih m (by omega) hrest)

/-- A chain whose bases are off the trail is found, given a step for every base. -/
theorem basesFrom_of_chain (h : links.Chain a (a :: bases)) (hn : bases.length ≤ n)
    (hd : ((trail ++ bases).map links.place).Nodup) : links.basesFrom n trail a = .ok bases := by
  induction bases generalizing n trail a with
  | nil =>
    cases h with
    | last h => exact basesFrom_of_none h
    | link _ rest =>
      obtain ⟨_, h⟩ := rest.head
      cases h
  | cons b bases ih =>
    cases h with
    | link hnext rest =>
      obtain ⟨_, heq⟩ := rest.head
      obtain ⟨rfl, rfl⟩ := List.cons.inj heq
      obtain ⟨m, rfl⟩ : ∃ m, n = m + 1 := ⟨n - 1, by rw [List.length_cons] at hn; omega⟩
      have hfresh : links.place b ∉ trail.map links.place := fun hmem => by
        rw [List.map_append, List.nodup_append] at hd
        exact hd.2.2 _ hmem _ (by simp) rfl
      rw [basesFrom_of_fresh hnext hfresh,
        ih rest (by simpa using hn) (by simpa [List.append_assoc] using hd)]
      rfl

/-- An error is a failure on the trail, unless there are elements for which no step is left. -/
theorem failure_of_basesFrom (hw : links.Within elements) {root : α} (hroot : root ∈ elements)
    (ht : links.Trail root trail a) (hn : elements.length ≤ trail.length + n)
    (h : links.basesFrom n trail a = .error e) : links.Failure root e := by
  induction n using Nat.strongRecOn generalizing trail a with
  | _ n ih =>
    rcases links.basesFrom_cases n trail a with
      ⟨-, heq⟩ | ⟨path, hr, hf, heq⟩ | ⟨b, hb, hback, heq⟩ | ⟨b, m, hb, hfresh, rfl, heq⟩ <;>
      rw [heq] at h
    · cases h
    · obtain rfl := Except.error.inj h
      exact .dangling ht hr hf
    · obtain rfl := Except.error.inj h
      refine .circular ht hb (by_contra fun hfresh => ?_)
      -- without a step left the trail has visited all elements, and there is no fresh one
      obtain rfl := hback.resolve_left hfresh
      have hle := (ht.step hb hfresh).length_le hw hroot
      rw [List.length_append, List.length_singleton] at hle
      omega
    · cases hrest : links.basesFrom m (trail ++ [b]) b with
      | ok rest =>
        rw [hrest] at h
        cases h
      | error e' =>
        rw [hrest] at h
        obtain rfl := Except.error.inj h
        refine ih m (by omega) (ht.step hb hfresh) ?_ hrest
        rw [List.length_append, List.length_singleton]
        omega

/-- An error that a trail runs into is the error of the element where the trail starts. -/
theorem basesFrom_of_trail {root : α} (ht : links.Trail root trail a)
    (h : links.basesFrom n trail a = .error e) :
    links.basesFrom (n + (trail.length - 1)) [root] root = .error e := by
  induction ht generalizing n with
  | start => exact h
  | @step trail b c visited hn fresh ih =>
    have hpos : 0 < trail.length := by
      obtain ⟨tail, rfl⟩ := visited.exists_tail
      simp
    have := @ih (n + 1) (by rw [basesFrom_of_fresh hn fresh, h]; rfl)
    rwa [List.length_append, List.length_singleton,
      show n + (trail.length + 1 - 1) = n + 1 + (trail.length - 1) by omega]

theorem bases_eq_basesFrom : links.bases count a = links.basesFrom count [a] a := by
  unfold bases
  split
  · next h => rw [basesFrom_of_none h]
  · rfl

theorem bases_eq_ok_iff (hw : links.Within elements) (hc : elements.length ≤ count)
    (ha : a ∈ elements) : links.bases count a = .ok bases ↔ links.Chain a (a :: bases) := by
  rw [bases_eq_basesFrom]
  refine ⟨chain_of_basesFrom, fun h => basesFrom_of_chain h ?_ (h.nodup hw ha)⟩
  have hle := h.length_le hw ha
  rw [List.length_cons] at hle
  omega

theorem bases_eq_error_iff (hw : links.Within elements) (hc : elements.length ≤ count)
    (ha : a ∈ elements) : links.bases count a = .error e ↔ links.Failure a e := by
  rw [bases_eq_basesFrom]
  refine ⟨failure_of_basesFrom hw ha .start (by rw [List.length_singleton]; omega), fun h => ?_⟩
  cases h with
  | @dangling trail b path visited hr hf =>
    have hle := visited.length_le hw ha
    rw [show count = count - (trail.length - 1) + (trail.length - 1) by omega]
    exact basesFrom_of_trail visited (basesFrom_of_dangling hr hf)
  | @circular trail b c visited hn back =>
    have hle := visited.length_le hw ha
    rw [show count = count - (trail.length - 1) + (trail.length - 1) by omega]
    exact basesFrom_of_trail visited (basesFrom_of_visited hn (Or.inl back))

end Bases

end RegisterHeaders.Derivation.Links
