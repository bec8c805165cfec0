import Mathlib.Algebra.Ring.Nat
import RegisterHeaders.Svd.Unroll

/-!
# The elements of an array

An element of a document stands for itself, or for as many elements as its array counts.
`IsElementAt` says which of them is at a position, without unrolling anything: its index is the one
that is listed for the position, or else the number of the position; its name is that of the array
with the index put in the place of every `[%s]` and then of every `%s`; and its distance from the
first element is its position times the increment of the array. Unrolling makes these elements, in
this order, and no others (`getElem?_instances_eq_some_iff`).
-/

namespace RegisterHeaders.Svd

/-! ## Replacing a pattern -/

/-- Reading a text from left to right, with `index` for the pattern wherever it begins. -/
inductive Replaces (pattern index : List Char) : List Char → List Char → Prop
  | nil : Replaces pattern index [] []
  | place {rest result : List Char} (h : Replaces pattern index rest result) :
      Replaces pattern index (pattern ++ rest) (index ++ result)
  | letter {c : Char} {rest result : List Char} (free : ¬ pattern <+: c :: rest)
      (h : Replaces pattern index rest result) :
      Replaces pattern index (c :: rest) (c :: result)

section Replaces

variable {pattern index text result : List Char} {f : List Char → List Char}

/-- A function replaces a pattern if it does so at the beginning of every text. -/
theorem eq_iff_replaces (solid : pattern ≠ []) (nil : f [] = [])
    (place : ∀ rest, f (pattern ++ rest) = index ++ f rest)
    (letter : ∀ c rest, ¬ pattern <+: c :: rest → f (c :: rest) = c :: f rest) :
    f text = result ↔ Replaces pattern index text result := by
  constructor
  · rintro rfl
    -- a place takes more than one character of the text, so the induction is on its length
    induction hn : text.length using Nat.strongRecOn generalizing text with
    | _ n ih =>
      subst hn
      cases text with
      | nil =>
        rw [nil]
        exact .nil
      | cons c text =>
        by_cases begins : pattern <+: c :: text
        · obtain ⟨rest, hrest⟩ := begins
          have shorter : rest.length < (c :: text).length := by
            rw [← hrest, List.length_append]
            have := List.length_pos_iff.2 solid
            omega
          rw [← hrest, place]
          exact .place (ih _ shorter rfl)
        · rw [letter c text begins]
          exact .letter begins (ih _ (Nat.lt_succ_self _) rfl)
  · intro h
    induction h with
    | nil => exact nil
    | place _ ih => rw [place, ih]
    | letter free _ ih => rw [letter _ _ free, ih]

theorem replaceBracketed_eq_iff :
    replaceBracketed index text = result ↔ Replaces ['[', '%', 's', ']'] index text result := by
  refine eq_iff_replaces (by simp) rfl (fun rest => rfl) fun c rest free => ?_
  rw [replaceBracketed]
  rintro rest rfl rfl
  exact free (List.prefix_append ['[', '%', 's', ']'] rest)

theorem replacePlain_eq_iff :
    replacePlain index text = result ↔ Replaces ['%', 's'] index text result := by
  refine eq_iff_replaces (by simp) rfl (fun rest => rfl) fun c rest free => ?_
  rw [replacePlain]
  rintro rest rfl rfl
  exact free (List.prefix_append ['%', 's'] rest)

end Replaces

/-! ## Names and indexes -/

/-- The name of the element with the given index in an array of the given name: every `[%s]` is
replaced by the index, and then every `%s`. -/
def IsElementName (name index result : String) : Prop :=
  ∃ between, Replaces ['[', '%', 's', ']'] index.toList name.toList between ∧
    Replaces ['%', 's'] index.toList between result.toList

theorem elementName_eq_iff {name index result : String} :
    elementName name index = result ↔ IsElementName name index result := by
  rw [elementName, ← String.toList_inj, String.toList_ofList, IsElementName]
  simp only [← replaceBracketed_eq_iff, exists_eq_left', replacePlain_eq_iff]

/-- Whether the element at a position has the given index: the one that is listed for it, or its
number if none is. -/
def ArrayShape.HasIndex (shape : ArrayShape) (n : Nat) (index : String) : Prop :=
  shape.indexes[n]? = some index ∨ shape.indexes.length ≤ n ∧ n.repr = index

theorem ArrayShape.length_labels (shape : ArrayShape) :
    shape.labels.length = shape.count.toNat := by
  rw [labels, List.length_map, List.length_range]

theorem ArrayShape.getElem?_labels_eq_some_iff {shape : ArrayShape} {n : Nat} {index : String} :
    shape.labels[n]? = some index ↔ n < shape.count.toNat ∧ shape.HasIndex n index := by
  rw [HasIndex, ← List.getElem?_eq_none_iff, ← Option.getD_eq_iff]
  constructor
  · intro h
    have within := (List.getElem?_eq_some_iff.1 h).1
    rw [shape.length_labels] at within
    rw [labels, List.getElem?_map, List.getElem?_range within] at h
    exact ⟨within, Option.some.inj h⟩
  · rintro ⟨within, h⟩
    rw [labels, List.getElem?_map, List.getElem?_range within, ← h]
    rfl

/-! ## Elements -/

/-- The element at a position of what an element of the given name and shape stands for. -/
inductive IsElementAt (name : String) : Option ArrayShape → Nat → Instance → Prop
  | single : IsElementAt name none 0 ⟨name, 0, 0⟩
  | element {shape : ArrayShape} {n : Nat} {index result : String}
      (within : n < shape.count.toNat) (listed : shape.HasIndex n index)
      (named : IsElementName name index result) :
      IsElementAt name (some shape) n ⟨result, n, shape.increment⟩

section Instances

variable {name : String} {shape : Option ArrayShape} {n : Nat} {i : Instance}

theorem getElem?_instances_eq_some_iff :
    (instances name shape)[n]? = some i ↔ IsElementAt name shape n i := by
  cases shape with
  | none =>
    rw [instances, List.getElem?_singleton]
    constructor
    · intro h
      split at h
      · next first =>
        cases h
        rw [first]
        exact .single
      · cases h
    · rintro ⟨⟩
      rfl
  | some shape =>
    simp only [instances, List.getElem?_map, List.getElem?_zipIdx, Option.map_map,
      Option.map_eq_some_iff, Function.comp_def, Nat.zero_add,
      ArrayShape.getElem?_labels_eq_some_iff]
    constructor
    · rintro ⟨index, ⟨within, listed⟩, rfl⟩
      exact .element within listed (elementName_eq_iff.1 rfl)
    · rintro (_ | ⟨within, listed, named⟩)
      exact ⟨_, ⟨within, listed⟩, by rw [elementName_eq_iff.2 named]⟩

/-- An array has as many elements as it counts. -/
theorem length_instances (name : String) (shape : Option ArrayShape) :
    (instances name shape).length = shape.elim 1 (·.count.toNat) := by
  cases shape with
  | none => rfl
  | some shape => rw [instances, List.length_map, List.length_zipIdx, shape.length_labels]; rfl

/-- No position is the largest 32-bit word. -/
theorem position_lt (h : i ∈ instances name shape) : i.position < 2 ^ 32 - 1 := by
  obtain ⟨n, hn⟩ := List.getElem?_of_mem h
  cases getElem?_instances_eq_some_iff.1 hn with
  | single => exact Nat.zero_lt_succ _
  | @element shape _ _ _ within =>
    have count := shape.count.toNat_lt
    exact Nat.lt_of_lt_of_le within (Nat.le_sub_one_of_lt count)

end Instances

end RegisterHeaders.Svd
