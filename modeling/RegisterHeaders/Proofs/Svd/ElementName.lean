import Mathlib.Data.List.Infix
import Mathlib.Data.List.Nodup
import RegisterHeaders.Proofs.Identifier
import RegisterHeaders.Proofs.Svd.ArrayElement

/-!
# Names of array elements

The name of an array has places for the index of an element: every `[%s]`, and every `%s` outside of
brackets. The two kinds are replaced one after the other. The second replacement could go wrong only
at a percent sign that the first brings next to an `s`, so if no percent sign stands alone, the two
fill all places at once (`elementName_eq_filled`). Indexes of different lengths give names of
different lengths, and indexes of one length are told apart by the first place. So the elements of
an array have different names if their indexes differ (`element_names_distinct`).
-/

namespace RegisterHeaders.Svd

/-! ## Filling in the index -/

/-- A part of the name of an array. -/
inductive NamePart where
  | letter (c : Char)
  /-- A place for the index. -/
  | place
  deriving Repr, DecidableEq

/-- The parts of a name, read from left to right. The brackets around `%s` belong to the place. -/
def nameParts : List Char → List NamePart
  | '[' :: '%' :: 's' :: ']' :: rest => .place :: nameParts rest
  | '%' :: 's' :: rest => .place :: nameParts rest
  | c :: rest => .letter c :: nameParts rest
  | [] => []

/-- What a part becomes in the name of the element with the given index. -/
def NamePart.text (index : List Char) : NamePart → List Char
  | .letter c => [c]
  | .place => index

/-- The parts with the index in all places. -/
def fill (index : List Char) (parts : List NamePart) : List Char :=
  parts.flatMap (·.text index)

/-- The name with the index in all places at once. -/
def filled (name index : String) : String :=
  String.ofList (fill index.toList (nameParts name.toList))

@[simp] theorem fill_nil (index : List Char) : fill index [] = [] := rfl

@[simp] theorem fill_letter (index : List Char) (c : Char) (parts : List NamePart) :
    fill index (.letter c :: parts) = c :: fill index parts := rfl

@[simp] theorem fill_place (index : List Char) (parts : List NamePart) :
    fill index (.place :: parts) = index ++ fill index parts := rfl

variable {a b index text : List Char} {parts : List NamePart}

/-- Each place makes a name longer by the length of the index. -/
theorem length_fill (index : List Char) (parts : List NamePart) :
    (fill index parts).length = (fill [] parts).length + parts.count .place * index.length := by
  induction parts with
  | nil => simp
  | cons part parts ih =>
    cases part with
    | letter c =>
      rw [List.count_cons_of_ne (by simp)]
      simp only [fill_letter, List.length_cons, ih]
      omega
    | place =>
      rw [List.count_cons_self, Nat.add_mul, fill_place, fill_place, List.length_append, ih]
      simp only [List.nil_append]
      omega

/-- Texts of one length are told apart by the first place. -/
theorem fill_inj_of_length (h : .place ∈ parts) (length : a.length = b.length)
    (e : fill a parts = fill b parts) : a = b := by
  induction parts with
  | nil => cases h
  | cons part parts ih =>
    cases part with
    | letter c =>
      have later : .place ∈ parts := by simpa using h
      exact ih later (List.cons.inj e).2
    | place => exact (List.append_inj e length).1

theorem fill_inj (h : .place ∈ parts) (e : fill a parts = fill b parts) : a = b := by
  have lengths := congrArg List.length e
  rw [length_fill a, length_fill b, Nat.add_left_cancel_iff] at lengths
  exact fill_inj_of_length h (Nat.eq_of_mul_eq_mul_left (List.count_pos_iff.2 h) lengths) e

/-! ## One reading for two replacements -/

/-- No percent sign stands alone: each is followed by an `s`. -/
def IsPaired (text : List Char) : Prop :=
  ∀ rest, '%' :: rest <:+ text → rest.head? = some 's'

instance : DecidablePred IsPaired :=
  fun text => decidable_of_iff
    (∀ tail ∈ text.tails, tail.head? = some '%' → tail[1]? = some 's') <| by
    constructor
    · intro h rest hrest
      simpa [List.head?_eq_getElem?] using h _ ((List.mem_tails _ _).2 hrest) rfl
    · intro h tail htail first
      obtain ⟨rest, rfl⟩ := List.head?_eq_some_iff.1 first
      simpa [List.head?_eq_getElem?] using h rest ((List.mem_tails _ _).1 htail)

theorem IsPaired.of_suffix (h : IsPaired text) (ha : a <:+ text) : IsPaired a :=
  fun rest hrest => h rest (hrest.trans ha)

theorem replacePlain_cons_of_ne {c : Char} (h : c ≠ '%') (index text : List Char) :
    replacePlain index (c :: text) = c :: replacePlain index text := by
  rw [replacePlain]
  rintro _ rfl
  exact absurd rfl h

/-- An index without percent signs stays as it is. -/
theorem replacePlain_append (h : '%' ∉ a) (index text : List Char) :
    replacePlain index (a ++ text) = a ++ replacePlain index text := by
  induction a with
  | nil => rfl
  | cons c a ih =>
    rw [List.mem_cons, not_or] at h
    rw [List.cons_append, replacePlain_cons_of_ne (Ne.symm h.1), ih h.2, List.cons_append]

/-- Replacing the places in brackets and then the others fills all places at once. -/
theorem replacePlain_replaceBracketed (hi : '%' ∉ index) (h : IsPaired text) :
    replacePlain index (replaceBracketed index text) = fill index (nameParts text) := by
  fun_induction nameParts text with
  | case1 rest ih =>
    have later := h.of_suffix (List.suffix_append ['[', '%', 's', ']'] rest)
    rw [replaceBracketed, replacePlain_append hi, fill_place, ih later]
  | case2 rest ih =>
    have later := h.of_suffix (List.suffix_append ['%', 's'] rest)
    have kept : replaceBracketed index ('%' :: 's' :: rest) =
        '%' :: 's' :: replaceBracketed index rest := by simp [replaceBracketed]
    rw [kept, replacePlain, fill_place, ih later]
  | case3 c rest bracketed plain ih =>
    have later := h.of_suffix (List.suffix_cons c rest)
    -- a percent sign would have been read as a place
    have single : c ≠ '%' := by
      rintro rfl
      obtain ⟨text, ht⟩ := List.head?_eq_some_iff.1 (h rest List.suffix_rfl)
      exact plain text rfl ht
    rw [replaceBracketed, replacePlain_cons_of_ne single, fill_letter, ih later]
    exact bracketed
  | case4 => rfl

theorem place_mem_nameParts (h : ['%', 's'] <:+: text) : .place ∈ nameParts text := by
  fun_induction nameParts text with
  | case1 rest ih => exact List.mem_cons_self
  | case2 rest ih => exact List.mem_cons_self
  | case3 c rest bracketed plain ih =>
    rcases List.infix_cons_iff.1 h with ⟨text, ht⟩ | later
    · obtain ⟨rfl, rfl⟩ := List.cons.inj ht
      exact absurd rfl (plain text rfl)
    · exact List.mem_cons_of_mem _ (ih later)
  | case4 => simp at h

/-! ## Names -/

/-- A name for an array: it has a place for the index, and no percent sign stands alone. -/
structure IsTemplate (name : String) : Prop where
  place : ['%', 's'] <:+: name.toList
  paired : IsPaired name.toList

instance : DecidablePred IsTemplate :=
  fun name => decidable_of_iff (['%', 's'] <:+: name.toList ∧ IsPaired name.toList)
    ⟨fun h => ⟨h.1, h.2⟩, fun h => ⟨h.place, h.paired⟩⟩

section Name

variable {name i j : String}

theorem elementName_eq_filled (h : IsPaired name.toList) (hi : '%' ∉ i.toList) :
    elementName name i = filled name i := by
  rw [elementName, filled, replacePlain_replaceBracketed hi h]

-- A percent sign that stands alone is taken for a place together with the index behind it.
example : elementName "%[%s]" "s" = "s" ∧ filled "%[%s]" "s" = "%s" := by
  decide +kernel

/-- The name of an element tells its index. -/
theorem elementName_inj (h : IsTemplate name) (hi : '%' ∉ i.toList) (hj : '%' ∉ j.toList) :
    elementName name i = elementName name j ↔ i = j := by
  constructor
  · intro e
    rw [elementName_eq_filled h.paired hi, elementName_eq_filled h.paired hj, filled, filled,
      String.ofList_inj] at e
    exact String.toList_inj.1 (fill_inj (place_mem_nameParts h.place) e)
  · rintro rfl
    rfl

end Name

/-! ## Indexes -/

namespace ArrayShape

/-- The elements are numbered, or each has an index of its own without percent signs. -/
def IsIndexed (shape : ArrayShape) : Prop :=
  shape.indexes = [] ∨
    shape.indexes.length = shape.count.toNat ∧ shape.indexes.Nodup ∧
      ∀ index ∈ shape.indexes, '%' ∉ index.toList

instance : DecidablePred IsIndexed :=
  fun shape => inferInstanceAs (Decidable (shape.indexes = [] ∨
    shape.indexes.length = shape.count.toNat ∧ shape.indexes.Nodup ∧
      ∀ index ∈ shape.indexes, '%' ∉ index.toList))

variable {shape : ArrayShape}

theorem labels_of_numbered (h : shape.indexes = []) :
    shape.labels = (List.range shape.count.toNat).map Nat.repr := by
  simp [labels, h]

theorem labels_of_length (h : shape.indexes.length = shape.count.toNat) :
    shape.labels = shape.indexes := by
  apply List.ext_getElem
  · rw [length_labels, h]
  · intro n _ hn
    simp [labels, hn]

theorem IsIndexed.nodup_labels (h : shape.IsIndexed) : shape.labels.Nodup := by
  rcases h with numbered | ⟨length, nodup, -⟩
  · rw [labels_of_numbered numbered]
    exact List.nodup_range.map fun m n => Identifier.repr_inj
  · rwa [labels_of_length length]

theorem IsIndexed.percent_notMem (h : shape.IsIndexed) :
    ∀ label ∈ shape.labels, '%' ∉ label.toList := by
  rcases h with numbered | ⟨length, -, plain⟩
  · rw [labels_of_numbered numbered, List.forall_mem_map]
    exact fun n _ => (Identifier.hasParts_repr n).notMem (by decide)
  · rwa [labels_of_length length]

end ArrayShape

/-- The elements of an array have different names, one for each, and a name is that of the array
with the index in all places at once. -/
theorem element_names_distinct {name : String} {shape : ArrayShape} (hname : IsTemplate name)
    (hshape : shape.IsIndexed) :
    (shape.labels.map (elementName name)).Nodup ∧
    (shape.labels.map (elementName name)).length = shape.count.toNat ∧
    ∀ index ∈ shape.labels, elementName name index = filled name index := by
  have plain := hshape.percent_notMem
  refine ⟨?_, ?_, fun index hindex => elementName_eq_filled hname.paired (plain index hindex)⟩
  · refine hshape.nodup_labels.map_on fun i hi j hj e => ?_
    exact (elementName_inj hname (plain i hi) (plain j hj)).1 e
  · rw [List.length_map, shape.length_labels]

/-- An array with indexes that look like parts of the places in its name. -/
def laneShape : ArrayShape where
  count := 3
  increment := 4
  indexes := ["s", "[", "]s"]

/-- The name has places of both kinds, one of them in two pairs of brackets. -/
theorem laneShape_names : IsTemplate "LANE%s_[[%s]]%s" ∧ laneShape.IsIndexed ∧
    laneShape.labels.map (elementName "LANE%s_[[%s]]%s") =
      ["LANEs_[s]s", "LANE[_[[][", "LANE]s_[]s]]s"] ∧
    (laneShape.labels.map (elementName "LANE%s_[[%s]]%s")).Nodup ∧
    elementName "LANE%s_[[%s]]%s" "]s" = filled "LANE%s_[[%s]]%s" "]s" := by
  have template : IsTemplate "LANE%s_[[%s]]%s" := by decide +kernel
  have indexed : laneShape.IsIndexed := by decide +kernel
  obtain ⟨distinct, -, atOnce⟩ := element_names_distinct template indexed
  exact ⟨template, indexed, by decide +kernel, distinct, atOnce "]s" (by decide +kernel)⟩

end RegisterHeaders.Svd
