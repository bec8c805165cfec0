import RegisterHeaders.Proofs.Group.LetterRuns
import RegisterHeaders.Proofs.Text

/-!
# Identifiers in title case

An identifier of C has letters, digits and underscores, and a digit is not the first of them. Title
case drops the underscores. This leaves letters and digits, but now a digit may come first: `_0`
becomes `0`. `isIdentifier_camelCase_append_iff` says that nothing else can go wrong. Names of
groups are letters only, so they are always identifiers (`isWord_identifier`, `isWord_placeholder`).
-/

namespace RegisterHeaders

namespace Identifier

/-! ## Identifiers -/

/-- Whether an identifier can begin with a character. -/
def isIdentifierStart (c : Char) : Bool :=
  c.isAlpha || c = '_'

/-- Whether an identifier can go on with a character. -/
def isIdentifierPart (c : Char) : Bool :=
  c.isAlphanum || c = '_'

/-- A name with characters of identifiers only. -/
def HasParts (name : String) : Prop :=
  ∀ c ∈ name.toList, isIdentifierPart c = true

/-- A C identifier. -/
def IsIdentifier (name : String) : Prop :=
  name.toList.head?.any isIdentifierStart = true ∧ HasParts name

/-- A C identifier that has a letter or a digit. -/
def IsName (name : String) : Prop :=
  IsIdentifier name ∧ ∃ c ∈ name.toList, c.isAlphanum = true

/-- A name whose first character that is no underscore is a letter. -/
def BeginsWithLetter (name : String) : Prop :=
  (name.toList.find? (· ≠ '_')).any Char.isAlpha = true

instance : DecidablePred HasParts :=
  fun name => decidable_of_iff (name.toList.all isIdentifierPart = true) List.all_eq_true

instance : DecidablePred IsIdentifier :=
  fun name => inferInstanceAs
    (Decidable (name.toList.head?.any isIdentifierStart = true ∧ HasParts name))

instance : DecidablePred IsName :=
  fun name => decidable_of_iff (IsIdentifier name ∧ name.toList.any Char.isAlphanum = true)
    (and_congr_right fun _ => List.any_eq_true)

instance : DecidablePred BeginsWithLetter :=
  fun name => inferInstanceAs
    (Decidable ((name.toList.find? (· ≠ '_')).any Char.isAlpha = true))

variable {c : Char} {name suffix : String} {text : List Char} {inWord : Bool}

theorem isIdentifierPart_of_isAlphanum (h : c.isAlphanum = true) : isIdentifierPart c = true := by
  simp [isIdentifierPart, h]

theorem ne_underscore_of_isAlphanum (h : c.isAlphanum = true) : c ≠ '_' := by
  rintro rfl
  exact absurd h (by decide)

theorem toNat_lt_of_isIdentifierPart (h : isIdentifierPart c = true) : c.toNat < 0x80 := by
  simp only [isIdentifierPart, Char.isAlphanum, Bool.or_eq_true, decide_eq_true_eq] at h
  rcases h with (letter | digit) | rfl
  · exact toNat_lt_of_isAlpha letter
  · simp only [Char.isDigit, ge_iff_le, UInt32.le_iff_toNat_le, Bool.and_eq_true,
      decide_eq_true_eq] at digit
    have code : c.toNat ≤ 57 := digit.2
    omega
  · decide

theorem HasParts.notMem (h : HasParts name) (hc : isIdentifierPart c = false) :
    c ∉ name.toList := by
  intro hmem
  rw [h c hmem] at hc
  cases hc

theorem HasParts.append (h : HasParts name) (hs : HasParts suffix) : HasParts (name ++ suffix) := by
  rw [HasParts, String.toList_append]
  exact List.forall_mem_append.2 ⟨h, hs⟩

/-- A text that no name goes on into: it begins with a character that names do not have. -/
def IsDelimiter (text : String) : Prop :=
  text.toList.head?.any (fun c => !isIdentifierPart c) = true

instance : DecidablePred IsDelimiter :=
  fun text => inferInstanceAs
    (Decidable (text.toList.head?.any (fun c => !isIdentifierPart c) = true))

theorem HasParts.takeWhile_append {rest : String} (h : HasParts name)
    (hr : rest.toList.head?.any isIdentifierPart = false) :
    (name ++ rest).toList.takeWhile isIdentifierPart = name.toList := by
  rw [String.toList_append, List.takeWhile_append_of_pos h]
  cases hc : rest.toList with
  | nil => simp
  | cons c text =>
    have stop : isIdentifierPart c = false := by simpa [hc] using hr
    simp [stop]

/-- A name can be told from a delimiter after it and what follows. -/
theorem HasParts.append_inj {a b delimiter x y : String} (ha : HasParts a) (hb : HasParts b)
    (hd : IsDelimiter delimiter) (h : a ++ (delimiter ++ x) = b ++ (delimiter ++ y)) :
    a = b ∧ x = y := by
  obtain ⟨c, hc, other⟩ := (Option.any_eq_true _ _).1 hd
  obtain ⟨text, ht⟩ := List.head?_eq_some_iff.1 hc
  have other : isIdentifierPart c = false := by simpa using other
  have chars := congrArg String.toList h
  simp only [String.toList_append, ht, List.cons_append] at chars
  obtain ⟨names, rest⟩ := Text.append_cons_inj (ha.notMem other) (hb.notMem other) chars
  exact ⟨String.toList_inj.1 names, String.toList_inj.1 (List.append_cancel_left rest)⟩

theorem hasParts_repr (n : Nat) : HasParts n.repr := by
  intro c hc
  rw [Nat.toList_repr] at hc
  have digit := Nat.isDigit_of_mem_toDigits (by decide) (by decide) hc
  exact isIdentifierPart_of_isAlphanum (by simp [Char.isAlphanum, digit])

theorem repr_inj {m n : Nat} (h : m.repr = n.repr) : m = n := by
  rw [Nat.repr_eq_ofList_toDigits, Nat.repr_eq_ofList_toDigits, String.ofList_inj] at h
  rw [← @Nat.ofDigitChars_ten_toDigits m, h, Nat.ofDigitChars_ten_toDigits]

theorem IsIdentifier.append (h : IsIdentifier name) (hs : HasParts suffix) :
    IsIdentifier (name ++ suffix) := by
  obtain ⟨start, parts⟩ := h
  obtain ⟨c, hc, first⟩ := (Option.any_eq_true _ _).1 start
  refine ⟨?_, parts.append hs⟩
  rw [String.toList_append, List.head?_append, hc, Option.some_or, Option.any_some, first]

/-! ## Names in title case -/

/-- A character of an identifier is mapped to another letter, dropped or kept. -/
theorem camelChars_cons (hc : isIdentifierPart c = true) (inWord : Bool) (text : List Char) :
    camelChars inWord (c :: text) =
      if c.isAlpha then (if inWord then c.toLower else c.toUpper) :: camelChars true text
      else if c = '_' then camelChars false text else c :: camelChars false text := by
  have ascii := toNat_lt_of_isIdentifierPart hc
  rw [camelChars, Unicode.isAlphabetic_of_ascii ascii, Unicode.lower_of_ascii ascii,
    Unicode.upper_of_ascii ascii]
  cases inWord <;> rfl

theorem isAlpha_cased (letter : c.isAlpha = true) (inWord : Bool) :
    (if inWord then c.toLower else c.toUpper).isAlpha = true := by
  cases inWord with
  | false => exact (toUpper_of_isAlpha letter).1
  | true => exact (toLower_of_isAlpha letter).1

theorem isAlphanum_of_mem_camelChars (h : ∀ c ∈ text, isIdentifierPart c = true) :
    ∀ c ∈ camelChars inWord text, c.isAlphanum = true := by
  induction text generalizing inWord with
  | nil => simp [camelChars]
  | cons c text ih =>
    obtain ⟨hc, htext⟩ := List.forall_mem_cons.1 h
    rw [camelChars_cons hc]
    split
    · next letter =>
      refine List.forall_mem_cons.2 ⟨?_, ih htext⟩
      rw [Char.isAlphanum, isAlpha_cased letter, Bool.true_or]
    · split
      · exact ih htext
      · next hu =>
        refine List.forall_mem_cons.2 ⟨?_, ih htext⟩
        simpa [isIdentifierPart, hu] using hc

/-- The first character in title case comes from the first one that is no underscore. -/
theorem map_isAlpha_head?_camelChars (h : ∀ c ∈ text, isIdentifierPart c = true) :
    (camelChars inWord text).head?.map Char.isAlpha =
      (text.find? (· ≠ '_')).map Char.isAlpha := by
  induction text generalizing inWord with
  | nil => rfl
  | cons c text ih =>
    obtain ⟨hc, htext⟩ := List.forall_mem_cons.1 h
    rw [camelChars_cons hc]
    by_cases hu : c = '_'
    · subst hu
      rw [if_neg (by decide), if_pos rfl, List.find?_cons_of_neg (by simp), ih htext]
    · rw [if_neg hu, List.find?_cons_of_pos (by simpa using hu)]
      split
      · next letter =>
        rw [List.head?_cons, Option.map_some, Option.map_some, isAlpha_cased letter, letter]
      · rfl

theorem isAlphanum_of_mem_camelCase (h : HasParts name) :
    ∀ c ∈ (camelCase name).toList, c.isAlphanum = true := by
  rw [camelCase, String.toList_ofList]
  exact isAlphanum_of_mem_camelChars h

theorem HasParts.camelCase (h : HasParts name) : HasParts (camelCase name) :=
  fun c hc => isIdentifierPart_of_isAlphanum (isAlphanum_of_mem_camelCase h c hc)

/-- A name in title case, with or without an ending, is an identifier exactly if the underscores
before it are followed by a letter. -/
theorem isIdentifier_camelCase_append_iff (h : IsName name) (hs : HasParts suffix) :
    IsIdentifier (camelCase name ++ suffix) ↔ BeginsWithLetter name := by
  obtain ⟨⟨-, parts⟩, d, hd, alphanum⟩ := h
  have first : (camelChars false name.toList).head?.map Char.isAlpha =
      (name.toList.find? (· ≠ '_')).map Char.isAlpha := map_isAlpha_head?_camelChars parts
  have found : (name.toList.find? (· ≠ '_')).isSome := by
    rw [List.find?_isSome]
    exact ⟨d, hd, decide_eq_true (ne_underscore_of_isAlphanum alphanum)⟩
  obtain ⟨f, hf⟩ := Option.isSome_iff_exists.1 found
  rw [hf, Option.map_some, Option.map_eq_some_iff] at first
  obtain ⟨c, hc, letter⟩ := first
  have head : (camelCase name ++ suffix).toList.head? = some c := by
    rw [String.toList_append, List.head?_append, camelCase, String.toList_ofList, hc,
      Option.some_or]
  have hu : c ≠ '_' := ne_underscore_of_isAlphanum
    (isAlphanum_of_mem_camelChars parts c (List.mem_of_mem_head? hc))
  have start : isIdentifierStart c = c.isAlpha := by simp [isIdentifierStart, hu]
  rw [IsIdentifier, head, Option.any_some, start, letter, BeginsWithLetter, hf, Option.any_some]
  exact and_iff_left (HasParts.append (HasParts.camelCase parts) hs)

/-! ## Names of files -/

theorem isIdentifierPart_toLower (h : isIdentifierPart c = true) :
    isIdentifierPart c.toLower = true := by
  have ascii := toNat_lt_of_isIdentifierPart h
  revert h
  exact of_ascii ascii (by decide +kernel)

theorem isIdentifierPart_of_mem_lowerAfter {before : List Char}
    (h : ∀ c ∈ text, isIdentifierPart c = true) :
    ∀ c ∈ Unicode.lowerAfter before text, isIdentifierPart c = true := by
  induction text generalizing before with
  | nil => simp [Unicode.lowerAfter]
  | cons c text ih =>
    obtain ⟨hc, htext⟩ := List.forall_mem_cons.1 h
    have sigma : c ≠ 'Σ' := by
      rintro rfl
      exact absurd hc (by decide)
    rw [Unicode.lowerAfter, if_neg fun final => sigma final.1,
      Unicode.lower_of_ascii (toNat_lt_of_isIdentifierPart hc)]
    exact List.forall_mem_cons.2 ⟨isIdentifierPart_toLower hc, ih htext⟩

theorem HasParts.fileStem (h : HasParts name) : HasParts (fileStem name) := by
  intro c hc
  rw [Identifier.fileStem, Unicode.lowercase, String.toList_ofList, String.toList_ofList] at hc
  exact isIdentifierPart_of_mem_lowerAfter h c (List.mem_filter.1 hc).1

/-! ## The names of groups -/

/-- A name of letters, at least one. -/
def IsWord (name : String) : Prop :=
  name ≠ "" ∧ ∀ c ∈ name.toList, c.isAlpha = true

theorem IsWord.hasParts (h : IsWord name) : HasParts name :=
  fun c hc => isIdentifierPart_of_isAlphanum (by simp [Char.isAlphanum, h.2 c hc])

theorem IsWord.beginsWithLetter (h : IsWord name) : BeginsWithLetter name := by
  obtain ⟨c, text, ht⟩ := List.exists_cons_of_ne_nil (mt String.toList_eq_nil_iff.1 h.1)
  have letter : c.isAlpha = true := h.2 c (by simp [ht])
  have hu : c ≠ '_' := ne_underscore_of_isAlphanum (by simp [Char.isAlphanum, letter])
  simp [BeginsWithLetter, ht, hu, letter]

theorem IsWord.isIdentifier (h : IsWord name) : IsIdentifier name := by
  obtain ⟨c, text, ht⟩ := List.exists_cons_of_ne_nil (mt String.toList_eq_nil_iff.1 h.1)
  have letter : c.isAlpha = true := h.2 c (by simp [ht])
  exact ⟨by simp [ht, isIdentifierStart, letter], h.hasParts⟩

/-- What begins with letters and digits and ends as the name of a group has a word for its letters.
-/
theorem isWord_letters_values (h : ∀ c ∈ name.toList, c.isAlphanum = true) :
    IsWord (letters (name ++ "Values")) := by
  have values : (letters "Values").toList = "Values".toList := by decide +kernel
  refine ⟨?_, ?_⟩
  · rw [ne_eq, ← String.toList_eq_nil_iff, toList_letters_append, values]
    simp
  · rw [toList_letters_append, values]
    refine List.forall_mem_append.2 ⟨fun c hc => ?_, List.all_eq_true.1 (by decide +kernel)⟩
    rw [letters, String.toList_ofList] at hc
    obtain ⟨hmem, kept⟩ := List.mem_filter.1 hc
    have alphanum := h c hmem
    have hu := ne_underscore_of_isAlphanum alphanum
    have ascii := toNat_lt_of_isIdentifierPart (isIdentifierPart_of_isAlphanum alphanum)
    simpa [hu, Unicode.isAlphabetic_of_ascii ascii] using kept

theorem isWord_identifier {p r f : String} (hp : HasParts p) (hr : HasParts r) (hf : HasParts f) :
    IsWord (Group.identifier p r f) := by
  refine isWord_letters_values ?_
  simp only [String.toList_append, List.forall_mem_append]
  exact ⟨⟨isAlphanum_of_mem_camelCase hp, isAlphanum_of_mem_camelCase hr⟩,
    isAlphanum_of_mem_camelCase hf⟩

theorem isWord_placeholder {p r : String} (hp : HasParts p) (hr : HasParts r) :
    IsWord (Group.placeholder p r) := by
  refine isWord_letters_values ?_
  simp only [String.toList_append, List.forall_mem_append]
  exact ⟨isAlphanum_of_mem_camelCase hp, isAlphanum_of_mem_camelCase hr⟩

end Identifier

end RegisterHeaders
