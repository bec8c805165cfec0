import RegisterHeaders.Group.Basic
import RegisterHeaders.Proofs.Text

/-!
# The fields that share a group

The identifier of a group is made of the letters of three names. Digits and punctuation do not show
in it, but they end a run of letters, and every run begins with a capital. So what an identifier
says of the names is their runs of letters, one after the other (`toList_identifier`), and these can
be read back from it (`flatMap_capitalize_inj`): fields share a group if and only if their names
have the same runs. Where one name ends and the next one begins, the identifier does not say.
-/

namespace RegisterHeaders

namespace Identifier

/-! ## Cases of letters -/

/-- What can be checked for each ASCII character holds of all of them. -/
@[elab_as_elim]
theorem of_ascii {P : Char → Prop} {c : Char} (h : c.toNat < 0x80)
    (all : ∀ n < 0x80, P (Char.ofNat n)) : P c := by
  rw [← c.ofNat_toNat]
  exact all _ h

theorem toNat_lt_of_isAlpha {c : Char} (h : c.isAlpha = true) : c.toNat < 0x80 := by
  rcases Bool.or_eq_true_iff.1 h with upper | lower
  · have last : c.val ≤ 'Z'.val := (of_decide_eq_true upper).2
    exact Nat.lt_of_le_of_lt (UInt32.le_iff_toNat_le.1 last) (by decide)
  · have last : c.val ≤ 'z'.val := of_decide_eq_true (Bool.and_eq_true_iff.1 lower).2
    exact Nat.lt_of_le_of_lt (UInt32.le_iff_toNat_le.1 last) (by decide)

section Cases

variable {c : Char}

theorem toLower_of_isAlpha (h : c.isAlpha = true) :
    c.toLower.isAlpha = true ∧ c.toLower.isLower = true ∧ c.toLower.toUpper = c.toUpper := by
  have ascii := toNat_lt_of_isAlpha h
  revert h
  exact of_ascii ascii (by decide +kernel)

theorem toUpper_of_isAlpha (h : c.isAlpha = true) :
    c.toUpper.isAlpha = true ∧ c.toUpper.isLower = false := by
  have ascii := toNat_lt_of_isAlpha h
  revert h
  exact of_ascii ascii (by decide +kernel)

theorem isAlpha_of_isLower (h : c.isLower = true) : c.isAlpha = true :=
  Bool.or_eq_true_iff.2 (Or.inr h)

theorem toLower_toUpper_of_isLower (h : c.isLower = true) : c.toUpper.toLower = c := by
  have ascii := toNat_lt_of_isAlpha (isAlpha_of_isLower h)
  revert h
  exact of_ascii ascii (by decide +kernel)

end Cases

/-! ## Runs of letters -/

/-- Whether a name has ASCII characters only. -/
def IsAscii (name : String) : Prop :=
  ∀ c ∈ name.toList, c.toNat < 0x80

/-- The pieces that are not empty, in lower case. -/
def lowerPieces (pieces : List (List Char)) : List (List Char) :=
  (pieces.filter (· ≠ [])).map (·.map Char.toLower)

/-- The maximal runs of letters of an ASCII name, in lower case: `TIM_SR1` has `tim` and `sr`. -/
def runs (name : String) : List (List Char) :=
  lowerPieces (name.toList.splitOnP fun c => !c.isAlpha)

/-- A word of lower-case letters, which has at least one. -/
def IsRun (run : List Char) : Prop :=
  run ≠ [] ∧ ∀ c ∈ run, c.isLower

theorem isRun_of_mem_runs {name : String} {run : List Char} (h : run ∈ runs name) : IsRun run := by
  obtain ⟨piece, hp, rfl⟩ := List.mem_map.1 h
  obtain ⟨hp, nonempty⟩ := List.mem_filter.1 hp
  refine ⟨by simpa using nonempty, fun d hd => ?_⟩
  obtain ⟨c, hc, rfl⟩ := List.mem_map.1 hd
  have letter : c.isAlpha = true := by simpa using Text.eq_false_of_mem_splitOnP hp c hc
  exact (toLower_of_isAlpha letter).2.1

/-! ## The letters of a name -/

/-- A run with a capital at its beginning. -/
def capitalize : List Char → List Char
  | [] => []
  | c :: run => c.toUpper :: run

/-- Whether a character stays in an identifier. -/
def isKept (c : Char) : Bool :=
  Unicode.isAlphabetic c || c = '_'

theorem isKept_of_isAlpha {c : Char} (h : c.isAlpha = true) : isKept c = true := by
  simp [isKept, Unicode.isAlphabetic_of_ascii (toNat_lt_of_isAlpha h), h]

theorem filter_camelChars_cons_of_not_isAlpha {c : Char} (ascii : c.toNat < 0x80)
    (h : ¬ c.isAlpha = true) (inWord : Bool) (text : List Char) :
    (camelChars inWord (c :: text)).filter isKept = (camelChars false text).filter isKept := by
  have alphabetic : ¬ Unicode.isAlphabetic c = true := by
    rwa [Unicode.isAlphabetic_of_ascii ascii]
  rw [camelChars, if_neg alphabetic]
  split
  · rfl
  · next underscore =>
    rw [List.filter_cons_of_neg]
    simp [isKept, alphabetic, underscore]

/-- The letters of a name in title case are its runs, each with a capital. If the name goes on with
the run before it, its first piece has none. -/
theorem filter_camelChars {text : List Char} (ascii : ∀ c ∈ text, c.toNat < 0x80) :
    ∃ piece pieces, text.splitOnP (fun c => !c.isAlpha) = piece :: pieces ∧
      (camelChars true text).filter isKept =
        piece.map Char.toLower ++ (lowerPieces pieces).flatMap capitalize ∧
      (camelChars false text).filter isKept =
        (lowerPieces (piece :: pieces)).flatMap capitalize := by
  induction text with
  | nil => exact ⟨[], [], rfl, rfl, rfl⟩
  | cons c text ih =>
    obtain ⟨hc, htext⟩ := List.forall_mem_cons.1 ascii
    obtain ⟨piece, pieces, hs, inside, outside⟩ := ih htext
    rw [List.splitOnP_cons_eq_if_modifyHead, hs]
    by_cases letter : c.isAlpha = true
    · have alphabetic : Unicode.isAlphabetic c = true := by
        rwa [Unicode.isAlphabetic_of_ascii hc]
      obtain ⟨lower, -, same⟩ := toLower_of_isAlpha letter
      have lower : isKept c.toLower = true := isKept_of_isAlpha lower
      have upper : isKept c.toUpper = true := isKept_of_isAlpha (toUpper_of_isAlpha letter).1
      refine ⟨c :: piece, pieces, by simp [letter], ?_, ?_⟩
      · simp [camelChars, alphabetic, Unicode.lower_of_ascii hc, lower, inside]
      · simp [camelChars, alphabetic, Unicode.upper_of_ascii hc, upper, inside, lowerPieces,
          capitalize, same]
    · refine ⟨[], piece :: pieces, by simp [letter], ?_, ?_⟩
      · rw [filter_camelChars_cons_of_not_isAlpha hc letter, outside]
        rfl
      · rw [filter_camelChars_cons_of_not_isAlpha hc letter, outside]
        rfl

theorem toList_letters_camelCase {name : String} (ascii : IsAscii name) :
    (letters (camelCase name)).toList = (runs name).flatMap capitalize := by
  obtain ⟨piece, pieces, hs, -, outside⟩ := filter_camelChars ascii
  rw [runs, hs, ← outside, camelCase, letters, String.toList_ofList, String.toList_ofList]
  rfl

theorem toList_letters_append (a b : String) :
    (letters (a ++ b)).toList = (letters a).toList ++ (letters b).toList := by
  simp [letters]

/-! ## Reading the runs back -/

/-- What follows a run begins with a capital, if anything follows. -/
theorem isLower_head_flatMap_capitalize {words : List (List Char)} (h : ∀ w ∈ words, IsRun w) :
    ∀ c ∈ (words.flatMap capitalize).head?, c.isLower = false := by
  cases words with
  | nil => simp
  | cons word rest =>
    obtain ⟨nonempty, lower⟩ := h word List.mem_cons_self
    obtain ⟨c, run, rfl⟩ := List.exists_cons_of_ne_nil nonempty
    have letter := isAlpha_of_isLower (lower c List.mem_cons_self)
    simp [capitalize, (toUpper_of_isAlpha letter).2]

theorem takeWhile_isLower_run {run : List Char} (hrun : ∀ c ∈ run, c.isLower = true)
    {words : List (List Char)} (h : ∀ w ∈ words, IsRun w) :
    (run ++ words.flatMap capitalize).takeWhile Char.isLower = run := by
  rw [List.takeWhile_append_of_pos hrun]
  have head := isLower_head_flatMap_capitalize h
  cases hw : words.flatMap capitalize with
  | nil => simp
  | cons c text =>
    have capital : c.isLower = false := head c (by rw [hw]; rfl)
    simp [capital]

/-- Words of lower-case letters can be read back from their concatenation with capitals. -/
theorem flatMap_capitalize_inj {words words' : List (List Char)} (h : ∀ w ∈ words, IsRun w)
    (h' : ∀ w ∈ words', IsRun w) (heq : words.flatMap capitalize = words'.flatMap capitalize) :
    words = words' := by
  induction words generalizing words' with
  | nil =>
    cases words' with
    | nil => rfl
    | cons word rest =>
      obtain ⟨c, run, rfl⟩ := List.exists_cons_of_ne_nil (h' word List.mem_cons_self).1
      simp [capitalize] at heq
  | cons word rest ih =>
    obtain ⟨⟨nonempty, hword⟩, hrest⟩ := List.forall_mem_cons.1 h
    obtain ⟨c, run, rfl⟩ := List.exists_cons_of_ne_nil nonempty
    cases words' with
    | nil => simp [capitalize] at heq
    | cons word' rest' =>
      obtain ⟨⟨nonempty', hword'⟩, hrest'⟩ := List.forall_mem_cons.1 h'
      obtain ⟨c', run', rfl⟩ := List.exists_cons_of_ne_nil nonempty'
      obtain ⟨hc, hrun⟩ := List.forall_mem_cons.1 hword
      obtain ⟨hc', hrun'⟩ := List.forall_mem_cons.1 hword'
      simp only [List.flatMap_cons, capitalize, List.cons_append, List.cons.injEq] at heq
      obtain ⟨first, text⟩ := heq
      -- the run ends before the next capital, at the same place on both sides
      have runs : run = run' := by
        rw [← takeWhile_isLower_run hrun hrest, text, takeWhile_isLower_run hrun' hrest']
      subst runs
      rw [ih hrest hrest' (List.append_cancel_left text), ← toLower_toUpper_of_isLower hc, first,
        toLower_toUpper_of_isLower hc']

end Identifier

namespace Group

open Identifier

variable {p r f p' r' f' : String}

/-! ## Identifiers -/

theorem toList_letters_values : (letters "Values").toList = (runs "Values").flatMap capitalize := by
  decide +kernel

/-- The identifier of a group is made of the runs of the three names. -/
theorem toList_identifier (hp : IsAscii p) (hr : IsAscii r) (hf : IsAscii f) :
    (identifier p r f).toList =
      (runs p ++ runs r ++ runs f ++ runs "Values").flatMap capitalize := by
  simp only [identifier, toList_letters_append, toList_letters_camelCase hp,
    toList_letters_camelCase hr, toList_letters_camelCase hf, toList_letters_values,
    List.flatMap_append]

/-- The identifier of a placeholder is made of the runs of the two names. -/
theorem toList_placeholder (hp : IsAscii p) (hr : IsAscii r) :
    (placeholder p r).toList = (runs p ++ runs r ++ runs "Values").flatMap capitalize := by
  simp only [placeholder, toList_letters_append, toList_letters_camelCase hp,
    toList_letters_camelCase hr, toList_letters_values, List.flatMap_append]

theorem eq_iff_of_toList {a b : String} {words words' : List (List Char)}
    (ha : a.toList = (words ++ runs "Values").flatMap capitalize)
    (hb : b.toList = (words' ++ runs "Values").flatMap capitalize)
    (h : ∀ w ∈ words, IsRun w) (h' : ∀ w ∈ words', IsRun w) : a = b ↔ words = words' := by
  have withEnding {words : List (List Char)} (h : ∀ w ∈ words, IsRun w) :
      ∀ w ∈ words ++ runs "Values", IsRun w :=
    List.forall_mem_append.2 ⟨h, fun w => isRun_of_mem_runs⟩
  rw [← String.toList_inj, ha, hb]
  constructor
  · intro heq
    exact List.append_cancel_right (flatMap_capitalize_inj (withEnding h) (withEnding h') heq)
  · rintro rfl
    rfl

/-- Two fields share a group if and only if their names have the same runs of letters, and the
placeholder of a register is the group of a field under the same condition. -/
theorem identifier_eq_iff_runs (hp : IsAscii p) (hr : IsAscii r) (hf : IsAscii f)
    (hp' : IsAscii p') (hr' : IsAscii r') (hf' : IsAscii f') :
    (identifier p r f = identifier p' r' f' ↔
      runs p ++ runs r ++ runs f = runs p' ++ runs r' ++ runs f') ∧
    (placeholder p r = identifier p' r' f' ↔
      runs p ++ runs r = runs p' ++ runs r' ++ runs f') := by
  have single (name : String) : ∀ w ∈ runs name, IsRun w := fun w => isRun_of_mem_runs
  have both {words words' : List (List Char)} (h : ∀ w ∈ words, IsRun w)
      (h' : ∀ w ∈ words', IsRun w) : ∀ w ∈ words ++ words', IsRun w :=
    List.forall_mem_append.2 ⟨h, h'⟩
  have two := both (single p) (single r)
  have three' := both (both (single p') (single r')) (single f')
  have id' := toList_identifier hp' hr' hf'
  exact ⟨eq_iff_of_toList (toList_identifier hp hr hf) id' (both two (single f)) three',
    eq_iff_of_toList (toList_placeholder hp hr) id' two three'⟩

/-- The field `1` of a register `B_C` and the field `C` of a register `B` share a group, which is
also the placeholder of `B_C`. -/
theorem identifier_across_names : IsAscii "A" ∧ IsAscii "B_C" ∧ IsAscii "1" ∧ IsAscii "B" ∧
    IsAscii "C" ∧ identifier "A" "B_C" "1" = identifier "A" "B" "C" ∧
    placeholder "A" "B_C" = identifier "A" "B" "C" := by
  have ascii : IsAscii "A" ∧ IsAscii "B_C" ∧ IsAscii "1" ∧ IsAscii "B" ∧ IsAscii "C" := by
    simp [IsAscii]
  obtain ⟨a, bc, one, b, c⟩ := ascii
  have shared := identifier_eq_iff_runs a bc one a b c
  exact ⟨a, bc, one, b, c, shared.1.2 (by decide +kernel), shared.2.2 (by decide +kernel)⟩

end Group

end RegisterHeaders
