import RegisterHeaders.Header.Text
import RegisterHeaders.Proofs.Identifier

/-!
# The arguments of a register

The lines of a register repeat its address, its width and its mode as template arguments. Numbers
and modes are written with the characters of identifiers, so each of them ends where the next
delimiter begins, and the arguments can be read back (`arguments_append_inj`).
-/

namespace RegisterHeaders.Header

open Identifier

/-! ## Numbers -/

theorem exists_digitChar_of_mem {base n : Nat} (hb : 1 < base) {c : Char}
    (h : c ∈ Nat.toDigits base n) : ∃ digit < base, c = digit.digitChar := by
  induction n using Nat.strongRecOn with
  | _ n ih =>
    rw [Nat.toDigits_eq_if hb] at h
    split at h
    · next small => exact ⟨n, small, List.mem_singleton.1 h⟩
    · rcases List.mem_append.1 h with h | h
      · exact ih _ (Nat.div_lt_self (by omega) hb) h
      · exact ⟨_, Nat.mod_lt n (by omega), List.mem_singleton.1 h⟩

theorem hasParts_hexadecimal (n : UInt64) : HasParts (hexadecimal n) := by
  have part {digit : Nat} (h : digit < 16) :
      isIdentifierPart digit.digitChar.toUpper = true := by
    revert digit
    decide
  refine HasParts.append (by decide) ?_
  rw [HasParts, String.toList_ofList, List.forall_mem_map]
  intro c hc
  obtain ⟨digit, small, rfl⟩ := exists_digitChar_of_mem (by decide) hc
  exact part small

/-- The number that a capital hexadecimal digit stands for. -/
def digitValue (c : Char) : Nat :=
  if c.isDigit then c.toNat - 48 else c.toNat - 55

theorem digitValue_digitChar {digit : Nat} (h : digit < 16) :
    digitValue digit.digitChar.toUpper = digit := by
  revert digit
  decide

/-- The digits of a number tell the number. -/
theorem foldl_digitValue (n : Nat) :
    ((Nat.toDigits 16 n).map Char.toUpper).foldl (fun m c => 16 * m + digitValue c) 0 = n := by
  induction n using Nat.strongRecOn with
  | _ n ih =>
    rw [Nat.toDigits_eq_if (by decide)]
    split
    · next small => simp [digitValue_digitChar small]
    · next large =>
      have last : digitValue (n % 16).digitChar.toUpper = n % 16 :=
        digitValue_digitChar (Nat.mod_lt n (by decide))
      rw [List.map_append, List.foldl_append, ih (n / 16) (by omega)]
      simp only [List.map_cons, List.map_nil, List.foldl_cons, List.foldl_nil, last]
      omega

theorem hexadecimal_inj {m n : UInt64} (h : hexadecimal m = hexadecimal n) : m = n := by
  rw [hexadecimal, hexadecimal, String.append_right_inj, String.ofList_inj] at h
  rw [← UInt64.toNat_inj, ← foldl_digitValue m.toNat, h, foldl_digitValue]

/-! ## Arguments -/

theorem hasParts_modeType (access : Access) : HasParts access.modeType := by
  cases access <;> decide

/-- The arguments hold no `<`. -/
theorem angle_notMem_arguments (r : RegisterStruct) : '<' ∉ r.arguments.toList := by
  have address := (hasParts_hexadecimal r.address).notMem (c := '<') (by decide)
  have width := (hasParts_repr r.width.toNat).notMem (c := '<') (by decide)
  have mode := (hasParts_modeType r.access).notMem (c := '<') (by decide)
  simp only [RegisterStruct.arguments, String.toList_append, List.mem_append, not_or]
  exact ⟨⟨⟨⟨address, by decide⟩, width⟩, by decide⟩, mode⟩

/-- The arguments can be told from a delimiter after them and what follows. -/
theorem arguments_append_inj {a b : RegisterStruct} {delimiter x y : String}
    (hd : IsDelimiter delimiter)
    (h : a.arguments ++ (delimiter ++ x) = b.arguments ++ (delimiter ++ y)) :
    (a.address = b.address ∧ a.width = b.width ∧ a.access.modeType = b.access.modeType) ∧
      x = y := by
  simp only [RegisterStruct.arguments, String.append_assoc] at h
  obtain ⟨address, h⟩ :=
    (hasParts_hexadecimal _).append_inj (hasParts_hexadecimal _) (by decide) h
  obtain ⟨width, h⟩ := (hasParts_repr _).append_inj (hasParts_repr _) (by decide) h
  obtain ⟨mode, h⟩ := (hasParts_modeType _).append_inj (hasParts_modeType _) hd h
  exact ⟨⟨hexadecimal_inj address, UInt32.toNat_inj.1 (repr_inj width), mode⟩, h⟩

end RegisterHeaders.Header
