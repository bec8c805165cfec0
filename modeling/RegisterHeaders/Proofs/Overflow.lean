import RegisterHeaders.Overflow

/-!
# Exact results

A checked operation gives the exact result, and it gives one whenever that fits.
-/

namespace RegisterHeaders.Checked

/-- An operation that gives `word` if the exact result fits gives the exact result. -/
theorem ite_eq_ok_iff {ω : Type} {toNat : ω → Nat} (inj : ∀ {a b}, toNat a = toNat b ↔ a = b)
    {limit exact : Nat} (lt : ∀ a, toNat a < limit) {word c : ω} {cause : Overflow}
    (hword : exact < limit → toNat word = exact) :
    (if exact < limit then Except.ok word else .error cause) = .ok c ↔ toNat c = exact := by
  split
  · next h => rw [Except.ok.injEq, ← hword h, inj, eq_comm]
  · next h =>
    simp only [reduceCtorEq, false_iff]
    exact fun heq => h (heq ▸ lt c)

theorem addAddress_eq_ok_iff {a b c : UInt64} :
    addAddress a b = .ok c ↔ c.toNat = a.toNat + b.toNat :=
  ite_eq_ok_iff UInt64.toNat_inj UInt64.toNat_lt fun h => by
    rw [UInt64.toNat_add]
    exact Nat.mod_eq_of_lt h

theorem addOffset_eq_ok_iff {a b c : UInt32} :
    addOffset a b = .ok c ↔ c.toNat = a.toNat + b.toNat :=
  ite_eq_ok_iff UInt32.toNat_inj UInt32.toNat_lt fun h => by
    rw [UInt32.toNat_add]
    exact Nat.mod_eq_of_lt h

theorem mulOffset_eq_ok_iff {a b c : UInt32} :
    mulOffset a b = .ok c ↔ c.toNat = a.toNat * b.toNat :=
  ite_eq_ok_iff UInt32.toNat_inj UInt32.toNat_lt fun h => by
    rw [UInt32.toNat_mul]
    exact Nat.mod_eq_of_lt h

end RegisterHeaders.Checked
