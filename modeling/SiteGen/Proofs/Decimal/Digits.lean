import SiteGen.Decimal.Plain
import SiteGen.Decimal.Reader

/-!
# Decimal digits of numbers

* `Decimal.ofDigits_digits`: the digits of a number are digits of this number.
* `Decimal.digits_cases`: a number begins with a zero only if it is zero.
-/

namespace SiteGen.Decimal

theorem ofDigits_eq (ds : List Char) : ofDigits ds = Nat.ofDigitChars 10 ds 0 := by
  unfold ofDigits Nat.ofDigitChars
  congr 1
  funext n c
  rw [Nat.mul_comm]
  rfl

@[simp]
theorem ofDigits_digits (n : Nat) : ofDigits (digits n) = n := by
  rw [ofDigits_eq, digits, Nat.ofDigitChars_ten_toDigits]

theorem ofDigits_append (l m : List Char) :
    ofDigits (l ++ m) = ofDigits l * tenTo m.length + ofDigits m := by
  rw [ofDigits_eq, Nat.ofDigitChars_append, Nat.ofDigitChars_eq_ofDigitChars_zero, ← ofDigits_eq,
    ← ofDigits_eq, Nat.mul_comm]
  rfl

@[simp]
theorem ofDigits_zeros (n : Nat) : ofDigits (List.replicate n '0') = 0 := by
  rw [ofDigits_eq, Nat.ofDigitChars_replicate_zero, Nat.mul_zero]

theorem isDigit_of_mem_digits {n : Nat} {c : Char} (h : c ∈ digits n) : c.isDigit = true :=
  Nat.isDigit_of_mem_toDigits (by decide) (by decide) h

theorem digits_ne_nil (n : Nat) : digits n ≠ [] := Nat.toDigits_ne_nil

/-- The digits of a number **begin with zero** only if it is zero. -/
theorem digits_cases (n : Nat) : n = 0 ∨ ∃ c ds, digits n = c :: ds ∧ c ≠ '0' := by
  induction n using Nat.strongRecOn with
  | _ n ih =>
    rcases Nat.eq_zero_or_pos n with rfl | hpos
    · exact Or.inl rfl
    · refine Or.inr ?_
      rw [digits, Nat.toDigits_eq_if (by decide)]
      split
      · exact ⟨_, [], rfl, by simpa using Nat.ne_of_gt hpos⟩
      · next hn =>
        obtain h | ⟨c, ds, hds, hc⟩ := ih (n / 10) (by omega)
        · omega
        · rw [digits] at hds
          exact ⟨c, _, by rw [hds, List.cons_append], hc⟩

end SiteGen.Decimal
