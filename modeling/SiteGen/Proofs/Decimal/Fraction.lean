import Mathlib
import SiteGen.Proofs.Decimal.Numeral

/-!
# Fractional digits

A float that is not a whole number has digits after the point in plain notation.

* `Binary64.value`: the magnitude of a float as a rational number.
* `Decimal.exponent_shortest_neg`: the shortest decimal of such a float has an exponent below zero.
* `Decimal.dot_mem_plainMagnitude`: where plain notation has a point.
-/

namespace SiteGen

namespace Binary64

variable {m n : Nat} {e : Int}

/-- The **magnitude** of a float as a rational number. -/
def value (mantissa : Nat) (exponent : Int) : ℚ := mantissa * 2 ^ exponent

theorem value_eq_iff : value m e = n ↔ m * twoTo e.toNat = n * twoTo (-e).toNat := by
  have hpow : (2 : ℚ) ^ e = 2 ^ e.toNat / 2 ^ (-e).toNat := by
    rw [← zpow_natCast, ← zpow_natCast, ← zpow_sub₀ (by decide)]
    congr 1
    omega
  have hne : (2 : ℚ) ^ (-e).toNat ≠ 0 := by positivity
  rw [value, hpow, ← mul_div_assoc, div_eq_iff hne, twoTo, twoTo]
  exact_mod_cast Iff.rfl

end Binary64

namespace Decimal

open Binary64

variable {m n : Nat} {e : Int} {tie : Tie}

theorem whole?_eq_some_iff : whole? m e = some n ↔ value m e = n := by
  have hsign : e.toNat = 0 ∨ (-e).toNat = 0 := by omega
  have hpos := twoTo_pos (-e).toNat
  rw [value_eq_iff]
  unfold whole?
  dsimp only
  rw [Option.ite_none_right_eq_some, Option.some.injEq]
  constructor
  · rintro ⟨hmod, rfl⟩
    rw [Nat.mul_right_comm, Nat.div_mul_cancel (Nat.dvd_of_mod_eq_zero hmod)]
  · intro h
    rcases hsign with he | he
    · rw [he, twoTo_zero, Nat.mul_one] at h ⊢
      rw [h]
      exact ⟨Nat.mul_mod_left .., Nat.mul_div_cancel _ hpos⟩
    · rw [he, twoTo_zero] at h ⊢
      exact ⟨Nat.mod_one _, by rw [Nat.div_one, h, Nat.mul_one]⟩

/-- Only a whole number has a shortest decimal **without fractional digits**. -/
theorem exponent_shortest_neg (hc : Canonical m e) (hwhole : whole? m e = none) :
    (shortest tie m e).2 < 0 := by
  have hnot : ∀ n : Nat, m * twoTo e.toNat ≠ n * twoTo (-e).toNat := fun n h => by
    rw [whole?_eq_some_iff.mpr (value_eq_iff.mpr h)] at hwhole
    cases hwhole
  have hm : 0 < m := Nat.pos_of_ne_zero fun h => hnot 0 (by rw [h, Nat.zero_mul, Nat.zero_mul])
  obtain ⟨n, k, hshortest, -, -, hlow, hhigh, -⟩ := shortest_roundsTo tie hc hm
  rw [hshortest]
  by_contra hk
  have hk' : 0 ≤ k := Int.not_lt.mp hk
  by_cases he : 0 ≤ e
  · -- every such float is a whole number
    exact hnot (m * twoTo e.toNat) (by rw [(by omega : (-e).toNat = 0), twoTo_zero, Nat.mul_one])
  · -- a whole number that rounds to a float is the float
    rw [(by omega : (-k).toNat = 0), (by omega : (e - 2).toNat = 0), (by omega : (2 - e).toNat = (-e).toNat + 2),
      twoTo_add, twoTo_zero, show tenTo 0 = 1 from rfl, show twoTo 2 = 4 from rfl, Nat.mul_one, ← Nat.mul_assoc]
      at hlow hhigh
    have hgap := gap_le m e
    refine hnot (n * tenTo k.toNat) ?_
    rw [(by omega : e.toNat = 0), twoTo_zero, Nat.mul_one]
    omega

theorem dot_mem_positional {k : Int} (hk : k < 0) : '.' ∈ positional n k := by
  unfold positional
  dsimp only
  rw [if_neg (by omega)]
  split <;> simp

/-- Plain notation has **a point** if the number is not whole, or less than `10 ^ 16`. -/
theorem dot_mem_plainMagnitude (hc : Canonical m e) (h : (∀ n : Nat, value m e ≠ n) ∨ value m e < 10 ^ 16) :
    '.' ∈ plainMagnitude m e := by
  unfold plainMagnitude
  split
  · next n hn =>
    have hvalue := whole?_eq_some_iff.mp hn
    have hlimit : n < wholeLimit := by
      refine h.elim (fun h => absurd hvalue (h n)) fun h => ?_
      rw [hvalue] at h
      exact_mod_cast h
    rw [if_pos hlimit]
    simp
  · next hn => exact dot_mem_positional (exponent_shortest_neg hc hn)

/-- A numeral with a point **has fractional digits**. -/
theorem Numeral.fraction_ne_nil {N : Numeral} (h : '.' ∈ N.text) : N.fraction ≠ [] := by
  intro hnil
  rw [text, hnil, List.isEmpty_nil, if_pos rfl, List.append_nil] at h
  exact absurd (N.isDigit_of_mem_whole h) (by decide)

end Decimal

end SiteGen
