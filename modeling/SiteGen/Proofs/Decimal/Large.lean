import SiteGen.Proofs.Decimal.Bits
import SiteGen.Proofs.Decimal.Numeral

/-!
# Whole numbers of more than 63 bits as floats

From `2 ^ 63` up to `2 ^ 64`, floats are multiples of 2048, and their shortest decimals multiples of a hundred.

* `Decimal.exists_roundsTo`: the float that such a number rounds to.
* `Decimal.digits_mul_tenTo`: the digits of a number times a power of ten.
* `Decimal.hundred_grid`: the shortest decimals of these floats.
* `Decimal.plain_ofDecimal_large`: how such a number is written as a float.
-/

namespace SiteGen.Decimal

open Binary64

variable {tie : Tie} {m n N : Nat} {e k : Int}

/-! ## Digits -/

/-- **The digits** of a number times a power of ten. -/
theorem digits_mul_tenTo (hn : 0 < n) : ∀ j, digits (n * tenTo j) = digits n ++ List.replicate j '0'
  | 0 => by rw [show tenTo 0 = 1 from rfl, Nat.mul_one, List.replicate_zero, List.append_nil]
  | j + 1 => by
    have hzero : digits 0 = ['0'] := rfl
    have hstep := Nat.toDigits_append_toDigits (by decide : 1 < 10) (Nat.mul_pos hn (tenTo_pos j))
      (by decide : 0 < 10)
    rw [tenTo_add, show tenTo 1 = 10 from rfl, ← Nat.mul_assoc, Nat.mul_comm _ 10, digits, ← Nat.add_zero (10 * _),
      ← hstep, ← digits, ← digits, hzero, digits_mul_tenTo hn j, List.append_assoc, List.replicate_succ']

theorem positional_of_nonneg (hn : 0 < n) (hk : 0 ≤ k) : positional n k = digits (n * tenTo k.toNat) := by
  unfold positional
  dsimp only
  rw [if_pos hk, digits_mul_tenTo hn]

/-! ## The float nearby -/

theorem roundsTo_one_iff (unit : Nat) (he : 2 ≤ e) (hunit : twoTo (e - 2).toNat = unit) :
    RoundsTo m e n 1 ↔ (4 * m - gap m e) * unit ≤ n ∧ n ≤ (4 * m + 2) * unit ∧
      (m % 2 = 1 → (4 * m - gap m e) * unit < n ∧ n < (4 * m + 2) * unit) := by
  have hone : n * twoTo (2 - e).toNat = n := by rw [(by omega : (2 - e).toNat = 0), twoTo_zero, Nat.mul_one]
  have hden : twoTo (e - 2).toNat * 1 = unit := by rw [hunit, Nat.mul_one]
  constructor
  · rintro ⟨hlow, hhigh, hodd⟩
    rw [hone, hden] at hlow hhigh hodd
    exact ⟨hlow, hhigh, hodd⟩
  · rintro ⟨hlow, hhigh, hodd⟩
    refine ⟨?_, ?_, ?_⟩
    all_goals
      rw [hone, hden]
      assumption

/-- **The float** that a number of 64 bits rounds to, if it has more than 63. -/
theorem exists_roundsTo (hlow : 2 ^ 63 ≤ n) (hhigh : n < 2 ^ 64) : ∃ m e, Canonical m e ∧ hiddenBit ≤ m ∧
    RoundsTo m e n 1 ∧ (e = 11 ∨ e = 12 ∧ m = hiddenBit) := by
  have hdiv := Nat.div_add_mod n 2048
  have hmod := Nat.mod_lt n (by decide : 0 < 2048)
  generalize n / 2048 = q at *
  generalize n % 2048 = r at *
  have hq : hiddenBit ≤ q ∧ q < 2 * hiddenBit := by
    unfold hiddenBit
    omega
  -- the nearest multiple of 2048, an even one if there are two
  obtain ⟨m, hm, hbelow, habove, hodd⟩ : ∃ m, (m = q ∨ m = q + 1) ∧
      2048 * m ≤ n + 1024 ∧ n ≤ 2048 * m + 1024 ∧ (m % 2 = 1 → 2048 * m < n + 1024 ∧ n < 2048 * m + 1024) := by
    by_cases hup : 1024 < r ∨ r = 1024 ∧ q % 2 = 1
    · exact ⟨q + 1, Or.inr rfl, by omega, by omega, by omega⟩
    · exact ⟨q, Or.inl rfl, by omega, by omega, by omega⟩
  by_cases htop : m = 2 * hiddenBit
  · -- it is the power of two above, which has a higher place
    have hgap : gap hiddenBit 12 = 1 := rfl
    refine ⟨hiddenBit, 12, ⟨by decide, by decide, by decide, Or.inr (Nat.le_refl _)⟩, Nat.le_refl _,
      (roundsTo_one_iff 1024 (by decide) rfl).mpr ⟨?_, ?_, fun h => absurd h (by decide)⟩,
      Or.inr ⟨rfl, rfl⟩⟩
    · rw [hgap]
      unfold hiddenBit at *
      omega
    · unfold hiddenBit at *
      omega
  · have hgap : m ≠ hiddenBit → gap m 11 = 2 := fun h => by rw [gap, if_neg (by simp [h])]
    have hle := gap_le m 11
    refine ⟨m, 11, ⟨by omega, by decide, by decide, Or.inr (by omega)⟩, by omega,
      (roundsTo_one_iff 512 (by decide) rfl).mpr ⟨?_, by omega, fun h => ⟨?_, by omega⟩⟩,
      Or.inl rfl⟩
    · by_cases hfirst : m = hiddenBit
      · omega
      · rw [hgap hfirst]
        omega
    · rw [hgap (by rintro rfl; exact absurd h (by decide))]
      omega

/-! ## The shortest decimal -/

/-- **The shortest decimal** of a float from `2 ^ 63` on up to `2 ^ 65` is a multiple of a hundred. -/
theorem hundred_grid (hc : Canonical m e) (hm : hiddenBit ≤ m) (he : e = 11 ∨ e = 12) :
    ∃ p k, shortest tie m e = (p, k) ∧ 2 ≤ k ∧ RoundsTo m e (p * tenTo k.toNat) 1 := by
  have hpos : 0 < m := Nat.lt_of_lt_of_le (by decide) hm
  have hlog : m.log2 = 52 := by
    refine Nat.le_antisymm (Nat.le_of_lt_succ ((Nat.log2_lt (Nat.ne_of_gt hpos)).mpr hc.lt)) ?_
    exact (Nat.le_log2 (Nat.ne_of_gt hpos)).mpr hm
  have hfirst : firstGrid m e = 20 := by
    unfold firstGrid
    rw [hlog]
    rcases he with rfl | rfl <;> rfl
  -- the steps of this grid are less than a quarter of the last place
  have hstep : tenTo (20 - (18 : Nat) : Int).toNat * twoTo (2 - e).toNat ≤
      twoTo (e - 2).toNat * tenTo (-(20 - (18 : Nat) : Int)).toNat := by
    rcases he with rfl | rfl <;> decide
  obtain ⟨p, i, hi, hsearch, hpoint⟩ :=
    @searchGrids_of_gridPoint? tie m e 24 18 20 (by decide) (gridPoint?_of_le hpos hstep)
  refine ⟨p, 20 - i, ?_, by omega, ?_⟩
  · rw [shortest, if_neg (Nat.ne_of_gt hpos), hfirst, hsearch]
    rfl
  · have hround := gridPoint?_roundsTo hpoint
    rwa [(by omega : (-(20 - i : Int)).toNat = 0), show tenTo 0 = 1 from rfl] at hround

theorem plainMagnitude_large (hm : hiddenBit ≤ m) (he : 10 ≤ e) :
    plainMagnitude m e = positional (shortest .up m e).1 (shortest .up m e).2 := by
  have hwhole : whole? m e = some (m * twoTo e.toNat) := by
    rw [whole?, (by omega : (-e).toNat = 0), twoTo_zero, if_pos (Nat.mod_one m), Nat.div_one]
  have hlarge : ¬m * twoTo e.toNat < wholeLimit :=
    Nat.not_lt.mpr (Nat.le_trans (by decide) (Nat.mul_le_mul hm (twoTo_le (by omega : 10 ≤ e.toNat))))
  unfold plainMagnitude
  rw [hwhole]
  exact if_neg hlarge

/-- A number of 64 bits that has more than 63 is written, **as a float**, as a multiple of a hundred that is
nearby and the same float. -/
theorem plain_ofDecimal_large (hlow : 2 ^ 63 ≤ n) (hhigh : n < 2 ^ 64) :
    ∃ N, plain (ofDecimal false n 0) = toString N ∧ 100 ∣ N ∧ ofDecimal false N 0 = ofDecimal false n 0 ∧
      n ≤ N + 2048 ∧ N ≤ n + 2048 := by
  obtain ⟨m, e, hc, hm, hround, he⟩ := exists_roundsTo hlow hhigh
  have hpos : 0 < m := Nat.lt_of_lt_of_le (by decide) hm
  obtain ⟨p, k, hshortest, hk, hgrid⟩ : ∃ p k, shortest .up m e = (p, k) ∧ 2 ≤ k ∧
      RoundsTo m e (p * tenTo k.toNat) 1 := hundred_grid hc hm (he.imp_right And.left)
  have hmagnitude : ∀ {l}, RoundsTo m e l 1 → ofDecimal false l 0 = toFloat false (bits m e) := fun hl => by
    rw [ofDecimal]
    congr 1
    exact decimalMagnitude_of_roundsTo hc hpos (Nat.zero_le 350) hl
  refine ⟨p * tenTo k.toNat, ?_, ?_, by rw [hmagnitude hgrid, hmagnitude hround], ?_⟩
  · have hp : 0 < p := Nat.pos_of_mul_pos_right (hgrid.num_pos hpos Nat.one_pos)
    rw [hmagnitude hround, plain, ofFloat_toFloat hc, Nat.toString_eq_repr, Nat.repr_eq_ofList_toDigits, ← digits]
    dsimp only
    rw [plainMagnitude_large hm (by omega), hshortest, positional_of_nonneg hp (by omega)]
    rfl
  · obtain ⟨j, hj⟩ : ∃ j, k.toNat = 2 + j := ⟨k.toNat - 2, by omega⟩
    rw [hj, tenTo_add, Nat.mul_left_comm]
    exact Nat.dvd_mul_right 100 _
  · rcases he with rfl | ⟨rfl, rfl⟩
    · have hle := gap_le m 11
      obtain ⟨hbelow, habove, -⟩ := (roundsTo_one_iff 512 (by decide) rfl).mp hround
      obtain ⟨hbelow', habove', -⟩ := (roundsTo_one_iff 512 (by decide) rfl).mp hgrid
      omega
    · -- only the power of two itself is left
      have htop : shortest .up hiddenBit 12 = (18446744073709552, 3) := by decide +kernel
      obtain ⟨rfl, rfl⟩ := Prod.mk.inj (hshortest.symm.trans htop)
      obtain ⟨hbelow, -, -⟩ := (roundsTo_one_iff 1024 (by decide) rfl).mp hround
      rw [show gap hiddenBit 12 = 1 from rfl, hiddenBit] at hbelow
      rw [show tenTo (3 : Int).toNat = 1000 from rfl]
      omega

end SiteGen.Decimal
