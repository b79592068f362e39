import SiteGen.Decimal.Shortest
import SiteGen.Proofs.Decimal.Rounding

/-!
# Shortest decimals read back

* `Decimal.gridPoint?_roundsTo`: a point of a grid that is taken rounds to the float.
* `Decimal.gridPoint?_of_le`: a grid that is fine enough has such a point.
* `Decimal.shortest_roundsTo`: the shortest decimal is always found, and rounds to the float.
-/

namespace SiteGen.Decimal

open Binary64

variable {tie : Tie} {m n : Nat} {e k : Int}

/-! ## Powers of two and of ten -/

theorem tenTo_le_twoTo : ∀ {k j : Nat}, 10 * k ≤ 3 * j → tenTo k ≤ twoTo j
  | 0, j, _ => twoTo_le (Nat.zero_le j)
  | 1, j, h => Nat.le_trans (by decide : tenTo 1 ≤ twoTo 4) (twoTo_le (by omega))
  | 2, j, h => Nat.le_trans (by decide : tenTo 2 ≤ twoTo 7) (twoTo_le (by omega))
  | k + 3, j, h => by
    obtain ⟨i, rfl⟩ : ∃ i, j = i + 10 := ⟨j - 10, by omega⟩
    rw [tenTo_add, twoTo_add]
    exact Nat.mul_le_mul (tenTo_le_twoTo (by omega)) (by decide)

theorem twoTo_le_tenTo {j k : Nat} (h : 7 * j ≤ 23 * k) : twoTo j ≤ tenTo k := by
  induction k using Nat.strongRecOn generalizing j with
  | _ k ih =>
    by_cases hk : k < 7
    · have hsmall : ∀ k < 7, twoTo (23 * k / 7) ≤ tenTo k := by decide
      exact Nat.le_trans (twoTo_le (by omega)) (hsmall k hk)
    · obtain ⟨l, rfl⟩ : ∃ l, k = l + 7 := ⟨k - 7, by omega⟩
      have hstep : twoTo ((j - 23) + 23) ≤ tenTo (l + 7) := by
        rw [twoTo_add, tenTo_add]
        exact Nat.mul_le_mul (ih l (by omega) (by omega)) (by decide)
      exact Nat.le_trans (twoTo_le (by omega)) hstep

/-! ## Points of a grid -/

/-- The test on a point of a grid. -/
def within (m : Nat) (e k : Int) (point : Nat) : Bool :=
  let unit := twoTo (e - 2).toNat * tenTo (-k).toNat
  let low := (4 * m - gap m e) * unit
  let high := (4 * m + 2) * unit
  if m % 2 == 0 then decide (low ≤ point) && decide (point ≤ high)
  else decide (low < point) && decide (point < high)

theorem within_roundsTo (h : within m e k (n * (tenTo k.toNat * twoTo (2 - e).toNat)) = true) :
    RoundsTo m e (n * tenTo k.toNat) (tenTo (-k).toNat) := by
  unfold within at h
  rw [← Nat.mul_assoc] at h
  dsimp only at h
  split at h
  · next heven =>
    simp only [Bool.and_eq_true, decide_eq_true_eq] at h
    exact ⟨h.1, h.2, fun hodd => absurd heven (by simp [hodd])⟩
  · simp only [Bool.and_eq_true, decide_eq_true_eq] at h
    exact ⟨Nat.le_of_lt h.1, Nat.le_of_lt h.2, fun _ => h⟩

theorem gridPoint?_eq : gridPoint? tie m e k =
    let step := tenTo k.toNat * twoTo (2 - e).toNat
    let value := 4 * m * (twoTo (e - 2).toNat * tenTo (-k).toNat)
    let below := value / step
    match within m e k (below * step), within m e k ((below + 1) * step) with
    | true, true =>
      if value - below * step < (below + 1) * step - value then some below
      else if (below + 1) * step - value < value - below * step then some (below + 1)
      else match tie with
        | .up => some (below + 1)
        | .even => some (if below % 2 == 0 then below else below + 1)
    | true, false => some below
    | false, true => some (below + 1)
    | false, false => none := rfl

/-- **A point that is taken** rounds to the float. -/
theorem gridPoint?_roundsTo (h : gridPoint? tie m e k = some n) :
    RoundsTo m e (n * tenTo k.toNat) (tenTo (-k).toNat) := by
  rw [gridPoint?_eq] at h
  dsimp only at h
  refine within_roundsTo ?_
  generalize (4 * m * (twoTo (e - 2).toNat * tenTo (-k).toNat)) = value at h
  generalize tenTo k.toNat * twoTo (2 - e).toNat = step at h ⊢
  split at h
  · next hbelow habove =>
    split at h
    · cases h
      exact hbelow
    split at h
    · cases h
      exact habove
    split at h
    · cases h
      exact habove
    · split at h <;> cases h
      · exact hbelow
      · exact habove
  · next hbelow _ =>
    cases h
    exact hbelow
  · next _ habove =>
    cases h
    exact habove
  · cases h

/-- A grid with steps of at most **a quarter of the last place** has a point that rounds to the float. -/
theorem gridPoint?_of_le (hm : 0 < m)
    (h : tenTo k.toNat * twoTo (2 - e).toNat ≤ twoTo (e - 2).toNat * tenTo (-k).toNat) :
    ∃ n, gridPoint? tie m e k = some n := by
  rw [gridPoint?_eq]
  dsimp only
  have hbelow : within m e k (4 * m * (twoTo (e - 2).toNat * tenTo (-k).toNat) /
      (tenTo k.toNat * twoTo (2 - e).toNat) * (tenTo k.toNat * twoTo (2 - e).toNat)) = true := by
    unfold within
    dsimp only
    have hstep : 0 < tenTo k.toNat * twoTo (2 - e).toNat := Nat.mul_pos (tenTo_pos _) (twoTo_pos _)
    generalize twoTo (e - 2).toNat * tenTo (-k).toNat = unit at *
    generalize tenTo k.toNat * twoTo (2 - e).toNat = step at *
    have hle := Nat.div_mul_le_self (4 * m * unit) step
    have hlt := Nat.lt_div_mul_add (a := 4 * m * unit) hstep
    have hgap : unit ≤ gap m e * unit := Nat.le_mul_of_pos_left unit (gap_pos m e)
    have hlow : gap m e * unit ≤ 4 * m * unit := Nat.mul_le_mul_right unit (by have := gap_le m e; omega)
    rw [Nat.sub_mul, Nat.add_mul]
    split
    · simp only [Bool.and_eq_true, decide_eq_true_eq]
      omega
    · simp only [Bool.and_eq_true, decide_eq_true_eq]
      omega
  simp only [hbelow]
  split
  · split
    · exact ⟨_, rfl⟩
    split
    · exact ⟨_, rfl⟩
    cases tie
    · exact ⟨_, rfl⟩
    · exact ⟨_, rfl⟩
  · exact ⟨_, rfl⟩
  · next h _ => cases h
  · next h _ => cases h

/-! ## The search -/

/-- The search finds a point if **one of its grids** has one. -/
theorem searchGrids_of_gridPoint? : ∀ {fuel j : Nat} {k : Int}, j < fuel →
    (∃ n, gridPoint? tie m e (k - j) = some n) → ∃ n i, i ≤ j ∧
      searchGrids tie m e fuel k = some (n, k - (i : Nat)) ∧ gridPoint? tie m e (k - (i : Nat)) = some n
  | fuel + 1, j, k, hj, h => by
    rw [searchGrids]
    cases hk : gridPoint? tie m e k with
    | some n => exact ⟨n, 0, Nat.zero_le j, by simp [hk]⟩
    | none =>
      cases j with
      | zero =>
        obtain ⟨n, hn⟩ := h
        rw [Int.ofNat_zero, Int.sub_zero, hk] at hn
        cases hn
      | succ j =>
        have hnext : ∀ i : Nat, k - 1 - (i : Int) = k - ((i + 1 : Nat) : Int) := fun i => by omega
        rw [← hnext] at h
        obtain ⟨n, i, hi, hsearch, hpoint⟩ := searchGrids_of_gridPoint? (Nat.lt_of_succ_lt_succ hj) h
        rw [hnext] at hsearch hpoint
        exact ⟨n, i + 1, Nat.succ_le_succ hi, hsearch, hpoint⟩

theorem step_le_unit (hc : Canonical m e) (hm : 0 < m) :
    tenTo (firstGrid m e - 23).toNat * twoTo (2 - e).toNat ≤
      twoTo (e - 2).toNat * tenTo (-(firstGrid m e - 23)).toNat := by
  have hlog : m.log2 < 53 := (Nat.log2_lt (Nat.ne_of_gt hm)).mpr hc.lt
  have hle := hc.le
  have hmax := hc.le_max
  obtain ⟨k, hk⟩ : ∃ k, k = firstGrid m e - 23 := ⟨_, rfl⟩
  rw [← hk]
  unfold firstGrid at hk
  unfold minExponent at hle
  by_cases hpos : 0 ≤ k
  · rw [(by omega : (2 - e).toNat = 0), (by omega : (-k).toNat = 0)]
    exact Nat.mul_le_mul (tenTo_le_twoTo (by omega)) (Nat.le_refl _)
  · rw [(by omega : k.toNat = 0), Nat.mul_comm]
    by_cases he : 2 ≤ e
    · rw [(by omega : (2 - e).toNat = 0)]
      exact Nat.mul_pos (twoTo_pos _) (tenTo_pos _)
    · rw [(by omega : (e - 2).toNat = 0), Nat.mul_comm (twoTo 0)]
      exact Nat.mul_le_mul (twoTo_le_tenTo (by omega)) (Nat.le_refl 1)

/-- **The shortest decimal** is found, and rounds to the float. -/
theorem shortest_roundsTo (tie : Tie) (hc : Canonical m e) (hm : 0 < m) :
    ∃ n k, shortest tie m e = (n, k) ∧ -350 ≤ k ∧ k ≤ 350 ∧
      RoundsTo m e (n * tenTo k.toNat) (tenTo (-k).toNat) := by
  have hlog : m.log2 < 53 := (Nat.log2_lt (Nat.ne_of_gt hm)).mpr hc.lt
  have hle := hc.le
  have hmax := hc.le_max
  have hgrid : ∃ n i, i ≤ 23 ∧ searchGrids tie m e 24 (firstGrid m e) = some (n, firstGrid m e - (i : Nat)) ∧
      gridPoint? tie m e (firstGrid m e - (i : Nat)) = some n :=
    searchGrids_of_gridPoint? (by decide) (gridPoint?_of_le hm (step_le_unit hc hm))
  obtain ⟨n, i, hi, hsearch, hpoint⟩ := hgrid
  refine ⟨n, firstGrid m e - i, ?_, ?_, ?_, gridPoint?_roundsTo hpoint⟩
  · rw [shortest, if_neg (Nat.ne_of_gt hm), hsearch]
    rfl
  all_goals
    unfold firstGrid
    unfold minExponent at hle
    omega

end SiteGen.Decimal
