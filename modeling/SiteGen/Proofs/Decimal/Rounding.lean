import SiteGen.Decimal.Binary64

/-!
# Rounding to 64 bits

* `Binary64.ScaledLe` compares two numbers, one of them times a power of two.
* `Binary64.RoundsTo`: the quotients that round to `mantissa · 2 ^ exponent`.
* `Binary64.magnitude_of_roundsTo`: such a quotient is rounded to the bits of this magnitude.
-/

namespace SiteGen

/-! ## Powers -/

theorem twoTo_pos (n : Nat) : 0 < twoTo n := Nat.pow_pos (by decide)

theorem tenTo_pos (n : Nat) : 0 < tenTo n := Nat.pow_pos (by decide)

theorem twoTo_zero : twoTo 0 = 1 := rfl

theorem twoTo_add (m n : Nat) : twoTo (m + n) = twoTo m * twoTo n := Nat.pow_add 2 m n

theorem tenTo_add (m n : Nat) : tenTo (m + n) = tenTo m * tenTo n := Nat.pow_add 10 m n

theorem twoTo_succ (n : Nat) : twoTo (n + 1) = 2 * twoTo n := by
  rw [twoTo_add, Nat.mul_comm]
  rfl

theorem twoTo_le {m n : Nat} (h : m ≤ n) : twoTo m ≤ twoTo n := Nat.pow_le_pow_right (by decide) h

namespace Binary64

/-! ## Comparisons -/

/-- Whether `a · 2 ^ k` is **at most** `b`, where the power may be negative. -/
def ScaledLe (a : Nat) (k : Int) (b : Nat) : Prop := a * twoTo k.toNat ≤ b * twoTo (-k).toNat

variable {a b c num den n m : Nat} {j k p e : Int}

theorem scaledLe_iff (i j : Nat) (h : (i : Int) - j = k) :
    ScaledLe a k b ↔ a * twoTo i ≤ b * twoTo j := by
  obtain ⟨t, rfl, rfl⟩ : ∃ t, i = k.toNat + t ∧ j = (-k).toNat + t :=
    ⟨min i j, by omega, by omega⟩
  rw [ScaledLe, twoTo_add, twoTo_add, ← Nat.mul_assoc, ← Nat.mul_assoc]
  exact (Nat.mul_le_mul_right_iff (twoTo_pos t)).symm

theorem scaledLe_mul_twoTo (t : Nat) (h : j + t = k) : ScaledLe (a * twoTo t) j b ↔ ScaledLe a k b := by
  rw [scaledLe_iff (k := k) (j.toNat + t) (-j).toNat (by omega), ScaledLe, twoTo_add, Nat.mul_assoc,
    Nat.mul_comm (twoTo t)]

theorem ScaledLe.mono_exponent (h : ScaledLe a k b) (hj : j ≤ k) : ScaledLe a j b := by
  obtain ⟨t, ht⟩ : ∃ t : Nat, j + t = k := ⟨(k - j).toNat, by omega⟩
  rw [← scaledLe_mul_twoTo t ht] at h
  exact Nat.le_trans (Nat.mul_le_mul_right _ (Nat.le_mul_of_pos_right a (twoTo_pos t))) h

/-! ## The last place -/

theorem placeExponent_eq (hnum : 0 < num) (hden : 0 < den) (hp : minExponent ≤ p)
    (hhigh : ¬ScaledLe den (p + 53) num) (hlow : p = minExponent ∨ ScaledLe den (p + 52) num) :
    placeExponent num den = p := by
  obtain ⟨guess, hguess⟩ : ∃ g : Int, g = (num.log2 : Int) - den.log2 := ⟨_, rfl⟩
  have hnum_le : twoTo num.log2 ≤ num := Nat.log2_self_le (Nat.ne_of_gt hnum)
  have hnum_lt : num < twoTo (num.log2 + 1) := Nat.lt_log2_self
  have hden_le : twoTo den.log2 ≤ den := Nat.log2_self_le (Nat.ne_of_gt hden)
  have hden_lt : den < twoTo (den.log2 + 1) := Nat.lt_log2_self
  have hbelow : ScaledLe den (guess - 1) num := by
    rw [scaledLe_iff num.log2 (den.log2 + 1) (by omega), Nat.mul_comm num]
    exact Nat.mul_le_mul (Nat.le_of_lt hden_lt) hnum_le
  have habove : ¬ScaledLe den (guess + 1) num := by
    rw [scaledLe_iff (num.log2 + 1) den.log2 (by omega), Nat.not_le, Nat.mul_comm den]
    exact Nat.mul_lt_mul_of_lt_of_le hnum_lt hden_le hden
  have hreached : (if 0 ≤ guess then decide (den * twoTo guess.toNat ≤ num)
      else decide (den ≤ num * twoTo (-guess).toNat)) = true ↔ ScaledLe den guess num := by
    unfold ScaledLe
    split
    · rw [decide_eq_true_iff, (by omega : (-guess).toNat = 0), twoTo_zero, Nat.mul_one]
    · rw [decide_eq_true_iff, (by omega : guess.toNat = 0), twoTo_zero, Nat.mul_one]
  unfold placeExponent
  dsimp only
  rw [← hguess]
  -- the exponent of the quotient lies between those that are too low and those that are too high
  have hplace : ∀ f : Int, ScaledLe den f num → ¬ScaledLe den (f + 1) num → max (f - 52) minExponent = p := by
    intro f hf hf'
    have hle : f < p + 53 := by
      refine Int.not_le.mp fun h => hhigh (hf.mono_exponent h)
    have hge : p = minExponent ∨ p + 52 ≤ f := hlow.imp_right fun h =>
      Int.not_lt.mp fun h' => hf' (h.mono_exponent (by omega))
    omega
  by_cases h : ScaledLe den guess num
  · rw [if_pos (hreached.mpr h)]
    exact hplace guess h habove
  · rw [if_neg fun h' => h (hreached.mp h')]
    exact hplace (guess - 1) hbelow (by rwa [Int.sub_add_cancel])

/-! ## Rounding a quotient -/

theorem roundDiv_eq (hb : 0 < b) (hlow : 2 * n * b ≤ 2 * a + b) (hhigh : 2 * a ≤ 2 * n * b + b)
    (hodd : n % 2 = 1 → 2 * n * b < 2 * a + b ∧ 2 * a < 2 * n * b + b) : roundDiv a b = n := by
  have hdiv := Nat.div_add_mod a b
  have hmod := Nat.mod_lt a hb
  unfold roundDiv
  dsimp only
  generalize a / b = q at hdiv ⊢
  generalize a % b = r at hdiv hmod ⊢
  subst hdiv
  have hq : q ≤ n := by
    refine Nat.le_of_lt_succ (Nat.lt_of_mul_lt_mul_left (a := 2 * b) ?_)
    have : 2 * b * q = 2 * (b * q) := Nat.mul_assoc 2 b q
    have : 2 * b * n = 2 * n * b := by rw [Nat.mul_assoc, Nat.mul_assoc, Nat.mul_comm b]
    rw [Nat.mul_succ]
    omega
  have hn : n < q + 2 := by
    refine Nat.lt_of_mul_lt_mul_left (a := 2 * b) ?_
    have : 2 * b * q = 2 * (b * q) := Nat.mul_assoc 2 b q
    have : 2 * b * n = 2 * n * b := by rw [Nat.mul_assoc, Nat.mul_assoc, Nat.mul_comm b]
    rw [Nat.mul_add]
    omega
  obtain rfl | rfl : n = q ∨ n = q + 1 := by omega
  · have hnb : 2 * n * b = 2 * (b * n) := by rw [Nat.mul_assoc, Nat.mul_comm b]
    rw [if_neg]
    simp only [Bool.or_eq_true, decide_eq_true_eq, Bool.and_eq_true, beq_iff_eq]
    omega
  · have hnb : 2 * (q + 1) * b = 2 * (b * q) + 2 * b := by
      rw [Nat.mul_assoc, Nat.add_mul, Nat.mul_comm b, Nat.one_mul, Nat.mul_add]
    rw [if_pos]
    simp only [Bool.or_eq_true, decide_eq_true_eq, Bool.and_eq_true, beq_iff_eq]
    omega

theorem roundDiv_scaled (hden : 0 < den) (hn : 0 < n) (hlow : ScaledLe ((2 * n - 1) * den) (p - 1) num)
    (hhigh : ScaledLe num (1 - p) ((2 * n + 1) * den))
    (hodd : n % 2 = 1 → ¬ScaledLe num (1 - p) ((2 * n - 1) * den) ∧
      ¬ScaledLe ((2 * n + 1) * den) (p - 1) num) :
    roundDiv (num * twoTo (-p).toNat) (den * twoTo p.toNat) = n := by
  have hleft : ∀ c d, c * den * twoTo d = c * (den * twoTo d) := fun c d => Nat.mul_assoc _ _ _
  have hright : num * twoTo ((-p).toNat + 1) = 2 * (num * twoTo (-p).toNat) := by
    rw [twoTo_succ, Nat.mul_left_comm]
  rw [scaledLe_iff p.toNat ((-p).toNat + 1) (by omega), hleft, hright] at hlow
  rw [scaledLe_iff ((-p).toNat + 1) p.toNat (by omega), hleft, hright] at hhigh
  rw [scaledLe_iff ((-p).toNat + 1) p.toNat (by omega), scaledLe_iff p.toNat ((-p).toNat + 1) (by omega),
    hleft, hleft, hright] at hodd
  have hb : 0 < den * twoTo p.toNat := Nat.mul_pos hden (twoTo_pos _)
  generalize num * twoTo (-p).toNat = a at *
  generalize den * twoTo p.toNat = b at *
  rw [Nat.add_mul, Nat.one_mul] at hhigh hodd
  rw [Nat.sub_mul, Nat.one_mul] at hlow hodd
  have hle : b ≤ 2 * n * b := Nat.le_mul_of_pos_left b (by omega)
  exact roundDiv_eq hb (by omega) hhigh fun h => by
    have := hodd h
    omega

/-! ## Rounding to a magnitude -/

/-- How far below `mantissa · 2 ^ exponent` the numbers that round to it begin, in **quarters of the last
place**: the next lower magnitude is only half as far if the mantissa is the smallest. -/
def gap (mantissa : Nat) (exponent : Int) : Nat :=
  if mantissa == hiddenBit && exponent != minExponent then 1 else 2

theorem gap_le (m : Nat) (e : Int) : gap m e ≤ 2 := by
  unfold gap
  split <;> decide

theorem gap_pos (m : Nat) (e : Int) : 0 < gap m e := by
  unfold gap
  split <;> decide

/-- Whether `num / den` **rounds to** `mantissa · 2 ^ exponent`: it lies between the middles to the next
magnitudes, which count if the mantissa is even. -/
structure RoundsTo (mantissa : Nat) (exponent : Int) (num den : Nat) : Prop where
  low : (4 * mantissa - gap mantissa exponent) * (twoTo (exponent - 2).toNat * den) ≤
    num * twoTo (2 - exponent).toNat
  high : num * twoTo (2 - exponent).toNat ≤ (4 * mantissa + 2) * (twoTo (exponent - 2).toNat * den)
  odd : mantissa % 2 = 1 →
    (4 * mantissa - gap mantissa exponent) * (twoTo (exponent - 2).toNat * den) <
      num * twoTo (2 - exponent).toNat ∧
    num * twoTo (2 - exponent).toNat < (4 * mantissa + 2) * (twoTo (exponent - 2).toNat * den)

/-- Whether a magnitude `mantissa · 2 ^ exponent` is **in the form** in which floats have it. -/
structure Canonical (mantissa : Nat) (exponent : Int) : Prop where
  lt : mantissa < 2 * hiddenBit
  le : minExponent ≤ exponent
  le_max : exponent ≤ 971
  normal : exponent = minExponent ∨ hiddenBit ≤ mantissa

/-- The bits of a magnitude. -/
def bits (mantissa : Nat) (exponent : Int) : Nat := (exponent - minExponent).toNat * hiddenBit + mantissa

theorem Canonical.bits_lt (hc : Canonical m e) : bits m e < infinityBits := by
  have hlt := hc.lt
  have hle : (e - minExponent).toNat * hiddenBit ≤ 2045 * hiddenBit :=
    Nat.mul_le_mul_right _ (by have := hc.le_max; unfold minExponent; omega)
  unfold bits infinityBits
  unfold hiddenBit at *
  omega

theorem ofBits_finite {b : Nat} {negative : Bool} (hb : b < 2 * signBit)
    (h : ofBits b = .finite negative m e) :
    Canonical m e ∧ b = if negative then signBit + bits m e else bits m e := by
  have hdiv := Nat.div_add_mod b hiddenBit
  have hmod : b % hiddenBit < hiddenBit := Nat.mod_lt b (by decide)
  have hquot : b / hiddenBit < 4096 := Nat.div_lt_of_lt_mul hb
  have hsign : decide (signBit ≤ b) = decide (2048 ≤ b / hiddenBit) := by
    rw [decide_eq_decide, Nat.le_div_iff_mul_le (by decide)]
    exact Iff.rfl
  unfold ofBits at h
  dsimp only at h
  rw [hsign] at h
  generalize b / hiddenBit = q at *
  generalize b % hiddenBit = f at *
  subst hdiv
  -- the bits of the magnitude are those below the sign
  have hsplit : hiddenBit * q = (if 2048 ≤ q then signBit else 0) + hiddenBit * (q % 2048) := by
    unfold hiddenBit signBit
    split <;> omega
  have hfinish : Canonical m e → bits m e = hiddenBit * (q % 2048) + f → decide (2048 ≤ q) = negative →
      Canonical m e ∧ hiddenBit * q + f = if negative then signBit + bits m e else bits m e := by
    rintro hc hbits rfl
    refine ⟨hc, ?_⟩
    rw [hbits, hsplit]
    by_cases hq : 2048 ≤ q
    · rw [if_pos hq, if_pos (decide_eq_true hq), Nat.add_assoc]
    · rw [if_neg hq, if_neg (by simpa using hq), Nat.zero_add]
  split at h
  · split at h <;> cases h
  split at h
  · next h₀ =>
    cases h
    refine hfinish ⟨by omega, Int.le_refl _, by decide, Or.inl rfl⟩ ?_ rfl
    rw [bits, Int.sub_self, h₀, Int.toNat_zero, Nat.zero_mul, Nat.mul_zero]
  · next hmax h₀ =>
    cases h
    have hexp : (((q % 2048 : Nat) : Int) - 1075 - minExponent).toNat = q % 2048 - 1 := by
      unfold minExponent
      omega
    refine hfinish ⟨by omega, by unfold minExponent; omega, by omega, Or.inr (Nat.le_add_right _ _)⟩ ?_ rfl
    obtain ⟨r, hr⟩ : ∃ r, q % 2048 = r + 1 := ⟨q % 2048 - 1, by omega⟩
    rw [bits, hexp, hr, Nat.add_sub_cancel, Nat.mul_comm, ← Nat.add_assoc, Nat.mul_succ]

theorem RoundsTo.num_pos (h : RoundsTo m e num den) (hm : 0 < m) (hden : 0 < den) : 0 < num := by
  refine Nat.pos_of_ne_zero ?_
  rintro rfl
  have hlow := h.low
  have := gap_le m e
  have : 0 < (4 * m - gap m e) * (twoTo (e - 2).toNat * den) :=
    Nat.mul_pos (by omega) (Nat.mul_pos (twoTo_pos _) hden)
  omega

/-! ## In quarters of the last place -/

theorem scaledLe_quarters (e : Int) (c t : Nat) (h : e - 2 + t = k) : ScaledLe (c * den) k num ↔
    c * (twoTo t * (twoTo (e - 2).toNat * den)) ≤ num * twoTo (2 - e).toNat := by
  have hscale : c * den * twoTo ((e - 2).toNat + t) = c * (twoTo t * (twoTo (e - 2).toNat * den)) := by
    rw [twoTo_add]
    ac_rfl
  rw [scaledLe_iff ((e - 2).toNat + t) (2 - e).toNat (by omega), hscale]

theorem scaledLe_den_quarters (e : Int) (t : Nat) (h : e - 2 + t = k) : ScaledLe den k num ↔
    twoTo t * (twoTo (e - 2).toNat * den) ≤ num * twoTo (2 - e).toNat := by
  rw [← Nat.one_mul den, scaledLe_quarters e 1 t h, Nat.one_mul, Nat.one_mul]

theorem quarters_scaledLe (e : Int) (c t : Nat) (h : 2 - e - t = k) : ScaledLe num k (c * den) ↔
    num * twoTo (2 - e).toNat ≤ c * (twoTo t * (twoTo (e - 2).toNat * den)) := by
  have hscale : c * den * twoTo ((e - 2).toNat + t) = c * (twoTo t * (twoTo (e - 2).toNat * den)) := by
    rw [twoTo_add]
    ac_rfl
  rw [scaledLe_iff (2 - e).toNat ((e - 2).toNat + t) (by omega), hscale]

theorem RoundsTo.bounds (h : RoundsTo m e num den) {P D : Nat} (hP : num * twoTo (2 - e).toNat = P)
    (hD : twoTo (e - 2).toNat * den = D) :
    4 * (m * D) - gap m e * D ≤ P ∧ P ≤ 4 * (m * D) + 2 * D ∧
      (m % 2 = 1 → 4 * (m * D) - gap m e * D < P ∧ P < 4 * (m * D) + 2 * D) := by
  obtain ⟨hlow, hhigh, hodd⟩ := h
  have hup : (4 * m + 2) * D = 4 * (m * D) + 2 * D := by rw [Nat.add_mul, Nat.mul_assoc]
  have hdown : (4 * m - gap m e) * D = 4 * (m * D) - gap m e * D := by rw [Nat.sub_mul, Nat.mul_assoc]
  rw [hP, hD] at hlow hhigh hodd
  rw [hup] at hhigh hodd
  rw [hdown] at hlow hodd
  exact ⟨hlow, hhigh, hodd⟩

/-- What rounds to a magnitude has **no place above** its own. -/
theorem RoundsTo.not_above (hc : Canonical m e) (hden : 0 < den) (h : RoundsTo m e num den) :
    ¬ScaledLe den (e + 53) num := by
  obtain ⟨-, hhigh, -⟩ := h.bounds rfl rfl
  rw [scaledLe_den_quarters e 55 (by omega), show twoTo 55 = 8 * hiddenBit from rfl]
  have hDpos : 0 < twoTo (e - 2).toNat * den := Nat.mul_pos (twoTo_pos _) hden
  have hlt := Nat.mul_le_mul_right (twoTo (e - 2).toNat * den) (Nat.le_sub_one_of_lt hc.lt)
  generalize num * twoTo (2 - e).toNat = P at *
  generalize twoTo (e - 2).toNat * den = D at *
  unfold hiddenBit at *
  omega

theorem RoundsTo.roundDiv_here (hden : 0 < den) (hm : 0 < m) (h : RoundsTo m e num den) :
    roundDiv (num * twoTo (-e).toNat) (den * twoTo e.toNat) = m := by
  obtain ⟨P, hP⟩ : ∃ P, num * twoTo (2 - e).toNat = P := ⟨_, rfl⟩
  obtain ⟨D, hD⟩ : ∃ D, twoTo (e - 2).toNat * den = D := ⟨_, rfl⟩
  obtain ⟨hlow, hhigh, hodd⟩ := h.bounds hP hD
  have hgap : gap m e * D ≤ 2 * D := Nat.mul_le_mul_right D (gap_le m e)
  have hbelow : (2 * m - 1) * (twoTo 1 * D) = 4 * (m * D) - 2 * D := by
    rw [show twoTo 1 = 2 from rfl, ← Nat.mul_assoc, Nat.sub_mul, Nat.mul_right_comm, Nat.sub_mul, Nat.mul_assoc]
  have habove : (2 * m + 1) * (twoTo 1 * D) = 4 * (m * D) + 2 * D := by
    rw [show twoTo 1 = 2 from rfl, ← Nat.mul_assoc, Nat.add_mul, Nat.mul_right_comm, Nat.add_mul, Nat.mul_assoc]
  refine roundDiv_scaled hden hm ?_ ?_ fun hm => ?_
  · rw [scaledLe_quarters e _ 1 (by omega), hP, hD, hbelow]
    omega
  · rw [quarters_scaledLe e _ 1 (by omega), hP, hD, habove]
    exact hhigh
  · rw [quarters_scaledLe e _ 1 (by omega), scaledLe_quarters e _ 1 (by omega), hP, hD, hbelow, habove,
      Nat.not_le, Nat.not_le]
    have := hodd hm
    omega

/-- If a quotient is below the place of a magnitude that it rounds to, the mantissa is the smallest one. It is
found **at the place below**, where it has twice the mantissa. -/
theorem RoundsTo.below (hc : Canonical m e) (hden : 0 < den) (h : RoundsTo m e num den)
    (hmin : e ≠ minExponent) (hplace : ¬ScaledLe den (e + 52) num) :
    m = hiddenBit ∧ ScaledLe den (e + 51) num ∧
      roundDiv (num * twoTo (-(e - 1)).toNat) (den * twoTo (e - 1).toNat) = 2 * hiddenBit := by
  obtain ⟨P, hP⟩ : ∃ P, num * twoTo (2 - e).toNat = P := ⟨_, rfl⟩
  obtain ⟨D, hD⟩ : ∃ D, twoTo (e - 2).toNat * den = D := ⟨_, rfl⟩
  have hDpos : 0 < D := hD ▸ Nat.mul_pos (twoTo_pos _) hden
  obtain ⟨hlow, hhigh, -⟩ := h.bounds hP hD
  rw [scaledLe_den_quarters e 54 (by omega), hP, hD, show twoTo 54 = 4 * hiddenBit from rfl, Nat.not_le] at hplace
  obtain rfl : m = hiddenBit := by
    refine Nat.le_antisymm (Nat.not_lt.mp fun hlt => ?_) (hc.normal.resolve_left hmin)
    have hgap : gap m e * D ≤ 2 * D := Nat.mul_le_mul_right D (gap_le m e)
    have : (hiddenBit + 1) * D ≤ m * D := Nat.mul_le_mul_right D hlt
    unfold hiddenBit at *
    omega
  rw [show gap hiddenBit e = 1 from if_pos (by simpa using hmin)] at hlow
  refine ⟨rfl, ?_, roundDiv_scaled hden (by decide) ?_ ?_ fun h => absurd h (by decide)⟩
  · rw [scaledLe_den_quarters e 53 (by omega), hP, hD, show twoTo 53 = 2 * hiddenBit from rfl]
    unfold hiddenBit at *
    omega
  · rw [scaledLe_quarters e _ 0 (by omega), hP, hD, twoTo_zero, Nat.one_mul]
    unfold hiddenBit at *
    omega
  · rw [quarters_scaledLe e _ 0 (by omega), hP, hD, twoTo_zero, Nat.one_mul]
    unfold hiddenBit at *
    omega

/-- **Rounding** gives the bits of the magnitude that a quotient rounds to. -/
theorem magnitude_of_roundsTo (hc : Canonical m e) (hm : 0 < m) (hden : 0 < den)
    (h : RoundsTo m e num den) :
    magnitude num den = bits m e := by
  have hnum := h.num_pos hm hden
  have hbits : min (bits m e) infinityBits = bits m e := Nat.min_eq_left (Nat.le_of_lt hc.bits_lt)
  rw [magnitude, if_neg (Nat.ne_of_gt hnum)]
  dsimp only
  by_cases hnormal : e = minExponent ∨ ScaledLe den (e + 52) num
  · rw [placeExponent_eq hnum hden hc.le (h.not_above hc hden) hnormal, h.roundDiv_here hden hm, ← bits, hbits]
  · obtain ⟨hmin, hplace⟩ := not_or.mp hnormal
    obtain ⟨rfl, hnext, hround⟩ := h.below hc hden hmin hplace
    have hle := hc.le
    have hat : placeExponent num den = e - 1 := by
      refine placeExponent_eq hnum hden (by omega) ?_ (Or.inr ?_)
      · rwa [show e - 1 + 53 = e + 52 by omega]
      · rwa [show e - 1 + 52 = e + 51 by omega]
    have hstep : (e - minExponent).toNat = (e - 1 - minExponent).toNat.succ := by omega
    rw [hat, hround, Nat.two_mul, ← Nat.add_assoc, ← Nat.succ_mul, ← hstep, ← bits, hbits]

end Binary64

end SiteGen
