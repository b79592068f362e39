import Mathlib
import SiteGen.Proofs.Decimal.Rounding

/-!
# Floats by their bits

* `Binary64.toBits_ofBits`: a float keeps its bits, if they are those of a finite one.
* `Binary64.ofBits_bits`: the parts in the bits of a magnitude.
* `Binary64.ofFloat_toFloat`: the parts of a float with a given magnitude.
-/

namespace SiteGen.Binary64

variable {m : Nat} {e : Int} {negative : Bool}

/-- A float **keeps its bits**, if they are those of a finite one. -/
theorem toBits_ofBits {bits : UInt64} (h : ofBits bits.toNat = .finite negative m e) :
    (Float.ofBits bits).toBits = bits := by
  have hexponent : bits.toNat / hiddenBit % 2048 ≠ 2047 := by
    intro hmax
    unfold ofBits at h
    dsimp only at h
    rw [if_pos hmax] at h
    split at h <;> cases h
  -- only bits with the largest exponent can be others than those of a float
  have hvalid : Float.Model.Format.binary64.Valid bits.toBitVec := ⟨fun hall => by
    refine absurd ?_ hexponent
    have hnat := congrArg BitVec.toNat hall
    simp only [Float.Model.UnpackedFloat.unpackExponent, BitVec.toNat_cast, BitVec.extractLsb_toNat,
      Nat.shiftRight_eq_div_pow] at hnat
    exact hnat⟩
  exact congrArg Float.toBits (Float.ofBits_toBits (Float.ofModel ⟨bits, hvalid⟩))

/-- **The parts** in the bits of a magnitude. -/
theorem ofBits_bits (hc : Canonical m e) : ofBits (bits m e) = .finite false m e := by
  have hlt := hc.lt
  have hle := hc.le
  have hmax := hc.le_max
  have hsign : ¬signBit ≤ bits m e := by
    have := hc.bits_lt
    unfold infinityBits at this
    unfold signBit
    omega
  have hparts : ∀ q f : Nat, f < hiddenBit → q < 2047 → bits m e = hiddenBit * q + f → ofBits (bits m e) =
      if q = 0 then .finite false f minExponent else .finite false (hiddenBit + f) ((q : Int) - 1075) := by
    intro q f hf hq h
    have hdiv : bits m e / hiddenBit = q := by
      rw [h, Nat.mul_add_div (by decide), Nat.div_eq_of_lt hf, Nat.add_zero]
    have hmod : bits m e % hiddenBit = f := by rw [h, Nat.mul_add_mod, Nat.mod_eq_of_lt hf]
    unfold ofBits
    dsimp only
    rw [hdiv, hmod, Nat.mod_eq_of_lt (by omega), if_neg (by omega), decide_eq_false hsign]
  rcases Nat.lt_or_ge m hiddenBit with hm | hm
  · obtain rfl := hc.normal.resolve_right (by omega)
    rw [hparts 0 m hm (by decide) (by rw [bits, Int.sub_self, Int.toNat_zero, Nat.zero_mul, Nat.mul_zero]), if_pos rfl]
  · have hexponent : (((e - minExponent).toNat + 1 : Nat) : Int) - 1075 = e := by
      unfold minExponent at *
      omega
    have hbits : bits m e = hiddenBit * ((e - minExponent).toNat + 1) + (m - hiddenBit) := by
      rw [bits, Nat.mul_succ, Nat.mul_comm, Nat.add_assoc, Nat.add_sub_cancel' hm]
    rw [hparts _ (m - hiddenBit) (by omega) (by unfold minExponent at *; omega) hbits, if_neg (Nat.succ_ne_zero _),
      hexponent, Nat.add_sub_cancel' hm]

/-- The parts of a float **with a given magnitude**. -/
theorem ofFloat_toFloat (hc : Canonical m e) : ofFloat (toFloat false (bits m e)) = .finite false m e := by
  have hlt : bits m e < UInt64.size := Nat.lt_of_lt_of_le hc.bits_lt (by decide)
  have hbits : ofBits (UInt64.ofNat (bits m e)).toNat = .finite false m e := by
    rw [UInt64.toNat_ofNat_of_lt' hlt, ofBits_bits hc]
  rw [ofFloat, toFloat, if_neg Bool.false_ne_true, toBits_ofBits hbits, hbits]

end SiteGen.Binary64
