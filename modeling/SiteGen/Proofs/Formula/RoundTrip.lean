import SiteGen.Proofs.Decimal.Bits
import SiteGen.Proofs.Decimal.Fraction
import SiteGen.Proofs.Formula.Number
import SiteGen.Proofs.Formula.Unchanged

/-!
# Plain notation and back

A finite float in plain notation is a numeral without an exponent, and it is the number of this text.

* `Decimal.plain_roundTrip`: the form of plain notation, and what it is read as.
-/

namespace SiteGen

namespace Decimal

open Binary64

variable {m : Nat} {e : Int} {negative : Bool}

/-- **Plain notation and back**. A finite float, given by its bits, is written as digits with an optional minus in
front, and with digits after a point at least if it is not a whole number or less than `10 ^ 16`; so it may be the
coefficient of a product. It is read from this text with the same bits, and it is the number of the text. -/
theorem plain_roundTrip {bits : UInt64} (h : ofBits bits.toNat = .finite negative m e) :
    (Float.ofBits bits).toBits = bits ∧
    (∃ N : Numeral, N.whole ≠ [] ∧ (plain (Float.ofBits bits)).toList = sign negative ++ N.text ∧
      ((∀ n : Nat, value m e ≠ n) ∨ value m e < 10 ^ 16 → N.fraction ≠ [])) ∧
    Formula.productCoefficient.Spells (plain (Float.ofBits bits)).toList ∧
    (read? (plain (Float.ofBits bits)).toList).map Float.toBits = some bits ∧
    Leaf.number? (plain (Float.ofBits bits)).toList = some (Float.ofBits bits) := by
  have hbits := toBits_ofBits h
  have hparts : ofFloat (Float.ofBits bits) = .finite negative m e := by rw [ofFloat, hbits, h]
  have hfinite : isFinite (Float.ofBits bits) = true := by rw [isFinite, hparts]
  have hlt : bits.toNat < 2 * signBit := bits.toNat_lt
  obtain ⟨hc, -⟩ := ofBits_finite hlt h
  obtain ⟨N, hwhole, hmagnitude, -⟩ := plainMagnitude_numeral hc
  have htext : (plain (Float.ofBits bits)).toList = sign negative ++ N.text := by
    rw [plain, hparts, ← hmagnitude, String.toList_ofList]
  have hspells := (Formula.spells_productCoefficient_iff (Formula.plainDigits_plain _)).mpr ⟨negative, N, htext⟩
  refine ⟨hbits, ⟨N, hwhole, htext, fun hdot => N.fraction_ne_nil ?_⟩, hspells, ?_, ?_⟩
  · rw [← hmagnitude]
    exact dot_mem_plainMagnitude hc hdot
  · rw [read?_plain hfinite, Option.map_some, hbits]
  · have hnumber := Leaf.number?_around (a := []) (b := []) (List.forall_mem_nil _) (List.forall_mem_nil _) hfinite
    rwa [List.nil_append, List.append_nil] at hnumber

theorem plain_roundTrip_small :
    (plain (Float.ofBits 0x8000000000000000) = "-0.0" ∧
      Leaf.number? (plain (Float.ofBits 0x8000000000000000)).toList = some (Float.ofBits 0x8000000000000000)) ∧
    (read? (plain (Float.ofBits 1)).toList).map Float.toBits = some 1 := by
  have hzero : ofBits (0x8000000000000000 : UInt64).toNat = .finite true 0 (-1074) := by decide
  have hsmall : ofBits (1 : UInt64).toNat = .finite false 1 (-1074) := by decide
  exact ⟨⟨by decide +kernel, (plain_roundTrip hzero).2.2.2.2⟩, (plain_roundTrip hsmall).2.2.2.1⟩

end Decimal

end SiteGen
