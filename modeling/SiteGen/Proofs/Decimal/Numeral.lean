import SiteGen.Proofs.Decimal.Digits
import SiteGen.Proofs.Decimal.Shortest

/-!
# Numerals

* `Decimal.Numeral`: digits with at most one point.
* `Decimal.Numeral.read?_text`: a numeral is read as the float nearest to it.
* `Decimal.plainMagnitude_numeral`: plain notation is a numeral, and its float has the magnitude.
-/

namespace SiteGen.Decimal

open Binary64

/-- A **numeral** without a sign or an exponent: digits with at most one point, and digits after it. -/
structure Numeral where
  /-- The digits before the point. -/
  whole : List Char
  /-- The digits after the point; there is no point if there are none. -/
  fraction : List Char
  digits : ∀ c ∈ whole ++ fraction, c.isDigit = true
  ne_nil : whole ++ fraction ≠ []

namespace Numeral

/-- How a numeral is written. -/
def text (N : Numeral) : List Char :=
  N.whole ++ if N.fraction.isEmpty then [] else '.' :: N.fraction

/-- The digits of a numeral as a whole number. -/
def number (N : Numeral) : Nat := ofDigits (N.whole ++ N.fraction)

/-- The **float nearest** to a numeral with a sign. -/
def float (negative : Bool) (N : Numeral) : Float := ofDecimal negative N.number (-N.fraction.length)

variable (N : Numeral)

theorem isDigit_of_mem_whole {c : Char} (h : c ∈ N.whole) : c.isDigit = true :=
  N.digits c (List.mem_append_left _ h)

theorem isDigit_of_mem_fraction {c : Char} (h : c ∈ N.fraction) : c.isDigit = true :=
  N.digits c (List.mem_append_right _ h)

theorem mem_text {c : Char} (h : c ∈ N.text) : c.isDigit = true ∨ c = '.' := by
  unfold text at h
  rcases List.mem_append.mp h with h | h
  · exact Or.inl (N.isDigit_of_mem_whole h)
  split at h
  · cases h
  · exact (List.mem_cons.mp h).elim Or.inr fun h => Or.inl (N.isDigit_of_mem_fraction h)

theorem text_ne_nil : N.text ≠ [] := by
  intro h
  unfold text at h
  obtain ⟨hwhole, hrest⟩ := List.append_eq_nil_iff.mp h
  split at hrest
  · next hfraction => exact N.ne_nil (by rw [hwhole, List.isEmpty_iff.mp hfraction]; rfl)
  · cases hrest

/-! ## Reading -/

theorem takeSign_text (negative : Bool) : takeSign (sign negative ++ N.text) = (negative, N.text) := by
  cases negative with
  | true => rfl
  | false =>
    obtain ⟨c, cs, hcs⟩ := List.exists_cons_of_ne_nil N.text_ne_nil
    have hc := N.mem_text (c := c) (hcs ▸ List.mem_cons_self)
    show takeSign N.text = _
    rw [hcs, takeSign]
    · intro rest heq
      rw [(List.cons.inj heq).1] at hc
      exact absurd hc (by decide)
    · intro rest heq
      rw [(List.cons.inj heq).1] at hc
      exact absurd hc (by decide)

theorem splitNumeral?_text : splitNumeral? N.text = some (N.whole, N.fraction, 0) := by
  have hnone : N.fraction = [] → N.whole ≠ [] := fun h hw => N.ne_nil (by rw [h, hw]; rfl)
  have hwhole : ∀ rest : List Char, rest.head?.all (fun c => !c.isDigit) = true →
      (N.whole ++ rest).takeWhile Char.isDigit = N.whole ∧ (N.whole ++ rest).dropWhile Char.isDigit = rest := by
    intro rest h
    rw [List.takeWhile_append_of_pos fun c => N.isDigit_of_mem_whole,
      List.dropWhile_append_of_pos fun c => N.isDigit_of_mem_whole]
    cases rest with
    | nil => simp
    | cons c rest =>
      simp only [List.head?_cons, Option.all_some, Bool.not_eq_true'] at h
      simp [h]
  have hfraction : N.fraction.takeWhile Char.isDigit = N.fraction ∧
      N.fraction.dropWhile Char.isDigit = [] := by
    constructor
    · rw [← List.append_nil N.fraction, List.takeWhile_append_of_pos fun c => N.isDigit_of_mem_fraction]
      rfl
    · rw [← List.append_nil N.fraction, List.dropWhile_append_of_pos fun c => N.isDigit_of_mem_fraction]
      rfl
  unfold splitNumeral? text
  cases h : N.fraction with
  | nil =>
    obtain ⟨htake, hdrop⟩ := hwhole [] rfl
    simp only [List.isEmpty_nil, if_true, htake, hdrop, Bool.and_true, List.isEmpty_iff, hnone h, if_false]
  | cons c cs =>
    obtain ⟨htake, hdrop⟩ := hwhole ('.' :: c :: cs) rfl
    rw [h] at hfraction
    simp only [List.isEmpty_cons, Bool.false_eq_true, if_false, htake, hdrop, hfraction, Bool.and_false]

/-- **Reading a numeral** gives the float nearest to it. -/
theorem read?_text (negative : Bool) : read? (sign negative ++ N.text) = some (N.float negative) := by
  unfold read?
  rw [N.takeSign_text]
  dsimp only
  rw [N.splitNumeral?_text]
  dsimp only
  rw [Int.zero_sub]
  rfl

end Numeral

/-! ## Plain notation -/

variable {m n : Nat} {e k : Int}

theorem isDigit_of_mem_zeros {j : Nat} {c : Char} (h : c ∈ List.replicate j '0') : c.isDigit = true := by
  rw [List.eq_of_mem_replicate h]
  rfl

theorem positional_zeros (n : Nat) (hk : 0 ≤ k) : ∃ N : Numeral, N.whole ≠ [] ∧ positional n k = N.text ∧
    N.number = n * tenTo k.toNat ∧ N.fraction.length = (-k).toNat := by
  have hne := digits_ne_nil n
  refine ⟨⟨digits n ++ List.replicate k.toNat '0', [], fun c hc => ?_, ?_⟩, ?_, ?_, ?_, ?_⟩
  · rw [List.append_nil] at hc
    exact (List.mem_append.mp hc).elim isDigit_of_mem_digits isDigit_of_mem_zeros
  · simp [hne]
  · simp [hne]
  · simp [positional, hk, Numeral.text]
  · rw [Numeral.number, List.append_nil, ofDigits_append, ofDigits_digits, ofDigits_zeros,
      List.length_replicate, Nat.add_zero]
  · simp only [List.length_nil]
    omega

theorem positional_among (hk : ¬0 ≤ k) (hplaces : (-k).toNat < (digits n).length) :
    ∃ N : Numeral, N.whole ≠ [] ∧ positional n k = N.text ∧
      N.number = n * tenTo k.toNat ∧ N.fraction.length = (-k).toNat := by
  have hlength : (List.drop ((digits n).length - (-k).toNat) (digits n)).length = (-k).toNat := by
    rw [List.length_drop]
    omega
  refine ⟨⟨(digits n).take ((digits n).length - (-k).toNat), (digits n).drop ((digits n).length - (-k).toNat),
    ?_, ?_⟩, ?_, ?_, ?_, hlength⟩
  · rw [List.take_append_drop]
    exact fun _ => isDigit_of_mem_digits
  · rw [List.take_append_drop]
    exact digits_ne_nil n
  · rw [ne_eq, List.take_eq_nil_iff]
    rintro (h | h)
    · omega
    · exact digits_ne_nil n h
  · rw [positional, if_neg hk, if_pos hplaces, Numeral.text, if_neg]
    rw [List.isEmpty_iff, ← List.length_eq_zero_iff, hlength]
    omega
  · rw [Numeral.number, List.take_append_drop, ofDigits_digits, (by omega : k.toNat = 0)]
    exact (Nat.mul_one n).symm

theorem positional_below (hk : ¬0 ≤ k) (hplaces : ¬(-k).toNat < (digits n).length) :
    ∃ N : Numeral, N.whole ≠ [] ∧ positional n k = N.text ∧
      N.number = n * tenTo k.toNat ∧ N.fraction.length = (-k).toNat := by
  have hzero : ∀ j, ['0'] ++ List.replicate j '0' = List.replicate (1 + j) '0' := fun j => by
    rw [← List.replicate_append_replicate]
    rfl
  refine ⟨⟨['0'], List.replicate ((-k).toNat - (digits n).length) '0' ++ digits n, fun c hc => ?_, ?_⟩,
    ?_, ?_, ?_, ?_⟩
  · rw [← List.append_assoc, hzero] at hc
    exact (List.mem_append.mp hc).elim isDigit_of_mem_zeros isDigit_of_mem_digits
  · exact List.cons_ne_nil _ _
  · exact List.cons_ne_nil _ _
  · rw [positional, if_neg hk, if_neg hplaces, Numeral.text, if_neg (by simp [digits_ne_nil n])]
    rfl
  · rw [Numeral.number, ← List.append_assoc, hzero, ofDigits_append, ofDigits_digits, ofDigits_zeros,
      Nat.zero_mul, Nat.zero_add, (by omega : k.toNat = 0)]
    exact (Nat.mul_one n).symm
  · rw [List.length_append, List.length_replicate]
    omega

theorem positional_numeral (n : Nat) (k : Int) : ∃ N : Numeral, N.whole ≠ [] ∧ positional n k = N.text ∧
    N.number = n * tenTo k.toNat ∧ N.fraction.length = (-k).toNat := by
  by_cases hk : 0 ≤ k
  · exact positional_zeros n hk
  by_cases hplaces : (-k).toNat < (digits n).length
  · exact positional_among hk hplaces
  · exact positional_below hk hplaces

/-- A decimal that rounds to a magnitude is **read as it**. -/
theorem decimalMagnitude_of_roundsTo (hc : Canonical m e) (hm : 0 < m) {places : Nat} (hplaces : places ≤ 350)
    (h : RoundsTo m e n (tenTo places)) : decimalMagnitude n (-(places : Int)) = bits m e := by
  have hn := h.num_pos hm (tenTo_pos _)
  rw [decimalMagnitude, if_neg (Nat.ne_of_gt hn), if_neg (by unfold decimalLimit; omega),
    if_neg (by unfold decimalLimit; omega), (by omega : (-(places : Int)).toNat = 0),
    (by omega : (- -(places : Int)).toNat = places)]
  refine (magnitude_of_roundsTo hc hm (tenTo_pos _) ?_)
  rwa [show tenTo 0 = 1 from rfl, Nat.mul_one]

theorem roundsTo_self {num den : Nat} (hm : 0 < m) (hden : 0 < den)
    (h : num * twoTo (2 - e).toNat = 4 * m * (twoTo (e - 2).toNat * den)) : RoundsTo m e num den := by
  have hpos : 0 < twoTo (e - 2).toNat * den := Nat.mul_pos (twoTo_pos _) hden
  have hgap := Nat.mul_le_mul_right (twoTo (e - 2).toNat * den) (gap_pos m e)
  have hle := Nat.mul_le_mul_right (twoTo (e - 2).toNat * den) (by omega : 1 ≤ 4 * m)
  refine ⟨?_, ?_, fun _ => ⟨?_, ?_⟩⟩
  all_goals
    rw [h]
    first
    | rw [Nat.sub_mul]
    | rw [Nat.add_mul]
    omega

theorem roundsTo_whole (hm : 0 < m) (h : whole? m e = some n) (t : Nat) :
    RoundsTo m e (n * tenTo t) (tenTo t) := by
  unfold whole? at h
  dsimp only at h
  split at h
  · next hmod =>
    have hpow : twoTo e.toNat * twoTo (2 - e).toNat = 4 * (twoTo (-e).toNat * twoTo (e - 2).toNat) := by
      rw [show 4 = twoTo 2 from rfl, ← twoTo_add, ← twoTo_add, ← twoTo_add]
      congr 1
      omega
    obtain ⟨q, hq⟩ : ∃ q, m = q * twoTo (-e).toNat := ⟨_, (Nat.div_mul_cancel (Nat.dvd_of_mod_eq_zero hmod)).symm⟩
    have hn : n = q * twoTo e.toNat := by
      rw [← Option.some.inj h, hq, Nat.mul_div_cancel q (twoTo_pos _)]
    refine roundsTo_self hm (tenTo_pos _) ?_
    calc n * tenTo t * twoTo (2 - e).toNat
      _ = q * tenTo t * (twoTo e.toNat * twoTo (2 - e).toNat) := by rw [hn]; ac_rfl
      _ = 4 * (q * twoTo (-e).toNat) * (twoTo (e - 2).toNat * tenTo t) := by rw [hpow]; ac_rfl
      _ = 4 * m * (twoTo (e - 2).toNat * tenTo t) := by rw [← hq]
  · cases h

theorem decimalMagnitude_whole (hc : Canonical m e) (h : whole? m e = some n) :
    decimalMagnitude (ofDigits (digits n ++ ['0'])) (-1) = bits m e := by
  have hnumber : ofDigits (digits n ++ ['0']) = n * tenTo 1 := by
    rw [ofDigits_append, ofDigits_digits]
    rfl
  rw [hnumber]
  rcases Nat.eq_zero_or_pos m with rfl | hm
  · have hn : 0 = n := by simpa [whole?] using h
    have he : e = minExponent := hc.normal.resolve_right (by decide)
    subst hn he
    rfl
  · exact decimalMagnitude_of_roundsTo hc hm (by decide) (roundsTo_whole hm h 1)

theorem positional_shortest (hc : Canonical m e) : ∃ N : Numeral, N.whole ≠ [] ∧
    positional (shortest .up m e).1 (shortest .up m e).2 = N.text ∧
      (0 < m → decimalMagnitude N.number (-N.fraction.length) = bits m e) := by
  obtain ⟨N, hwhole, htext, hnumber, hfraction⟩ := positional_numeral (shortest .up m e).1 (shortest .up m e).2
  refine ⟨N, hwhole, htext, fun hm => ?_⟩
  obtain ⟨n, k, hshortest, hlow, hhigh, hround⟩ := shortest_roundsTo .up hc hm
  rw [hshortest] at hnumber hfraction
  rw [hnumber, hfraction]
  exact decimalMagnitude_of_roundsTo hc hm (by omega) hround

/-- **Plain notation** is a numeral, and the float nearest to it has the magnitude. -/
theorem plainMagnitude_numeral (hc : Canonical m e) : ∃ N : Numeral, N.whole ≠ [] ∧
    plainMagnitude m e = N.text ∧ decimalMagnitude N.number (-N.fraction.length) = bits m e := by
  obtain ⟨N, hwhole, htext, hmagnitude⟩ := positional_shortest hc
  have hzero : whole? 0 e = some 0 := by simp [whole?]
  unfold plainMagnitude
  split
  · next n hn =>
    split
    · refine ⟨⟨digits n, ['0'], fun c hc => ?_, by simp⟩, digits_ne_nil n, rfl, decimalMagnitude_whole hc hn⟩
      refine (List.mem_append.mp hc).elim isDigit_of_mem_digits fun hc => ?_
      rw [List.mem_singleton.mp hc]
      rfl
    · next hlarge =>
      refine ⟨N, hwhole, htext, hmagnitude (Nat.pos_of_ne_zero ?_)⟩
      rintro rfl
      rw [hzero, Option.some.injEq] at hn
      exact hlarge (hn ▸ by decide)
  · next hn =>
    refine ⟨N, hwhole, htext, hmagnitude (Nat.pos_of_ne_zero ?_)⟩
    rintro rfl
    rw [hzero] at hn
    cases hn

end SiteGen.Decimal
