import Mathlib
import SiteGen.Proofs.Decimal.Numeral

/-!
# Floats in plain notation

* `Decimal.plain_numeral`: a finite float in plain notation is a numeral, and the float nearest to it.
* `Decimal.read?_plain`: a finite float is read as it is written.
* `Decimal.plain_eq`: the characters of a float in plain notation.
-/

namespace SiteGen.Decimal

open Binary64

variable {x : Float}

/-- A finite float in **plain notation** is a numeral, and the float nearest to it. -/
theorem plain_numeral (h : isFinite x = true) : ∃ (negative : Bool) (N : Numeral), N.whole ≠ [] ∧
    plain x = String.ofList (sign negative ++ N.text) ∧ N.float negative = x := by
  unfold isFinite at h
  split at h
  · next negative m e hx =>
    have hlt : x.toBits.toNat < 2 * signBit := x.toBits.toNat_lt
    obtain ⟨hc, hbits⟩ := ofBits_finite hlt hx
    obtain ⟨N, hwhole, htext, hmagnitude⟩ := plainMagnitude_numeral hc
    refine ⟨negative, N, hwhole, ?_, ?_⟩
    · rw [plain, hx, ← htext]
    · rw [Numeral.float, ofDecimal, hmagnitude, toFloat, ← hbits, UInt64.ofNat_toNat, Float.ofBits_toBits]
  · cases h

/-- **A finite float** is read as it is written. -/
theorem read?_plain (h : isFinite x = true) : read? (plain x).toList = some x := by
  obtain ⟨negative, N, -, htext, hfloat⟩ := plain_numeral h
  rw [htext, String.toList_ofList, N.read?_text, hfloat]

theorem plain_word (h : isFinite x = false) : plain x = "NaN" ∨ plain x = "inf" ∨ plain x = "-inf" := by
  unfold isFinite at h
  unfold plain
  split at h
  · cases h
  · next hx =>
    split
    · exact Or.inl rfl
    · next negative _ =>
      cases negative
      · exact Or.inr (Or.inl rfl)
      · exact Or.inr (Or.inr rfl)
    · next hx' => exact absurd hx' (hx _ _ _)

/-- Whether a character may stand in plain notation **after the sign**: a digit, a point, or a letter of the
words for infinity and for not-a-number. -/
def isPlainChar (c : Char) : Bool := c.isDigit || ['.', 'N', 'a', 'i', 'n', 'f'].contains c

/-- A float in plain notation has **a sign only in front**. -/
theorem plain_eq (x : Float) : ∃ (negative : Bool) (body : List Char),
    (plain x).toList = sign negative ++ body ∧ body.all isPlainChar = true := by
  cases h : isFinite x with
  | true =>
    obtain ⟨negative, N, -, htext, -⟩ := plain_numeral h
    refine ⟨negative, N.text, by rw [htext, String.toList_ofList], List.all_eq_true.mpr fun c hc => ?_⟩
    rcases N.mem_text hc with hc | rfl
    · simp [isPlainChar, hc]
    · decide
  | false =>
    rcases plain_word h with h | h | h
    · exact ⟨false, "NaN".toList, by rw [h]; rfl, by decide⟩
    · exact ⟨false, "inf".toList, by rw [h]; rfl, by decide⟩
    · exact ⟨true, "inf".toList, by rw [h]; rfl, by decide⟩

theorem mem_plain {c : Char} (h : c ∈ (plain x).toList) : c = '-' ∨ isPlainChar c = true := by
  obtain ⟨negative, body, htext, hbody⟩ := plain_eq x
  rw [htext] at h
  rcases List.mem_append.mp h with h | h
  · cases negative
    · cases h
    · exact Or.inl (List.mem_singleton.mp h)
  · exact Or.inr (List.all_eq_true.mp hbody c h)

theorem mem_tail_plain {c : Char} (h : c ∈ (plain x).toList.tail) : isPlainChar c = true := by
  obtain ⟨negative, body, htext, hbody⟩ := plain_eq x
  rw [htext] at h
  refine List.all_eq_true.mp hbody c ?_
  cases negative
  · exact List.mem_of_mem_tail h
  · exact h

/-- A float in plain notation does not begin with 100 **and a sign**, whatever follows. -/
theorem plain_append_ne {s : Char} (hs : s = '+' ∨ s = '-') (out rest : List Char) :
    (plain x).toList ++ out ≠ '1' :: '0' :: '0' :: s :: rest := by
  intro h
  -- a shorter text would be read back as a whole number, which has a point
  have hshort : ∀ w : List Char, w ∈ [[], ['1'], ['1', '0'], ['1', '0', '0']] → (plain x).toList ≠ w := by
    intro w hw heq
    cases hx : isFinite x with
    | true =>
      have hread := read?_plain hx
      rw [heq] at hread
      have hfalse : ∀ w ∈ [[], ['1'], ['1', '0'], ['1', '0', '0']], ∀ y ∈ read? w, (plain y).toList ≠ w := by
        decide +kernel
      exact hfalse w hw x hread heq
    | false =>
      have hfalse : ∀ w ∈ [[], ['1'], ['1', '0'], ['1', '0', '0']],
          ∀ s ∈ ["NaN", "inf", "-inf"], s.toList ≠ w := by
        decide +kernel
      refine hfalse w hw (plain x) ?_ heq
      simpa using plain_word hx
  rcases hl : (plain x).toList with _ | ⟨a, _ | ⟨b, _ | ⟨c, _ | ⟨d, l⟩⟩⟩⟩
  · exact hshort [] (by decide) hl
  · rw [hl] at h
    obtain ⟨rfl, -⟩ := List.cons.inj h
    exact hshort ['1'] (by decide) hl
  · rw [hl] at h
    obtain ⟨rfl, rfl, -⟩ : a = '1' ∧ b = '0' ∧ _ := by simpa using h
    exact hshort ['1', '0'] (by decide) hl
  · rw [hl] at h
    obtain ⟨rfl, rfl, rfl, -⟩ : a = '1' ∧ b = '0' ∧ c = '0' ∧ _ := by simpa using h
    exact hshort ['1', '0', '0'] (by decide) hl
  · have hd : d = s := by
      rw [hl] at h
      simp only [List.cons_append, List.cons.injEq] at h
      exact h.2.2.2.1
    have hplain : isPlainChar d = true := mem_tail_plain (x := x) (by simp [hl])
    rcases hs with rfl | rfl
    · exact absurd (hd ▸ hplain) (by decide)
    · exact absurd (hd ▸ hplain) (by decide)

end SiteGen.Decimal
