import SiteGen.Proofs.Decimal.Numeral
import SiteGen.Proofs.Formula.Terms

/-!
# Numerals in formulas

* `Formula.spells_value_iff`, `Formula.spells_productCoefficient_iff`: the numbers of a product are the numerals,
  as far as their digits are those of ASCII.
-/

namespace SiteGen

namespace Formula

open Regex Position Decimal

variable {w : List Char}

theorem read?_numeral (N : Numeral) : read? N.text = some (N.float false) := N.read?_text false

/-- Whether all decimal digits in a text are **digits of ASCII**. -/
def PlainDigits (text : List Char) : Prop := ∀ c ∈ text, isDecimalDigit c = true → c.isDigit = true

theorem PlainDigits.left {l r : List Char} (h : PlainDigits (l ++ r)) : PlainDigits l :=
  fun c hc => h c (List.mem_append_left _ hc)

theorem PlainDigits.right {l r : List Char} (h : PlainDigits (l ++ r)) : PlainDigits r :=
  fun c hc => h c (List.mem_append_right _ hc)

theorem PlainDigits.append {l r : List Char} (hl : PlainDigits l) (hr : PlainDigits r) : PlainDigits (l ++ r) :=
  fun c hc => (List.mem_append.mp hc).elim (hl c) (hr c)

theorem isDigits_of_isDigit (hne : w ≠ []) (h : ∀ c ∈ w, c.isDigit = true) : IsDigits w :=
  ⟨hne, fun c hc => isDecimalDigit_of_isDigit (h c hc)⟩

theorem IsDigits.numeral (h : IsDigits w) (hplain : PlainDigits w) :
    ∃ N : Numeral, w = N.text ∧ N.whole = w ∧ N.fraction = [] :=
  ⟨⟨w, [], by simpa using fun c hc => hplain c hc (h.2 c hc), by simpa using h.1⟩, by simp [Numeral.text], rfl, rfl⟩

/-- The values are **the numerals** with digits before the point. -/
theorem spells_value_iff (hplain : PlainDigits w) :
    value.Spells w ↔ ∃ N : Numeral, N.whole ≠ [] ∧ w = N.text := by
  rw [spells_value]
  constructor
  · rintro ⟨l, m, rfl, hl, hm⟩
    have hdigits : ∀ c ∈ l, c.isDigit = true := fun c hc => hplain.left c hc (hl.2 c hc)
    rcases hm with rfl | ⟨ds, rfl, hds⟩
    · refine ⟨⟨l, [], by simpa using hdigits, by simpa using hl.1⟩, hl.1, by simp [Numeral.text]⟩
    · have hfraction : ∀ c ∈ ds, c.isDigit = true := fun c hc =>
        hplain.right c (List.mem_cons_of_mem _ hc) (hds.2 c hc)
      refine ⟨⟨l, ds, fun c hc => (List.mem_append.mp hc).elim (hdigits c) (hfraction c), by simp [hl.1]⟩, hl.1, ?_⟩
      simp [Numeral.text, hds.1]
  · rintro ⟨N, hwhole, rfl⟩
    refine ⟨N.whole, _, rfl, isDigits_of_isDigit hwhole fun c => N.isDigit_of_mem_whole, ?_⟩
    split
    · exact Or.inl rfl
    · next h =>
      exact Or.inr ⟨N.fraction, rfl, isDigits_of_isDigit (by simpa using h) fun c => N.isDigit_of_mem_fraction⟩

/-- The coefficients of products are **the numerals** with or without a minus. -/
theorem spells_productCoefficient_iff (hplain : PlainDigits w) :
    productCoefficient.Spells w ↔ ∃ (negative : Bool) (N : Numeral), w = Decimal.sign negative ++ N.text := by
  rw [spells_productCoefficient]
  constructor
  · rintro ⟨s, l, m, rfl, hs, hl, hm⟩
    obtain ⟨negative, rfl⟩ : ∃ negative, s = Decimal.sign negative := by
      rcases hs with rfl | rfl
      · exact ⟨false, rfl⟩
      · exact ⟨true, rfl⟩
    have hdigits : ∀ c ∈ m, c.isDigit = true := fun c hc => hplain.right.right c hc (hm.2 c hc)
    rcases hl with rfl | ⟨ds, rfl, hds⟩
    · exact ⟨negative, ⟨m, [], by simpa using hdigits, by simpa using hm.1⟩, by simp [Numeral.text]⟩
    · have hwhole : ∀ c ∈ ds, c.isDigit = true := fun c hc => hplain.right.left.left c hc (hds c hc)
      refine ⟨negative, ⟨ds, m, fun c hc => (List.mem_append.mp hc).elim (hwhole c) (hdigits c), by simp [hm.1]⟩, ?_⟩
      simp [Numeral.text, hm.1]
  · rintro ⟨negative, N, rfl⟩
    have hs : Decimal.sign negative = [] ∨ Decimal.sign negative = ['-'] := by
      cases negative
      · exact Or.inl rfl
      · exact Or.inr rfl
    by_cases h : N.fraction = []
    · have hne : N.whole ≠ [] := fun hw => N.ne_nil (by rw [hw, h]; rfl)
      exact ⟨_, [], N.whole, by simp [Numeral.text, h], hs, Or.inl rfl,
        isDigits_of_isDigit hne fun c => N.isDigit_of_mem_whole⟩
    · refine ⟨_, N.whole ++ ['.'], N.fraction, by simp [Numeral.text, h], hs, Or.inr ⟨N.whole, rfl, ?_⟩,
        isDigits_of_isDigit h fun c => N.isDigit_of_mem_fraction⟩
      exact fun c hc => isDecimalDigit_of_isDigit (N.isDigit_of_mem_whole hc)

end Formula

end SiteGen
