import Mathlib.Data.List.Basic
import SiteGen.Proofs.Formula.Around
import SiteGen.Proofs.Regex.Extend

/-!
# Texts with a blank between them

A product has no blank in it. A droop formula can have one, for the point of its coefficient may be any character.

* `Formula.Straddled`: whether such a formula could go over the blank between two texts.
* `Leaf.rewrite_blank`: if not, the two texts are rewritten one by one.
* `Leaf.rewrite_straddled`: the exception.
-/

namespace SiteGen

open Regex

namespace Formula

variable {r t t' u w : List Char} {c : Char}

/-- Whether the first of two texts ends in 100, a sign and digits, if any, and the second begins with **digits, a star
and a digit**. -/
def Straddled (t t' : List Char) : Prop := ∃ l s m n d r, t = l ++ '1' :: '0' :: '0' :: s :: m ∧ (s = '+' ∨ s = '-') ∧
  (∀ c ∈ m, isDecimalDigit c = true) ∧ t' = n ++ '*' :: d :: r ∧ IsDigits n ∧ isDecimalDigit d = true

theorem Straddled.append_left (h : Straddled r t') : Straddled (u ++ r) t' := by
  obtain ⟨l, s, m, n, d, r, rfl, h⟩ := h
  exact ⟨u ++ l, s, m, n, d, r, by simp, h⟩

theorem DroopTerms.extendGroups_groups (D : DroopTerms) (rest : List Char) (groups : List (Nat × Capture)) :
    extendGroups u (D.groups rest groups) = D.groups (rest ++ u) (extendGroups u groups) := by
  obtain ⟨s, C, p, V⟩ := D
  cases C <;> cases V <;>
    simp [DroopTerms.groups, voltageGroups, VoltageTerm.groups, starredGroups, extendGroups]

theorem ProductTerms.extendGroups_groups (P : ProductTerms) (rest : List Char) (groups : List (Nat × Capture)) :
    extendGroups u (P.groups rest groups) = P.groups (rest ++ u) (extendGroups u groups) := by
  obtain ⟨C, v⟩ := P
  cases C <;> simp [ProductTerms.groups, starredGroups, extendGroups]

theorem droop_local : Local droop Droop.rewrite where
  loopFree := by decide
  unanchored := by decide
  advances := droop_advances
  extend u before w q h := by
    obtain ⟨D, -, hrest, -, hgroups⟩ := droop_firstEnd? h
    obtain rfl := List.append_cancel_right hrest
    rw [hgroups, D.extendGroups_groups]
    exact (D.rewrite_eq _).trans (D.rewrite_eq _).symm

theorem product_local : Local product Product.rewrite where
  loopFree := by decide
  unanchored := by decide
  advances := product_advances
  extend u before w q h := by
    obtain ⟨P, -, hrest, -, hgroups, -⟩ := product_firstEnd? h
    obtain rfl := List.append_cancel_right hrest
    rw [hgroups, P.extendGroups_groups]
    exact (P.rewrite_eq _).trans (P.rewrite_eq _).symm

/-! ## Formulas with a blank -/

theorem ne_blank_of_isDecimalDigit (h : isDecimalDigit c = true) : c ≠ ' ' := by
  rintro rfl
  exact absurd h (by decide)

theorem IsDigits.blank_not_mem (h : IsDigits w) : ' ' ∉ w := fun hblank => ne_blank_of_isDecimalDigit (h.2 _ hblank) rfl

theorem ProductTerms.Valid.mem_text {P : ProductTerms} (hP : P.Valid) (h : c ∈ P.text) :
    isDecimalDigit c = true ∨ c = '.' ∨ c = '-' ∨ c = '*' := by
  rcases List.mem_append.mp h with h | h
  · cases hC : P.coefficient with
    | none => simp [starred, hC] at h
    | some C =>
      rw [hC, starred, List.mem_append, List.mem_singleton] at h
      rcases h with h | rfl
      · exact (mem_productCoefficient (hP.coefficient C hC) h).imp_right (·.imp_right Or.inl)
      · exact Or.inr (Or.inr (Or.inr rfl))
  · exact (mem_value hP.value h).imp_right Or.inl

theorem ProductTerms.Valid.blank_not_mem {P : ProductTerms} (hP : P.Valid) : ' ' ∉ P.text := fun h => by
  rcases hP.mem_text h with h | h | h | h <;> exact absurd h (by decide)

theorem voltageText_blank_not_mem {V : Option VoltageTerm} (hV : ∀ v, V = some v → v.Valid) : ' ' ∉ voltageText V := by
  cases V with
  | none => exact nofun
  | some V =>
    obtain ⟨hv, hs, hd⟩ := hV V rfl
    have hsign : ' ' ∉ V.sign := by rcases hs with h | h <;> rw [h] <;> decide
    simp [voltageText, VoltageTerm.text, hv.blank_not_mem, hsign, hd.blank_not_mem]

theorem DroopTerms.Valid.straddled {D : DroopTerms} (hD : D.Valid) {m : List Char} (h : D.text = r ++ ' ' :: m)
    (u : List Char) : Straddled r (m ++ u) := by
  obtain ⟨s, hs, hsign⟩ : ∃ s, D.sign = [s] ∧ (s = '+' ∨ s = '-') := by
    rcases hD.sign with h | h
    · exact ⟨_, h, Or.inl rfl⟩
    · exact ⟨_, h, Or.inr rfl⟩
  have hblank : s ≠ ' ' := by rcases hsign with rfl | rfl <;> decide
  have hvoltage := voltageText_blank_not_mem hD.voltage
  have hmem : ' ' ∈ D.text := by rw [h]; simp
  rw [DroopTerms.text, hs] at h hmem
  cases hC : D.coefficient with
  | none => simp [hC, starred, hblank.symm, hD.percent.blank_not_mem, hvoltage] at hmem
  | some c =>
    obtain ⟨l, e, n, rfl, hl, -, hn⟩ := spells_droopCoefficient.mp (hD.coefficient c hC)
    obtain ⟨d, ds, hpercent, hd⟩ := hD.percent.exists_cons
    have hleft : ' ' ∉ '1' :: '0' :: '0' :: s :: l := by
      simpa [hblank.symm] using fun h => ne_blank_of_isDecimalDigit (hl _ h) rfl
    have hright : ' ' ∉ n ++ '*' :: (D.percent ++ voltageText D.voltage) := by
      simp [hn.blank_not_mem, hD.percent.blank_not_mem, hvoltage]
    have htext : ('1' :: '0' :: '0' :: s :: l) ++ e :: (n ++ '*' :: (D.percent ++ voltageText D.voltage)) =
        r ++ ' ' :: m := by
      rw [← h, hC]
      simp [starred]
    obtain ⟨rfl, -, rfl⟩ := (List.append_cons_inj_of_notMem hleft hright).mp htext
    exact ⟨[], s, l, n, d, ds ++ (voltageText D.voltage ++ u), rfl, hsign, hl, by simp [hpercent], hn, hd⟩

/-- A text that **goes past a character** has it. -/
theorem exists_of_past (h : r ++ c :: t' = w ++ u) (hlt : u.length < (c :: t').length) :
    ∃ m, w = r ++ c :: m ∧ t' = m ++ u := by
  rcases List.append_eq_append_iff.mp h with ⟨m, hw, hrest⟩ | ⟨m, -, rfl⟩
  · cases m with
    | nil =>
      rw [show u = c :: t' from hrest.symm] at hlt
      exact absurd hlt (Nat.lt_irrefl _)
    | cons e m =>
      obtain ⟨rfl, rfl⟩ := List.cons.inj hrest
      exact ⟨m, hw, rfl⟩
  · rw [List.length_append] at hlt
    omega

end Formula

namespace Leaf

open Formula

variable {t t' : List Char}

theorem productPass_blank (t t' : List Char) :
    productPass (t ++ ' ' :: t') = productPass t ++ ' ' :: productPass t' := by
  refine product_local.replaceAll_append_cons fun l m before q _ h => ?_
  obtain ⟨P, u, hP, hrest, rfl⟩ := leads_product.mp h
  by_contra hlt
  obtain ⟨m', hm, -⟩ := exists_of_past hrest (Nat.lt_of_not_le hlt)
  exact hP.blank_not_mem (by rw [hm]; simp)

theorem droopPass_blank (h : ¬Straddled t t') : droopPass (t ++ ' ' :: t') = droopPass t ++ ' ' :: droopPass t' := by
  refine droop_local.replaceAll_append_cons fun l m before q hl h' => ?_
  obtain ⟨D, u, hD, hrest, rfl⟩ := leads_droop.mp h'
  by_contra hlt
  obtain ⟨m', hm, rfl⟩ := exists_of_past hrest (Nat.lt_of_not_le hlt)
  refine h ?_
  rw [hl]
  exact (hD.straddled hm u).append_left

/-- **Two texts with a blank between them** are rewritten one by one, unless a droop formula could have the blank for
the point of its coefficient. -/
theorem rewrite_blank (h : ¬Straddled t t') : rewrite (t ++ ' ' :: t') = rewrite t ++ ' ' :: rewrite t' := by
  rw [rewrite, droopPass_blank h, productPass_blank]
  rfl

theorem rewrite_blank_small : ¬Straddled "100+1".toList "kW 5*3".toList ∧
    rewrite "100+1 kW 5*3".toList = rewrite "100+1".toList ++ ' ' :: rewrite "kW 5*3".toList := by
  have h : ¬Straddled "100+1".toList "kW 5*3".toList := by
    rintro ⟨l, s, m, n, d, r, -, -, -, htext, hn, -⟩
    obtain ⟨e, es, rfl, he⟩ := hn.exists_cons
    obtain rfl : 'k' = e := (List.cons.inj htext).1
    exact absurd he (by decide)
  exact ⟨h, rewrite_blank h⟩

/-- Behind **a droop formula without a coefficient**, a product is taken for the rest of one, so that neither the
formula nor the product is evaluated by the first pass. -/
theorem rewrite_straddled : rewrite "100+1 5*3".toList = "100+1 15.0".toList ∧
    rewrite "100+1".toList = "101.0".toList ∧ rewrite "5*3".toList = "15.0".toList := by
  simp only [rewrite_eq]
  decide +kernel

end Leaf

end SiteGen
