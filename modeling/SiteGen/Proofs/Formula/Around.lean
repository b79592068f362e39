import SiteGen.Proofs.Formula.Preferred
import SiteGen.Proofs.Formula.Unchanged

/-!
# One formula in a text

A formula stands between two texts without digits.

* `Formula.Digitless.middle`: what has digits on both sides stands in the formula.
* `Leaf.droopPass_around`, `Leaf.productPass_around`: the formula is replaced, and the texts around it stay.
* `Leaf.productPass_plain`: a float in plain notation stays.
-/

namespace SiteGen

namespace Formula

open Regex

variable {a b w l r u : List Char} {c : Char}

/-- What has digits **on both sides** stands between the texts without digits. -/
theorem Digitless.middle (ha : Digitless a) (hb : Digitless b) (h : a ++ (w ++ b) = l ++ c :: r)
    (hl : ¬Digitless l) (hr : ¬Digitless r) : ∃ m m', w = m ++ c :: m' ∧ l = a ++ m ∧ r = m' ++ b := by
  rcases List.append_eq_append_iff.mp h with ⟨m, rfl, hrest⟩ | ⟨m, rfl, hrest⟩
  · rcases List.append_eq_append_iff.mp hrest with ⟨m', -, hm'⟩ | ⟨m', hm', hrest'⟩
    · exact absurd (fun d hd => hb d (by rw [hm']; simp [hd])) hr
    · cases m' with
      | nil => exact absurd (fun d hd => hb d (by rw [← show c :: r = b from hrest']; simp [hd])) hr
      | cons e m' =>
        obtain ⟨rfl, rfl⟩ := List.cons.inj hrest'
        exact ⟨m, m', hm', rfl, rfl⟩
  · exact absurd (fun d hd => ha d (List.mem_append_left _ hd)) hl

theorem not_digitless_of_mem {d : Char} (h : d ∈ w) (hd : isDecimalDigit d = true) : ¬Digitless w := fun hw => by
  rw [hw d h] at hd
  cases hd

theorem DroopTerms.Valid.exists_sign {D : DroopTerms} (hD : D.Valid) : ∃ s t, D.text = '1' :: '0' :: '0' :: s :: t ∧
    (s = '+' ∨ s = '-') ∧ ¬Digitless t := by
  obtain ⟨d, ds, hpercent, hd⟩ := hD.percent.exists_cons
  have hnot : ¬Digitless (starred D.coefficient ++ (D.percent ++ voltageText D.voltage)) :=
    not_digitless_of_mem (by simp [hpercent] : d ∈ _) hd
  rcases hD.sign with h | h
  · exact ⟨'+', _, by rw [DroopTerms.text, h]; rfl, Or.inl rfl, hnot⟩
  · exact ⟨'-', _, by rw [DroopTerms.text, h]; rfl, Or.inr rfl, hnot⟩

/-- **A droop formula** has a sign between digits, so there is none if a sign can only come first. -/
theorem not_droop_around (ha : Digitless a) (hb : Digitless b) (hw : ∀ s ∈ w.tail, s ≠ '+' ∧ s ≠ '-')
    (D : DroopTerms) (l r : List Char) (hD : D.Valid) : a ++ (w ++ b) ≠ l ++ (D.text ++ r) := by
  intro h
  obtain ⟨s, t, htext, hs, ht⟩ := hD.exists_sign
  have hone : isDecimalDigit '1' = true := by decide
  have h' : a ++ (w ++ b) = (l ++ ['1', '0', '0']) ++ s :: (t ++ r) := by rw [h, htext]; simp
  obtain ⟨m, m', rfl, hleft, -⟩ := ha.middle hb h' (not_digitless_of_mem (by simp) hone)
    fun h => ht fun d hd => h d (List.mem_append_left _ hd)
  cases m with
  | nil =>
    rw [List.append_nil] at hleft
    exact not_digitless_of_mem (by rw [← hleft]; simp) hone ha
  | cons e m =>
    have := hw s (by simp)
    rcases hs with rfl | rfl
    · exact this.1 rfl
    · exact this.2 rfl

/-- **A product** begins with digits, but for a minus and a point. -/
theorem ProductTerms.Valid.exists_digit {P : ProductTerms} (hP : P.Valid) : ∃ pre d t, P.text = pre ++ d :: t ∧
    (∀ c ∈ pre, c = '-' ∨ c = '.') ∧ isDecimalDigit d = true := by
  obtain ⟨C, v⟩ := P
  cases C with
  | none =>
    obtain ⟨d, ds, rfl, hd⟩ := exists_cons_of_value hP.value
    exact ⟨[], d, ds, rfl, nofun, hd⟩
  | some C =>
    obtain ⟨s, l, m, rfl, hs, hl, hm⟩ := spells_productCoefficient.mp (hP.coefficient C rfl)
    have hsign : ∀ c ∈ s, c = '-' := by rcases hs with rfl | rfl <;> simp
    obtain ⟨d, ds, rfl, hd⟩ := hm.exists_cons
    rcases hl with rfl | ⟨_ | ⟨e, es⟩, rfl, hes⟩
    · exact ⟨s, d, ds ++ '*' :: v, by simp [ProductTerms.text, starred], fun c hc => Or.inl (hsign c hc), hd⟩
    · refine ⟨s ++ ['.'], d, ds ++ '*' :: v, by simp [ProductTerms.text, starred], fun c hc => ?_, hd⟩
      rcases List.mem_append.mp hc with hc | hc
      · exact Or.inl (hsign c hc)
      · exact Or.inr (List.mem_singleton.mp hc)
    · exact ⟨s, e, es ++ '.' :: d :: (ds ++ '*' :: v), by simp [ProductTerms.text, starred],
        fun c hc => Or.inl (hsign c hc), hes e List.mem_cons_self⟩

/-- No product begins in a text without digits **unless a minus or a point is last** in it. -/
theorem ProductTerms.Valid.getLast? {P : ProductTerms} (hP : P.Valid) (hne : r ≠ []) (hr : Digitless r)
    (h : r ++ w = P.text ++ u) : ∃ c ∈ r.getLast?, c = '-' ∨ c = '.' := by
  obtain ⟨pre, d, t, htext, hpre, hd⟩ := hP.exists_digit
  rw [htext, List.append_assoc] at h
  have hsub : ∀ c ∈ r, c ∈ pre := by
    rcases List.append_eq_append_iff.mp h with ⟨m, rfl, -⟩ | ⟨m, rfl, hrest⟩
    · exact fun c hc => List.mem_append_left _ hc
    · cases m with
      | nil => simp
      | cons e m =>
        obtain rfl := (List.cons.inj hrest).1
        exact absurd hr (not_digitless_of_mem (by simp) hd)
  exact ⟨r.getLast hne, List.getLast?_eq_some_getLast hne, hpre _ (hsub _ (List.getLast_mem hne))⟩

end Formula

namespace Leaf

open Regex Formula Decimal

variable {a b u : List Char} {c : List Char}

/-- The first pass **replaces a preferred droop formula** after a text without digits. -/
theorem droopPass_around {D : DroopTerms} (ha : Digitless a) (hD : D.Valid) (h : D.Preferred u)
    (hu : ∀ (D' : DroopTerms) l r, D'.Valid → u ≠ l ++ (D'.text ++ r)) :
    droopPass (a ++ (D.text ++ u)) = a ++ (D.written ++ u) := by
  have hnone : ∀ {rest before}, (∀ (D' : DroopTerms) r, D'.Valid → rest ≠ D'.text ++ r) →
      droop.firstEnd? before rest = none := fun {rest before} hrest => by
    cases hfind : droop.firstEnd? before rest with
    | none => rfl
    | some q =>
      obtain ⟨D', hD', heq, -⟩ := droop_firstEnd? hfind
      exact absurd heq (hrest D' _ hD')
  refine Rewrites.replaceAll_eq (Rewrites.append_left (fun l r before hlr hne => hnone fun D' r' hD' heq => ?_)
    (fun before => ?_) none)
  · obtain ⟨c, r, rfl⟩ := List.exists_cons_of_ne_nil hne
    obtain ⟨s, t, htext, -⟩ := hD'.exists_sign
    rw [htext] at heq
    obtain rfl := (List.cons.inj heq).1
    exact not_digitless_of_mem (by rw [hlr]; simp) (by decide : isDecimalDigit '1' = true) ha
  · rw [← D.rewrite_eq u]
    exact Rewrites.found (droop_firstEnd?_preferred hD h) hD.ne_nil (Nat.zero_add _) rfl
      (Rewrites.of_none fun l r before hlr => hnone fun D' r' hD' hr => hu D' l r' hD' (by rw [hlr, hr]))

/-- The second pass **replaces a product** between texts without digits. -/
theorem productPass_around {P : ProductTerms} (ha : Digitless a) (hlast : ∀ c ∈ a.getLast?, c ≠ '-' ∧ c ≠ '.')
    (hP : P.Valid) (hc : P.coefficient = some c) (hu : Digitless u) :
    productPass (a ++ (P.text ++ u)) = a ++ (P.written ++ u) := by
  refine Rewrites.replaceAll_eq (Rewrites.append_left (fun l r before hlr hne => ?_) (fun before => ?_) none)
  · cases hfind : product.firstEnd? before (r ++ (P.text ++ u)) with
    | none => rfl
    | some q =>
      obtain ⟨P', hP', heq, -⟩ := product_firstEnd? hfind
      obtain ⟨c, hc, hor⟩ := hP'.getLast? hne (fun d hd => ha d (by rw [hlr]; simp [hd])) heq
      have := hlast c (by rw [hlr, List.getLast?_append_of_ne_nil _ hne]; exact hc)
      rcases hor with rfl | rfl
      · exact absurd rfl this.1
      · exact absurd rfl this.2
  · rw [← P.rewrite_eq u]
    refine Rewrites.found (product_firstEnd?_starred hP hc hu) hP.ne_nil (Nat.zero_add _) rfl
      (Rewrites.of_none fun l r before hlr => ?_)
    cases hfind : product.firstEnd? before r with
    | none => rfl
    | some q =>
      obtain ⟨P', hP', heq, -⟩ := product_firstEnd? hfind
      obtain ⟨pre, d, t, htext, -, hd⟩ := hP'.exists_digit
      exact absurd hu (not_digitless_of_mem (by rw [hlr, heq, htext]; simp : d ∈ u) hd)

/-- The second pass leaves **a float** between texts without digits as it is. -/
theorem productPass_plain (ha : Digitless a) (hb : Digitless b) (x : Float) :
    productPass (a ++ ((plain x).toList ++ b)) = a ++ ((plain x).toList ++ b) := by
  refine productPass_eq_self ?_
  rintro ⟨l, d, d', r, h, hd, hd'⟩
  rw [show l ++ d :: '*' :: d' :: r = (l ++ [d]) ++ '*' :: (d' :: r) by simp] at h
  obtain ⟨m, m', hplain, -⟩ := ha.middle hb h (not_digitless_of_mem (by simp) hd) (not_digitless_of_mem (by simp) hd')
  exact star_not_mem_plain x (by rw [hplain]; simp)

end Leaf

end SiteGen
