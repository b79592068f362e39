import SiteGen.Formula.Walk
import SiteGen.Proofs.Formula.Passes

/-!
# What becomes of a match

The digits of a formula are decimal digits of any script, but only those of ASCII make a number.

* `Droop.Outcome`: a droop formula is replaced by its value, or kept whole if a term is not a number.
* `Product.Outcome`: the same for a product, but for a value that is not a number after a coefficient that is one.
* `Leaf.passes_outcomes`: this is what both passes do at every match in a text.
* `Leaf.productPass_cuts`: the exception.
-/

namespace SiteGen

open Regex Formula

/-! ## Droop formulas -/

namespace Droop

/-- The terms that a match has **captured**, but for the signs. -/
def captured (m : Match) : List (List Char) := [2, 3, 4, 6].filterMap m.group?

/-- Whether the terms that a match has captured **denote** the terms of a formula. -/
structure Denotes (m : Match) (d : Droop) : Prop where
  sign : (m.group? 1).map Sign.ofText = some d.sign
  coefficient : (m.group? 2).map Decimal.read? = d.coefficient.map some
  percent : (m.group? 3).map Decimal.read? = some (some d.percent)
  voltage : (m.group? 4).map Decimal.read? = d.voltage.map fun v => some v.1
  voltageSign : (m.group? 5).map Sign.ofText = d.voltage.map fun v => v.2.1
  deadband : (m.group? 6).map Decimal.read? = d.voltage.map fun v => some v.2.2

/-- **What becomes of a match** of the droop formula. -/
structure Outcome (m : Match) : Prop where
  /-- If every captured term is a number, the value of the formula takes the place of the match. -/
  value : (∀ t ∈ captured m, Decimal.read? t ≠ none) → ∃ d, Denotes m d ∧ rewrite m = (Decimal.plain d.value).toList
  /-- If some captured term is not a number, the match stays. -/
  kept : (∃ t ∈ captured m, Decimal.read? t = none) → rewrite m = m.text

end Droop

/-! ## Products -/

namespace Product

/-- **What becomes of a match** of the product. -/
structure Outcome (m : Match) : Prop where
  /-- There is a value. -/
  term : ∃ v, m.group? 2 = some v
  /-- A value without a coefficient stays. -/
  bare : m.group? 1 = none → rewrite m = m.text
  /-- If both terms are numbers, their product takes the place of the match. -/
  value : ∀ c v x y, m.group? 1 = some c → m.group? 2 = some v → Decimal.read? c = some x → Decimal.read? v = some y →
    rewrite m = (Decimal.plain (x * y)).toList
  /-- If the coefficient is not a number, the match stays. -/
  kept : ∀ c, m.group? 1 = some c → Decimal.read? c = none → rewrite m = m.text
  /-- If only the value is not a number, the coefficient and the star are left out; then the value has a digit of
  another script. -/
  cut : ∀ c v, m.group? 1 = some c → m.group? 2 = some v → Decimal.read? c ≠ none → Decimal.read? v = none →
    m.text = c ++ '*' :: v ∧ rewrite m = v ∧ ∃ d ∈ v, isDecimalDigit d = true ∧ d.isDigit = false

end Product

/-! ## The matches that are found -/

namespace Formula

variable {before : Option Char} {rest w : List Char} {q : Position}

theorem coefficient?_eq_some {C : Option (List Char)} {x : Option Float} :
    coefficient? C = some x ↔ C.map Decimal.read? = x.map some := by
  cases C with
  | none => cases x <;> simp [coefficient?]
  | some c => cases x <;> simp [coefficient?]

theorem coefficient?_eq_none {C : Option (List Char)} :
    coefficient? C = none ↔ ∃ t ∈ C.toList, Decimal.read? t = none := by
  cases C <;> simp [coefficient?]

theorem voltage?_eq_some {V : Option VoltageTerm} {v : Option (Float × Sign × Float)} :
    voltage? V = some v ↔ (V.map VoltageTerm.voltage).map Decimal.read? = v.map (fun v => some v.1) ∧
      (V.map VoltageTerm.sign).map Sign.ofText = v.map (fun v => v.2.1) ∧
      (V.map VoltageTerm.deadband).map Decimal.read? = v.map (fun v => some v.2.2) := by
  cases V with
  | none => cases v <;> simp [voltage?]
  | some V =>
    cases v with
    | none => simp [voltage?]
    | some v =>
      obtain ⟨x, s, y⟩ := v
      cases hx : Decimal.read? V.voltage <;> cases hy : Decimal.read? V.deadband <;>
        simp [voltage?, VoltageTerm.read?, hx, hy]

theorem voltage?_eq_none {V : Option VoltageTerm} : voltage? V = none ↔
    (∃ t ∈ (V.map VoltageTerm.voltage).toList, Decimal.read? t = none) ∨
      ∃ t ∈ (V.map VoltageTerm.deadband).toList, Decimal.read? t = none := by
  cases V with
  | none => simp [voltage?]
  | some V =>
    cases hx : Decimal.read? V.voltage <;> cases hy : Decimal.read? V.deadband <;>
      simp [voltage?, VoltageTerm.read?, hx, hy]

theorem DroopTerms.droop?_eq_some (D : DroopTerms) (rest : List Char) {d : Droop} :
    D.droop? = some d ↔ Droop.Denotes (D.found rest) d := by
  obtain ⟨h₁, h₂, h₃, h₄, h₅, h₆⟩ := D.group?_found rest
  rw [droop?]
  simp only [Option.bind_eq_bind, Option.bind_eq_some_iff, Option.pure_def, Option.some.injEq, coefficient?_eq_some,
    voltage?_eq_some]
  constructor
  · rintro ⟨C, hC, p, hp, v, ⟨hv, hs, hd⟩, rfl⟩
    exact ⟨by rw [h₁]; rfl, by rw [h₂, hC], by rw [h₃, Option.map_some, hp], by rw [h₄, hv], by rw [h₅, hs],
      by rw [h₆, hd]⟩
  · rintro ⟨hs, hC, hp, hv, ht, hd⟩
    rw [h₁, Option.map_some, Option.some.injEq] at hs
    rw [h₃, Option.map_some, Option.some.injEq] at hp
    exact ⟨d.coefficient, by rw [← h₂, hC], d.percent, hp, d.voltage,
      ⟨by rw [← h₄, hv], by rw [← h₅, ht], by rw [← h₆, hd]⟩, by rw [hs]⟩

theorem DroopTerms.droop?_eq_none (D : DroopTerms) (rest : List Char) :
    D.droop? = none ↔ ∃ t ∈ Droop.captured (D.found rest), Decimal.read? t = none := by
  obtain ⟨-, h₂, h₃, h₄, -, h₆⟩ := D.group?_found rest
  have hcaptured : Droop.captured (D.found rest) = D.coefficient.toList ++ ([D.percent] ++
      ((D.voltage.map VoltageTerm.voltage).toList ++ (D.voltage.map VoltageTerm.deadband).toList)) := by
    simp only [Droop.captured, List.filterMap_cons, List.filterMap_nil, h₂, h₃, h₄, h₆]
    cases D.coefficient <;> cases D.voltage <;> rfl
  rw [hcaptured]
  simp only [List.mem_append, List.mem_singleton, or_and_right, exists_or, exists_eq_left]
  rw [← coefficient?_eq_none, ← voltage?_eq_none, droop?]
  cases coefficient? D.coefficient <;> cases Decimal.read? D.percent <;> cases voltage? D.voltage <;> simp

theorem droop_outcome (h : droop.firstEnd? before (w ++ q.rest) = some q) : Droop.Outcome ⟨w, q.groups⟩ := by
  obtain ⟨D, -, hrest, -, hgroups⟩ := droop_firstEnd? h
  obtain rfl := List.append_cancel_right hrest
  rw [hgroups]
  constructor
  · intro hread
    obtain ⟨d, hd⟩ := Option.ne_none_iff_exists'.mp fun hnone =>
      (D.droop?_eq_none q.rest).mp hnone |>.elim fun t ht => hread t ht.1 ht.2
    refine ⟨d, (D.droop?_eq_some q.rest).mp hd, ?_⟩
    rw [D.rewrite_eq, DroopTerms.written, hd]
  · intro hnone
    rw [D.rewrite_eq, DroopTerms.written, (D.droop?_eq_none q.rest).mpr hnone]

theorem product_outcome (h : product.firstEnd? before (w ++ q.rest) = some q) : Product.Outcome ⟨w, q.groups⟩ := by
  obtain ⟨P, hP, hrest, -, hgroups, -⟩ := product_firstEnd? h
  obtain rfl := List.append_cancel_right hrest
  obtain ⟨h₁, h₂⟩ := P.group?_found q.rest
  change (Match.mk P.text _).group? 1 = _ at h₁
  change (Match.mk P.text _).group? 2 = _ at h₂
  rw [hgroups]
  constructor
  · exact ⟨P.value, h₂⟩
  · intro hc
    rw [h₁] at hc
    rw [P.rewrite_eq, ProductTerms.written, ProductTerms.product?, ProductTerms.text, hc]
    rfl
  · intro c v x y hc hv hx hy
    rw [h₁] at hc
    obtain rfl := Option.some.inj (h₂.symm.trans hv)
    simp [P.rewrite_eq, ProductTerms.written, ProductTerms.product?, coefficient?, hc, hx, hy, Product.text]
  · intro c hc hx
    rw [h₁] at hc
    simp [P.rewrite_eq, ProductTerms.written, ProductTerms.product?, coefficient?, hc, hx]
  · intro c v hc hv hx hy
    rw [h₁] at hc
    obtain rfl := Option.some.inj (h₂.symm.trans hv)
    obtain ⟨x, hx⟩ := Option.ne_none_iff_exists'.mp hx
    refine ⟨by simp [ProductTerms.text, starred, hc],
      by simp [P.rewrite_eq, ProductTerms.written, ProductTerms.product?, coefficient?, hc, hx, hy, Product.text], ?_⟩
    by_contra hplain
    -- a value of digits of ASCII is a numeral
    have hdigits : PlainDigits P.value := fun d hd hdigit => by simpa using fun h => hplain ⟨d, hd, hdigit, h⟩
    obtain ⟨N, -, hN⟩ := (spells_value_iff hdigits).mp hP.value
    rw [hN, read?_numeral] at hy
    cases hy

end Formula

namespace Leaf

/-- **What becomes of the matches** in a text: it is put together from them and from what lies between, both passes
put what the matches are rewritten to in their places, and every match has its outcome. -/
theorem passes_outcomes (text : List Char) :
    ((Finder.split droop.firstEnd? text).join Match.text = text ∧
      droopPass text = (Finder.split droop.firstEnd? text).join Droop.rewrite ∧
      ∀ piece ∈ (Finder.split droop.firstEnd? text).pieces, Droop.Outcome piece.2) ∧
    (Finder.split product.firstEnd? text).join Match.text = text ∧
      productPass text = (Finder.split product.firstEnd? text).join Product.rewrite ∧
      ∀ piece ∈ (Finder.split product.firstEnd? text).pieces, Product.Outcome piece.2 := by
  refine ⟨⟨droop_advances.join_text text, rfl, fun piece hp => ?_⟩, product_advances.join_text text, rfl,
    fun piece hp => ?_⟩
  · obtain ⟨before, w, q, hfind, hpiece⟩ := droop_advances.mem_pieces hp
    rw [hpiece]
    exact droop_outcome hfind
  · obtain ⟨before, w, q, hfind, hpiece⟩ := product_advances.mem_pieces hp
    rw [hpiece]
    exact product_outcome hfind

/-- In a product of a digit of ASCII and one of another script, **the coefficient is lost**. -/
theorem productPass_cuts : ∃ m, (Finder.split product.firstEnd? "2*٣".toList).pieces = [([], m)] ∧
    m.text = "2*٣".toList ∧ m.group? 1 = some ['2'] ∧ m.group? 2 = some ['٣'] ∧ Decimal.read? ['٣'] = none ∧
      evaluateText "2*٣" = .string "٣" := by
  obtain ⟨q, hq⟩ : ∃ q : Position, q = ⟨3, some '٣', [], [(2, ⟨['٣'], 1⟩), (1, ⟨['2', '*', '٣'], 1⟩)]⟩ := ⟨_, rfl⟩
  have hfind : product.firstEnd? none "2*٣".toList = some q := by
    subst hq
    decide +kernel
  have hend : product.firstEnd? q.before [] = none := by
    subst hq
    decide +kernel
  have hsplit : Finder.split product.firstEnd? "2*٣".toList = ⟨[([], ⟨"2*٣".toList, q.groups⟩)], []⟩ := by
    have hrest : splitFrom product.firstEnd? q.before q.rest true [] = ⟨[], []⟩ := by
      rw [splitFrom.eq_def, show q.rest = [] by rw [hq], hend]
      rfl
    rw [Finder.split, splitFrom.eq_def, hfind]
    dsimp only
    rw [hrest, hq]
    rfl
  have hdroop : droopPass "2*٣".toList = "2*٣".toList := by
    refine Rewrites.replaceAll_eq (.skip ?_ (.skip ?_ (.skip ?_ (.stop ?_)))) <;> decide +kernel
  have hproduct : productPass "2*٣".toList = ['٣'] := by
    show (Finder.split product.firstEnd? "2*٣".toList).join Product.rewrite = _
    rw [hsplit, hq]
    decide +kernel
  refine ⟨⟨"2*٣".toList, q.groups⟩, by rw [hsplit], rfl, ?_, ?_, by decide +kernel, ?_⟩
  · rw [hq]
    rfl
  · rw [hq]
    rfl
  · have hnumber : number? ['٣'] = none := by decide +kernel
    have hpromoted : promoted? "2*٣".toList ['٣'] = none := by rw [promoted?, hnumber, ite_self]
    rw [evaluateText, evaluate, hdroop, hproduct]
    dsimp only
    rw [promoted?, if_pos rfl, hpromoted]
    rfl

end Leaf

end SiteGen
