import SiteGen.Proofs.Formula.Around
import SiteGen.Proofs.Formula.Number

/-!
# The meaning of a formula

* `Formula.Means`: the formulas of ASCII and their values.
* `Formula.DroopTerms.Valid.preferred`: before a text without digits, the terms of a droop formula are those that
  are written.
* `Leaf.evaluate_droop`, `Leaf.evaluate_product`: what is left of a text with one formula.
* `evaluateText_formula`: a formula between texts without digits is evaluated to its value.
-/

namespace SiteGen

open Decimal

/-- A sign as it is written. -/
def Sign.text : Sign → List Char
  | .plus => ['+']
  | .minus => ['-']

theorem Sign.text_eq (s : Sign) : s.text = ['+'] ∨ s.text = ['-'] := by
  cases s
  · exact Or.inl rfl
  · exact Or.inr rfl

theorem Sign.ofText_text (s : Sign) : Sign.ofText s.text = s := by
  cases s <;> decide

namespace Formula

open Regex

variable {b r u w : List Char} {c : Char}

/-! ## Formulas and their values -/

/-- A percentage with its coefficient, if there is one, as it is written. -/
def percentText (coefficient : Option Numeral) (percent : Numeral) : List Char :=
  starred (coefficient.map Numeral.text) ++ percent.text

/-- The value of a percentage: **the product** with its coefficient, if there is one. -/
def percentValue (coefficient : Option Numeral) (percent : Numeral) : Float :=
  match coefficient with
  | some c => c.float false * percent.float false
  | none => percent.float false

/-- Whether a text **is a formula** with a value. All numerals are of ASCII; `c.fraction = []` says that there is no
point in one. -/
inductive Means : List Char → Float → Prop
  /-- A percentage on top of 100. A coefficient has a point or at least two digits. -/
  | percentage (s : Sign) (C : Option Numeral) (p : Numeral)
    (hC : ∀ c, C = some c → c.fraction ≠ [] ∨ 2 ≤ c.whole.length) (hp : p.fraction = []) :
    Means (['1', '0', '0'] ++ (s.text ++ percentText C p)) (s.apply 100.0 (percentValue C p))
  /-- Such a percentage of a voltage with a deadband. -/
  | voltage (s : Sign) (C : Option Numeral) (p : Numeral) (t : Sign) (v d : Numeral)
    (hC : ∀ c, C = some c → c.fraction ≠ [] ∨ 2 ≤ c.whole.length) (hp : p.fraction = []) (hv : v.fraction = [])
    (hd : d.fraction = []) :
    Means (['1', '0', '0'] ++ (s.text ++ (percentText C p ++ (['*', '('] ++ (v.text ++ (t.text ++ (d.text ++ [')'])))))))
      (s.apply 100.0 (percentValue C p) / 100.0 * t.apply (v.float false) (d.float false))
  /-- A percentage of one digit on top of 100, and **then** the product. -/
  | chained (s : Sign) (c p : Numeral) (hc : c.fraction = []) (hdigit : c.whole.length = 1) (hp : p.fraction = []) :
    Means (['1', '0', '0'] ++ (s.text ++ (c.text ++ '*' :: p.text))) (s.apply 100.0 (c.float false) * p.float false)
  /-- A product; the coefficient may have a minus, and the value has a digit in front. -/
  | product (negative : Bool) (c v : Numeral) (hv : v.whole ≠ []) :
    Means (Decimal.sign negative ++ (c.text ++ '*' :: v.text)) (c.float negative * v.float false)

/-! ## Numerals as terms -/

theorem Numeral.text_of_whole {N : Numeral} (h : N.fraction = []) : N.text = N.whole := by
  simp [Decimal.Numeral.text, h]

theorem isDigits_of_numeral {N : Numeral} (h : N.fraction = []) : IsDigits N.text := by
  rw [Numeral.text_of_whole h]
  refine isDigits_of_isDigit (fun hw => N.ne_nil (by rw [hw, h]; rfl)) fun c => N.isDigit_of_mem_whole

theorem droopCoefficient_of_numeral {N : Numeral} (h : N.fraction ≠ [] ∨ 2 ≤ N.whole.length) :
    droopCoefficient.Spells N.text := by
  have hwhole : ∀ c ∈ N.whole, isDecimalDigit c = true := fun c hc =>
    isDecimalDigit_of_isDigit (N.isDigit_of_mem_whole hc)
  refine spells_droopCoefficient.mpr ?_
  by_cases hf : N.fraction = []
  · have hlength := h.resolve_left (not_not.mpr hf)
    obtain ⟨c, m, hcm⟩ := List.exists_cons_of_length_pos (by omega : 0 < N.whole.length)
    rw [hcm, List.length_cons] at hlength
    rw [hcm] at hwhole
    refine ⟨[], c, m, by rw [Numeral.text_of_whole hf, hcm]; rfl, nofun, ?_, ?_,
      fun d hd => hwhole d (List.mem_cons_of_mem _ hd)⟩
    · rintro rfl
      exact absurd (hwhole _ List.mem_cons_self) (by decide)
    · exact List.length_pos_iff.mp (by omega)
  · exact ⟨N.whole, '.', N.fraction, by simp [Decimal.Numeral.text, hf], hwhole, by decide,
      isDigits_of_isDigit hf fun c => N.isDigit_of_mem_fraction⟩

theorem star_not_mem_numeral (N : Numeral) : '*' ∉ N.text := fun h => by
  rcases N.mem_text h with h | h
  · exact absurd h (by decide)
  · exact absurd h (by decide)

theorem no_sign_of_numeral {N : Numeral} (h : c ∈ N.text) : c ≠ '+' ∧ c ≠ '-' := by
  constructor
  · rintro rfl
    exact absurd (N.mem_text h) (by decide)
  · rintro rfl
    exact absurd (N.mem_text h) (by decide)

/-! ## The terms of a droop formula before a text without digits -/

theorem Starless.cons (hw : Starless w) (h : c = '*' → ∀ d ∈ w.head?, isDecimalDigit d = false) :
    Starless (c :: w) := by
  rintro (_ | ⟨e, l⟩) d r heq
  · obtain ⟨rfl, rfl⟩ := List.cons.inj heq
    exact h rfl d rfl
  · exact hw l d r (List.cons.inj heq).2

theorem VoltageTerm.Valid.starless {V : VoltageTerm} (hV : V.Valid) (hb : Digitless b) : Starless (V.text ++ b) := by
  have hsign : '*' ∉ V.sign := by rcases hV.sign with h | h <;> rw [h] <;> decide
  have hrest : Starless ((V.voltage ++ (V.sign ++ (V.deadband ++ [')']))) ++ b) := by
    refine hb.starless.append ?_
    simp [hV.voltage.star_not_mem, hsign, hV.deadband.star_not_mem]
  refine Starless.cons (Starless.cons hrest fun h => absurd h (by decide)) fun _ d hd => ?_
  obtain rfl := Option.some.inj hd
  decide

theorem VoltageTerm.Valid.eq_of_append {V V' : VoltageTerm} (hV : V.Valid) (hV' : V'.Valid)
    (h : V.text ++ b = V'.text ++ u) : V = V' := by
  obtain ⟨v, s, d⟩ := V
  obtain ⟨v', s', d'⟩ := V'
  have hparts : v ++ (s ++ (d ++ (')' :: b))) = v' ++ (s' ++ (d' ++ (')' :: u))) := by
    simpa [VoltageTerm.text] using h
  have hsign : ∀ {s w : List Char}, s = ['+'] ∨ s = ['-'] →
      s.length = 1 ∧ ∀ c ∈ (s ++ w).head?, isDecimalDigit c = false := by
    rintro s w (rfl | rfl)
    · exact ⟨rfl, fun c hc => Option.some.inj hc ▸ by decide⟩
    · exact ⟨rfl, fun c hc => Option.some.inj hc ▸ by decide⟩
  have hclose : ∀ {w : List Char}, ∀ c ∈ (')' :: w).head?, isDecimalDigit c = false := fun c hc =>
    Option.some.inj hc ▸ by decide
  obtain ⟨hv, hafter⟩ := hV.voltage.append_inj hV'.voltage (hsign hV.sign).2 (hsign hV'.sign).2 hparts
  obtain ⟨hs, hafter⟩ := List.append_inj hafter ((hsign (w := []) hV.sign).1.trans (hsign (w := []) hV'.sign).1.symm)
  obtain ⟨hd, -⟩ := hV.deadband.append_inj hV'.deadband hclose hclose hafter
  rw [VoltageTerm.mk.injEq]
  exact ⟨hv, hs, hd⟩

/-- **Before a text without digits**, the terms of a droop formula are those that are written. -/
theorem DroopTerms.Valid.preferred {D : DroopTerms} (hD : D.Valid) (hb : Digitless b)
    (hstar : ∀ c, D.coefficient = some c → '*' ∉ c) : D.Preferred b := by
  have hvoltage : Starless (voltageText D.voltage ++ b) := by
    cases hV : D.voltage with
    | none => exact hb.starless
    | some V => exact (hD.voltage V hV).starless hb
  have hrest : Starless (D.percent ++ (voltageText D.voltage ++ b)) := hvoltage.append hD.percent.star_not_mem
  refine ⟨fun c d u _ hd heq => ?_, fun c hc => ?_, fun V u hV heq => ?_⟩
  · cases hC : D.coefficient with
    | none =>
      rw [hC] at heq
      rw [hrest c d u heq] at hd
      cases hd
    | some C =>
      rw [hC, starred, List.append_assoc] at heq
      rw [hrest.eq (hstar C hC) hd heq]
  · cases hV : D.voltage with
    | none =>
      rw [hV] at hc
      exact hb.head? c hc
    | some V =>
      rw [hV] at hc
      obtain rfl := Option.some.inj hc
      decide
  · cases hV' : D.voltage with
    | none =>
      rw [hV'] at heq
      obtain ⟨d, ds, hvd, hd⟩ := hV.voltage.exists_cons
      exact absurd hb (not_digitless_of_mem (show d ∈ b by rw [show b = _ from heq]; simp [VoltageTerm.text, hvd]) hd)
    | some V' =>
      rw [hV'] at heq
      rw [(hD.voltage V' hV').eq_of_append hV heq]

/-- A numeral of **one digit** is that digit. -/
theorem exists_digit {c : Numeral} (hc : c.fraction = []) (hdigit : c.whole.length = 1) :
    ∃ d, c.text = [d] ∧ c.whole = [d] ∧ d.isDigit = true := by
  obtain ⟨d, hd⟩ := List.length_eq_one_iff.mp hdigit
  exact ⟨d, by rw [Numeral.text_of_whole hc, hd], hd, c.isDigit_of_mem_whole (by rw [hd]; exact List.mem_cons_self)⟩

theorem isFinite_digit (s : Sign) {c : Numeral} (hc : c.fraction = []) (hdigit : c.whole.length = 1) :
    isFinite (s.apply 100.0 (c.float false)) = true := by
  have hall : ∀ n < 10, ∀ s ∈ [Sign.plus, Sign.minus],
      isFinite (s.apply 100.0 (Binary64.ofDecimal false n 0)) = true := by decide +kernel
  have hnumber : c.number < 10 := by
    obtain ⟨d, -, hd, hddigit⟩ := exists_digit hc hdigit
    rw [Numeral.number, hc, hd]
    simp only [Char.isDigit, Bool.and_eq_true, decide_eq_true_eq] at hddigit
    have hle : d.toNat ≤ 57 := UInt32.le_iff_toNat_le.mp hddigit.2
    show 0 * 10 + (d.toNat - 48) < 10
    omega
  rw [Numeral.float, hc]
  exact hall _ hnumber s (by cases s <;> simp)

theorem preferred_digit (s : List Char) {c : Numeral} (hc : c.fraction = []) (hdigit : c.whole.length = 1)
    (hw : IsDigits w) (hb : Digitless b) : DroopTerms.Preferred ⟨s, none, c.text, none⟩ ('*' :: (w ++ b)) := by
  refine ⟨fun c' e u hc' he heq => ?_, fun e he => ?_, fun V u _ heq => ?_⟩
  · -- a coefficient would have to be the one digit
    obtain rfl := (hb.starless.append hw.star_not_mem).eq (star_not_mem_numeral c) he heq
    obtain ⟨d, hd, -, -⟩ := exists_digit hc hdigit
    obtain ⟨l, e, m, htext, -, -, hm⟩ := spells_droopCoefficient.mp hc'
    have hlength := congrArg List.length (hd.symm.trans htext)
    have hpos := List.length_pos_iff.mpr hm.1
    simp only [List.length_cons, List.length_nil, List.length_append] at hlength
    omega
  · obtain rfl := Option.some.inj he
    decide
  · obtain ⟨e, es, rfl, he⟩ := hw.exists_cons
    obtain rfl := (List.cons.inj (List.cons.inj heq).2).1
    exact absurd he (by decide)

theorem valid_plain {y : Float} (hy : isFinite y = true) (hw : IsDigits w) :
    ProductTerms.Valid ⟨some (plain y).toList, w⟩ := by
  refine ⟨fun c hc => ?_, spells_value.mpr ⟨w, [], (List.append_nil _).symm, hw, Or.inl rfl⟩⟩
  obtain rfl := Option.some.inj hc
  obtain ⟨negative, N, -, hplain, -⟩ := plain_numeral hy
  exact (spells_productCoefficient_iff (plainDigits_plain y)).mpr ⟨negative, N, by rw [hplain, String.toList_ofList]⟩

theorem plainDigits_numeral (N : Numeral) : PlainDigits N.text := fun c hc hdigit => by
  rcases N.mem_text hc with h | rfl
  · exact h
  · exact absurd hdigit (by decide)

theorem plainDigits_sign (negative : Bool) : PlainDigits (Decimal.sign negative) := fun c hc hdigit => by
  cases negative with
  | false => cases hc
  | true =>
    obtain rfl := List.mem_singleton.mp hc
    exact absurd hdigit (by decide)

theorem valid_numerals (negative : Bool) (c : Numeral) {v : Numeral} (hv : v.whole ≠ []) :
    ProductTerms.Valid ⟨some (Decimal.sign negative ++ c.text), v.text⟩ := by
  refine ⟨fun w hw => ?_, (spells_value_iff (plainDigits_numeral v)).mpr ⟨v, hv, rfl⟩⟩
  rw [← Option.some.inj hw]
  have hplain := (plainDigits_sign negative).append (plainDigits_numeral c)
  exact (spells_productCoefficient_iff hplain).mpr ⟨negative, c, rfl⟩

end Formula

namespace Leaf

open Formula

variable {a b text out : List Char} {x : Float}

/-- The outcome of evaluating a text of which a rewritten text is left: **the number** that it denotes, or itself. -/
def ofRewritten (text : List Char) : Leaf := (number? text).elim (.text text) .number

theorem evaluate_of_droopPass (h : droopPass text = out) (hne : out ≠ text) (hsame : productPass out = out) :
    evaluate text = ofRewritten out := by
  rw [evaluate, h]
  dsimp only
  rw [promoted?, if_neg hne, ofRewritten]
  cases number? out with
  | some x => rfl
  | none => rw [hsame, promoted?, if_pos rfl]; rfl

theorem evaluate_of_productPass (hnone : promoted? text (droopPass text) = none)
    (h : productPass (droopPass text) = out) (hne : out ≠ droopPass text) : evaluate text = ofRewritten out := by
  rw [evaluate]
  dsimp only
  rw [hnone, h]
  dsimp only
  rw [promoted?, if_neg hne, ofRewritten]
  cases number? out <;> rfl

/-- **A droop formula** between texts without digits is replaced, and nothing else. -/
theorem evaluate_droop {D : DroopTerms} (ha : Digitless a) (hb : Digitless b) (hD : D.Valid)
    (hstar : ∀ c, D.coefficient = some c → '*' ∉ c) (hwritten : D.written = (plain x).toList) :
    evaluate (a ++ (D.text ++ b)) = ofRewritten (a ++ ((plain x).toList ++ b)) := by
  have hnone : ∀ (D' : DroopTerms) l r, D'.Valid → b ≠ l ++ (D'.text ++ r) := by
    rintro D' l r - rfl
    exact not_digitless_of_mem (d := '1') (by simp [DroopTerms.text]) (by decide) hb
  refine evaluate_of_droopPass ?_ (fun h => ?_) (productPass_plain ha hb x)
  · rw [droopPass_around ha hD (hD.preferred hb hstar) hnone, hwritten]
  · obtain ⟨s, t, htext, hs, -⟩ := hD.exists_sign
    rw [htext] at h
    exact plain_append_ne hs b _ (List.append_cancel_left h)

/-- **A product** between texts without digits is replaced. -/
theorem evaluate_product {P : ProductTerms} (ha : Digitless a) (hlast : ∀ c ∈ a.getLast?, c ≠ '-' ∧ c ≠ '.')
    (hb : Digitless b) (hP : P.Valid) (hc : P.coefficient ≠ none) (hwritten : P.written = (plain x).toList)
    (hdroop : droopPass text = a ++ (P.text ++ b)) (hnone : promoted? text (a ++ (P.text ++ b)) = none) :
    evaluate text = ofRewritten (a ++ ((plain x).toList ++ b)) := by
  obtain ⟨c, hc⟩ := Option.ne_none_iff_exists'.mp hc
  refine evaluate_of_productPass (by rw [hdroop, hnone]) ?_ (fun h => ?_)
  · rw [hdroop, productPass_around ha hlast hP hc hb, hwritten]
  · rw [hdroop] at h
    have hsame := List.append_cancel_right (List.append_cancel_left h)
    exact star_not_mem_plain x (by rw [hsame]; simp [ProductTerms.text, starred, hc])

/-- The terms of a percentage, with its voltage term. -/
theorem evaluate_percentage (ha : Digitless a) (hb : Digitless b) (s : Sign) {C : Option Numeral} {p : Numeral}
    (hC : ∀ c, C = some c → c.fraction ≠ [] ∨ 2 ≤ c.whole.length) (hp : p.fraction = []) {V : Option VoltageTerm}
    {voltage : Option (Float × Sign × Float)} (hV : ∀ v, V = some v → v.Valid) (hread : voltage? V = some voltage) :
    evaluate (a ++ (['1', '0', '0'] ++ (s.text ++ (percentText C p ++ voltageText V)) ++ b)) =
      ofRewritten (a ++ ((plain (Droop.value ⟨s, C.map (·.float false), p.float false, voltage⟩)).toList ++ b)) := by
  obtain ⟨D, hDeq⟩ : ∃ D : DroopTerms, D = ⟨s.text, C.map Numeral.text, p.text, V⟩ := ⟨_, rfl⟩
  have hcoefficient : ∀ c, C.map Numeral.text = some c → droopCoefficient.Spells c ∧ '*' ∉ c := fun c hc => by
    obtain ⟨N, hN, rfl⟩ := Option.map_eq_some_iff.mp hc
    exact ⟨droopCoefficient_of_numeral (hC N hN), star_not_mem_numeral N⟩
  have hD : D.Valid := by
    subst hDeq
    exact ⟨s.text_eq, fun c hc => (hcoefficient c hc).1, isDigits_of_numeral hp, hV⟩
  have hwritten : D.written = (plain (Droop.value ⟨s, C.map (·.float false), p.float false, voltage⟩)).toList := by
    have hdroop : D.droop? = some ⟨s, C.map (·.float false), p.float false, voltage⟩ := by
      subst hDeq
      cases C <;> simp [DroopTerms.droop?, coefficient?, read?_numeral, hread, Sign.ofText_text]
    rw [DroopTerms.written, hdroop]
  have htext : D.text = ['1', '0', '0'] ++ (s.text ++ (percentText C p ++ voltageText V)) := by
    subst hDeq
    simp [DroopTerms.text, percentText]
  rw [← htext]
  refine evaluate_droop ha hb hD (fun c hc => (hcoefficient c ?_).2) hwritten
  rw [← hc, hDeq]

/-- The terms of a percentage of **one digit**, and what comes after it: it is not a coefficient. -/
theorem evaluate_chained (ha : Digitless a) (hlast : ∀ c ∈ a.getLast?, c ≠ '-' ∧ c ≠ '.') (hb : Digitless b) (s : Sign)
    {c p : Numeral} (hc : c.fraction = []) (hdigit : c.whole.length = 1) (hp : p.fraction = []) :
    evaluate (a ++ (['1', '0', '0'] ++ (s.text ++ (c.text ++ '*' :: p.text)) ++ b)) =
      ofRewritten (a ++ ((plain (s.apply 100.0 (c.float false) * p.float false)).toList ++ b)) := by
  obtain ⟨y, hy⟩ : ∃ y, y = s.apply 100.0 (c.float false) := ⟨_, rfl⟩
  have hfinite : isFinite y = true := by rw [hy, isFinite_digit s hc hdigit]
  have hp' : IsDigits p.text := isDigits_of_numeral hp
  obtain ⟨D, hDeq⟩ : ∃ D : DroopTerms, D = ⟨s.text, none, c.text, none⟩ := ⟨_, rfl⟩
  have hD : D.Valid := by
    subst hDeq
    refine ⟨s.text_eq, fun w hw => ?_, isDigits_of_numeral hc, fun V hV => ?_⟩
    · cases hw
    · cases hV
  have hpreferred : D.Preferred ('*' :: (p.text ++ b)) := by
    rw [hDeq]
    exact preferred_digit s.text hc hdigit hp' hb
  obtain ⟨P, hPeq⟩ : ∃ P : ProductTerms, P = ⟨some (plain y).toList, p.text⟩ := ⟨_, rfl⟩
  have hP : P.Valid := by
    rw [hPeq]
    exact valid_plain hfinite hp'
  have hwritten : P.written = (plain (y * p.float false)).toList := by
    subst hPeq
    simp [ProductTerms.written, ProductTerms.product?, coefficient?, read?_plain hfinite, read?_numeral, Product.text]
  have hdroop : droopPass (a ++ (D.text ++ '*' :: (p.text ++ b))) = a ++ (P.text ++ b) := by
    rw [droopPass_around ha hD hpreferred fun D' l r hD' => ?_]
    · subst hDeq hPeq
      simp [DroopTerms.written, DroopTerms.droop?, coefficient?, voltage?, read?_numeral, Sign.ofText_text, Droop.value,
        ← hy, ProductTerms.text, starred]
    · exact not_droop_around (a := []) (w := '*' :: p.text) (List.forall_mem_nil _) hb
        (fun s hs => no_sign_of_numeral hs) D' l r hD'
  have hformula : a ++ (['1', '0', '0'] ++ (s.text ++ (c.text ++ '*' :: p.text)) ++ b) =
      a ++ (D.text ++ '*' :: (p.text ++ b)) := by
    subst hDeq
    simp [DroopTerms.text, starred, voltageText]
  rw [hformula, ← hy]
  refine evaluate_product ha hlast hb hP (by rw [hPeq]; simp) hwritten hdroop ?_
  -- the star is still there, so the first pass leaves no number
  rw [promoted?]
  split
  · rfl
  · subst hPeq
    have h := number?_eq_none (c := '*') (l := a ++ (plain y).toList) (r := p.text ++ b) (by decide) (by decide)
      (by decide) (Or.inl (by decide))
    simpa [ProductTerms.text, starred] using h

theorem evaluate_numerals (ha : Digitless a) (hlast : ∀ c ∈ a.getLast?, c ≠ '-' ∧ c ≠ '.') (hb : Digitless b)
    (negative : Bool) (c : Numeral) {v : Numeral} (hv : v.whole ≠ []) :
    evaluate (a ++ (Decimal.sign negative ++ (c.text ++ '*' :: v.text) ++ b)) =
      ofRewritten (a ++ ((plain (c.float negative * v.float false)).toList ++ b)) := by
  obtain ⟨P, hPeq⟩ : ∃ P : ProductTerms, P = ⟨some (Decimal.sign negative ++ c.text), v.text⟩ := ⟨_, rfl⟩
  have hP : P.Valid := by
    rw [hPeq]
    exact valid_numerals negative c hv
  have hwritten : P.written = (plain (c.float negative * v.float false)).toList := by
    subst hPeq
    simp [ProductTerms.written, ProductTerms.product?, coefficient?, c.read?_text, read?_numeral, Product.text]
  have htext : P.text = Decimal.sign negative ++ (c.text ++ '*' :: v.text) := by
    subst hPeq
    simp [ProductTerms.text, starred]
  rw [← htext]
  have hdroop : droopPass (a ++ (P.text ++ b)) = a ++ (P.text ++ b) := by
    refine droopPass_eq_self fun D l r hD => not_droop_around ha hb (fun s hs => ?_) D l r hD
    have hbody : s ∈ c.text ++ '*' :: v.text := by
      rw [htext] at hs
      cases negative with
      | false => exact List.mem_of_mem_tail hs
      | true => exact hs
    rcases List.mem_append.mp hbody with h | h
    · exact no_sign_of_numeral h
    · rcases List.mem_cons.mp h with rfl | h
      · decide
      · exact no_sign_of_numeral h
  refine evaluate_product ha hlast hb hP (by rw [hPeq]; simp) hwritten hdroop ?_
  rw [promoted?, if_pos rfl]

theorem evaluate_formula {F : List Char} (ha : Digitless a) (hlast : ∀ c ∈ a.getLast?, c ≠ '-' ∧ c ≠ '.')
    (hb : Digitless b) (h : Means F x) :
    evaluate (a ++ (F ++ b)) = ofRewritten (a ++ ((plain x).toList ++ b)) := by
  cases h with
  | percentage s C p hC hp =>
    have h := evaluate_percentage ha hb s hC hp (V := none) nofun rfl
    cases C with
    | none => simpa [voltageText, percentValue, Droop.value] using h
    | some c => simpa [voltageText, percentValue, Droop.value] using h
  | voltage s C p t v d hC hp hv hd =>
    have hV : ∀ V, some (VoltageTerm.mk v.text t.text d.text) = some V → V.Valid := fun V hV =>
      Option.some.inj hV ▸ ⟨isDigits_of_numeral hv, t.text_eq, isDigits_of_numeral hd⟩
    have hread : voltage? (some ⟨v.text, t.text, d.text⟩) = some (some (v.float false, t, d.float false)) := by
      simp [voltage?, VoltageTerm.read?, read?_numeral, Sign.ofText_text]
    have h := evaluate_percentage ha hb s hC hp hV hread
    cases C with
    | none => simpa [voltageText, VoltageTerm.text, percentValue, Droop.value] using h
    | some c => simpa [voltageText, VoltageTerm.text, percentValue, Droop.value] using h
  | chained s c p hc hdigit hp => exact evaluate_chained ha hlast hb s hc hdigit hp
  | product negative c v hv => exact evaluate_numerals ha hlast hb negative c hv

end Leaf

section

open Formula Leaf

variable {a b F : String} {x : Float}

theorem evaluateText_eq_ofRewritten (ha : Digitless a.toList) (hlast : ∀ c ∈ a.toList.getLast?, c ≠ '-' ∧ c ≠ '.')
    (hb : Digitless b.toList) (h : Means F.toList x) :
    evaluateText (a ++ F ++ b) = (ofRewritten (a.toList ++ ((plain x).toList ++ b.toList))).toJson := by
  rw [evaluateText, String.toList_append, String.toList_append, List.append_assoc, evaluate_formula ha hlast hb h]

/-- **The meaning of a formula** between texts without digits, the first of which does not end in a minus or a point.
Between blanks it is evaluated to its value if this is finite. Next to a character that has no place in a number, such
as a letter, the value in plain notation takes the place of the formula. -/
theorem evaluateText_formula (ha : Digitless a.toList) (hlast : ∀ c ∈ a.toList.getLast?, c ≠ '-' ∧ c ≠ '.')
    (hb : Digitless b.toList) (h : Means F.toList x) :
    ((∀ c ∈ a.toList ++ b.toList, isBlank c = true) → isFinite x = true →
      evaluateText (a ++ F ++ b) = .number (.float x)) ∧
    ((∃ c ∈ a.toList ++ b.toList, isBlank c = false ∧ c ∉ ['.', '+', '-']) →
      evaluateText (a ++ F ++ b) = .string (a ++ plain x ++ b)) := by
  rw [evaluateText_eq_ofRewritten ha hlast hb h, ofRewritten]
  constructor
  · intro hblank hx
    rw [number?_around (fun c hc => hblank c (List.mem_append_left _ hc))
      (fun c hc => hblank c (List.mem_append_right _ hc)) hx]
    rfl
  · rintro ⟨c, hc, hblank, hplace⟩
    have hdigit : ∀ {w : List Char}, Digitless w → ∀ d ∈ w, d.isDigit = false := fun hw d hd =>
      Bool.eq_false_iff.mpr fun h => by
        have := hw d hd
        rw [isDecimalDigit_of_isDigit h] at this
        cases this
    have hnone : number? (a.toList ++ ((plain x).toList ++ b.toList)) = none := by
      rcases List.mem_append.mp hc with hc | hc
      · obtain ⟨l, r, hlr⟩ := List.append_of_mem hc
        have hl : ∀ d ∈ l, d.isDigit = false := fun d hd => hdigit ha d (by rw [hlr]; simp [hd])
        rw [hlr, List.append_assoc, List.cons_append]
        exact number?_eq_none hblank (hdigit ha c hc) hplace (Or.inr (Or.inl hl))
      · obtain ⟨l, r, hlr⟩ := List.append_of_mem hc
        have hr : ∀ d ∈ r, d.isDigit = false := fun d hd => hdigit hb d (by rw [hlr]; simp [hd])
        rw [hlr, ← List.append_assoc, ← List.append_assoc]
        exact number?_eq_none hblank (hdigit hb c hc) hplace (Or.inr (Or.inr hr))
    rw [hnone]
    show Json.string (String.ofList _) = _
    simp [String.ofList_append, String.append_assoc]

theorem evaluateText_formula_small : ∃ x, Means "100-2*5".toList x ∧
    evaluateText " 100-2*5" = .number (.float x) ∧ evaluateText "100-2*5V" = .string "490.0V" := by
  obtain ⟨two, htwo⟩ : ∃ N : Numeral, N = ⟨['2'], [], by simp, by simp⟩ := ⟨_, rfl⟩
  obtain ⟨five, hfive⟩ : ∃ N : Numeral, N = ⟨['5'], [], by simp, by simp⟩ := ⟨_, rfl⟩
  have hmeans : Means "100-2*5".toList (Sign.minus.apply 100.0 (two.float false) * five.float false) := by
    subst htwo hfive
    exact .chained .minus ⟨['2'], [], by simp, by simp⟩ ⟨['5'], [], by simp, by simp⟩ rfl rfl rfl
  have hplain : plain (Sign.minus.apply 100.0 (two.float false) * five.float false) = "490.0" := by
    subst htwo hfive
    decide +kernel
  have hfinite : isFinite (Sign.minus.apply 100.0 (two.float false) * five.float false) = true := by
    subst htwo hfive
    decide +kernel
  have hblank : Digitless " ".toList := List.forall_mem_singleton.mpr (by decide)
  have hletter : Digitless "V".toList := List.forall_mem_singleton.mpr (by decide)
  refine ⟨_, hmeans, ?_, ?_⟩
  · exact (evaluateText_formula (b := "") hblank (by simp) nofun hmeans).1
      (List.forall_mem_singleton.mpr (by decide)) hfinite
  · have h := (evaluateText_formula (a := "") nofun (by simp) hletter hmeans).2
      ⟨'V', List.mem_singleton.mpr rfl, by decide, by decide⟩
    rwa [hplain] at h

end

end SiteGen
