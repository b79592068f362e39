import SiteGen.Formula.Walk
import SiteGen.Proofs.Formula.Passes
import SiteGen.Proofs.Json.Ascii

/-!
# Texts that stay

* `Formula.HasProduct`, `Formula.HasDroop`: the arithmetic in a text.
* `Leaf.productPass_eq_self`, `Leaf.droopPass_eq_self`: texts without arithmetic stay as they are.
* `Leaf.productPass_count`: every product that is evaluated takes a star away.
* `evaluateText_of_no_operator`, `evaluateText_eq_string_iff`: exactly the texts without arithmetic stay.
-/

namespace SiteGen

namespace Formula

open Decimal

variable {text l r w : List Char}

/-- Whether a text has a digit, **a star and a digit** somewhere. -/
def HasProduct (text : List Char) : Prop := ∃ l d d' r, text = l ++ d :: '*' :: d' :: r ∧
  isDecimalDigit d = true ∧ isDecimalDigit d' = true

/-- Whether a text has 100, **a sign and a digit** somewhere. -/
def HasDroop (text : List Char) : Prop := ∃ l s d r, text = l ++ '1' :: '0' :: '0' :: s :: d :: r ∧
  (s = '+' ∨ s = '-') ∧ isDecimalDigit d = true

theorem not_hasProduct_of_star (h : '*' ∉ text) : ¬HasProduct text := by
  rintro ⟨l, d, d', r, rfl, -⟩
  exact h (by simp)

theorem not_hasDroop_of_sign (hplus : '+' ∉ text) (hminus : '-' ∉ text) : ¬HasDroop text := by
  rintro ⟨l, s, d, r, rfl, rfl | rfl, -⟩
  · exact hplus (by simp)
  · exact hminus (by simp)

theorem HasProduct.append_left (h : HasProduct r) : HasProduct (l ++ r) := by
  obtain ⟨l', d, d', r', rfl, hd⟩ := h
  exact ⟨l ++ l', d, d', r', by simp, hd⟩

theorem HasProduct.append_right (h : HasProduct l) : HasProduct (l ++ r) := by
  obtain ⟨l', d, d', r', rfl, hd⟩ := h
  exact ⟨l', d, d', r' ++ r, by simp, hd⟩

theorem HasDroop.append_left (h : HasDroop r) : HasDroop (l ++ r) := by
  obtain ⟨l', s, d, r', rfl, hd⟩ := h
  exact ⟨l ++ l', s, d, r', by simp, hd⟩

theorem HasDroop.append_right (h : HasDroop l) : HasDroop (l ++ r) := by
  obtain ⟨l', s, d, r', rfl, hd⟩ := h
  exact ⟨l', s, d, r' ++ r, by simp, hd⟩

/-! ## Terms -/

theorem hasProduct_of_digits {c v : List Char} (hc : ∃ ds d, c = ds ++ [d] ∧ isDecimalDigit d = true)
    (hv : ∃ d ds, v = d :: ds ∧ isDecimalDigit d = true) : HasProduct (c ++ '*' :: v) := by
  obtain ⟨ds, d, rfl, hd⟩ := hc
  obtain ⟨d', ds', rfl, hd'⟩ := hv
  exact ⟨ds, d, d', ds', by simp, hd, hd'⟩

theorem exists_concat_of_droopCoefficient (h : droopCoefficient.Spells w) :
    ∃ ds d, w = ds ++ [d] ∧ isDecimalDigit d = true := by
  obtain ⟨l, c, m, rfl, -, -, hm⟩ := spells_droopCoefficient.mp h
  obtain ⟨ds, d, rfl, hd⟩ := hm.exists_concat
  exact ⟨l ++ c :: ds, d, by simp, hd⟩

theorem exists_concat_of_productCoefficient (h : productCoefficient.Spells w) :
    ∃ ds d, w = ds ++ [d] ∧ isDecimalDigit d = true := by
  obtain ⟨s, l, m, rfl, -, -, hm⟩ := spells_productCoefficient.mp h
  obtain ⟨ds, d, rfl, hd⟩ := hm.exists_concat
  exact ⟨s ++ (l ++ ds), d, by simp, hd⟩

theorem ProductTerms.Valid.hasProduct {P : ProductTerms} (hP : P.Valid) (hc : P.coefficient ≠ none) :
    HasProduct P.text := by
  obtain ⟨c, hc⟩ := Option.ne_none_iff_exists'.mp hc
  have h := hasProduct_of_digits (exists_concat_of_productCoefficient (hP.coefficient c hc))
    (exists_cons_of_value hP.value)
  simpa [ProductTerms.text, starred, hc] using h

theorem DroopTerms.Valid.hasProduct {D : DroopTerms} (hD : D.Valid) (hc : D.coefficient ≠ none) :
    HasProduct D.text := by
  obtain ⟨c, hc⟩ := Option.ne_none_iff_exists'.mp hc
  obtain ⟨d, ds, hpercent, hd⟩ := hD.percent.exists_cons
  have h := hasProduct_of_digits (v := D.percent ++ voltageText D.voltage)
    (exists_concat_of_droopCoefficient (hD.coefficient c hc)) ⟨d, ds ++ voltageText D.voltage, by simp [hpercent], hd⟩
  have := h.append_left (l := ['1', '0', '0'] ++ D.sign)
  simpa [DroopTerms.text, starred, hc] using this

theorem DroopTerms.Valid.hasDroop {D : DroopTerms} (hD : D.Valid) (hc : D.coefficient = none) :
    HasDroop D.text := by
  obtain ⟨d, ds, hpercent, hd⟩ := hD.percent.exists_cons
  obtain ⟨s, hs, hsign⟩ : ∃ s, D.sign = [s] ∧ (s = '+' ∨ s = '-') := by
    rcases hD.sign with h | h
    · exact ⟨_, h, Or.inl rfl⟩
    · exact ⟨_, h, Or.inr rfl⟩
  exact ⟨[], s, d, ds ++ voltageText D.voltage, by simp [DroopTerms.text, starred, hc, hs, hpercent], hsign, hd⟩

theorem ProductTerms.written_of_none {P : ProductTerms} (hc : P.coefficient = none) : P.written = P.text := by
  obtain ⟨C, v⟩ := P
  obtain rfl : C = none := hc
  rfl

theorem ProductTerms.Valid.written_of_some {P : ProductTerms} (hP : P.Valid) (hplain : PlainDigits P.text)
    (hc : P.coefficient ≠ none) : ∃ (negative : Bool) (N V : Numeral),
      P.coefficient = some (Decimal.sign negative ++ N.text) ∧ P.value = V.text ∧
        P.written = (plain (N.float negative * V.float false)).toList := by
  obtain ⟨C, v⟩ := P
  obtain ⟨c, rfl⟩ := Option.ne_none_iff_exists'.mp hc
  obtain ⟨negative, N, rfl⟩ := (spells_productCoefficient_iff hplain.left.left).mp (hP.coefficient c rfl)
  obtain ⟨V, -, rfl⟩ := (spells_value_iff hplain.right).mp hP.value
  refine ⟨negative, N, V, rfl, rfl, ?_⟩
  simp [ProductTerms.written, ProductTerms.product?, coefficient?, Product.text, N.read?_text, read?_numeral]

theorem DroopTerms.Valid.written_of_none {D : DroopTerms} (hD : D.Valid) (hplain : PlainDigits D.text)
    (hc : D.coefficient = none) : ∃ x, D.written = (plain x).toList := by
  have hread : ∀ {w}, IsDigits w → PlainDigits w → ∃ x, read? w = some x := fun hw hplain => by
    obtain ⟨N, rfl, -⟩ := hw.numeral hplain
    exact ⟨_, N.read?_text false⟩
  obtain ⟨s, C, d, V⟩ := D
  obtain rfl : C = none := hc
  obtain ⟨percent, hpercent⟩ := hread hD.percent hplain.right.right.right.left
  obtain ⟨voltage, hvoltage⟩ : ∃ v, voltage? V = some v := by
    cases V with
    | none => exact ⟨_, rfl⟩
    | some V =>
      obtain ⟨hv, -, hd⟩ := hD.voltage V rfl
      have hplain := hplain.right.right.right.right
      obtain ⟨v, hv⟩ := hread hv hplain.right.left
      obtain ⟨d, hd⟩ := hread hd hplain.right.right.right.left
      exact ⟨some (v, Sign.ofText V.sign, d), by simp [voltage?, VoltageTerm.read?, hv, hd]⟩
  refine ⟨Droop.value ⟨Sign.ofText s, none, percent, voltage⟩, ?_⟩
  simp [DroopTerms.written, DroopTerms.droop?, coefficient?, hpercent, hvoltage]

theorem star_not_mem_plain (x : Float) : '*' ∉ (plain x).toList := by
  intro h
  rcases mem_plain h with h | h
  · exact absurd h (by decide)
  · exact absurd h (by decide)

theorem plainDigits_plain (x : Float) : PlainDigits (plain x).toList := by
  intro c hc hdigit
  rcases mem_plain hc with rfl | h
  · exact absurd hdigit (by decide)
  rw [isPlainChar, Bool.or_eq_true] at h
  rcases h with h | h
  · exact h
  · have hfalse : ['.', 'N', 'a', 'i', 'n', 'f'].all (fun c => !isDecimalDigit c) = true := by decide
    have := List.all_eq_true.mp hfalse c (List.contains_iff_mem.mp h)
    simp [hdigit] at this

/-- The place of a product **after a value** in front of it: behind the value, or with the value as its
coefficient. -/
theorem HasProduct.of_append {v rest : List Char} (hv : value.Spells v) (h : HasProduct (v ++ rest)) :
    HasProduct rest ∨ ∃ d ds, rest = '*' :: d :: ds ∧ isDecimalDigit d = true := by
  obtain ⟨l, d, d', r, heq, hd, hd'⟩ := h
  rcases List.append_eq_append_iff.mp heq with ⟨m, -, hrest⟩ | ⟨m, hm, hrest⟩
  · exact Or.inl ⟨m, d, d', r, hrest, hd, hd'⟩
  cases m with
  | nil => exact Or.inl ⟨[], d, d', r, hrest.symm, hd, hd'⟩
  | cons e m =>
    cases m with
    | nil => exact Or.inr ⟨d', r, (List.cons.inj hrest).2.symm, hd'⟩
    | cons f m =>
      obtain rfl := (List.cons.inj (List.cons.inj hrest).2).1
      exact absurd (hm ▸ by simp) (star_not_mem_value hv)

theorem productCoefficient_of_value (h : value.Spells w) : productCoefficient.Spells w := by
  obtain ⟨l, m, rfl, hl, hm⟩ := spells_value.mp h
  refine spells_productCoefficient.mpr ?_
  rcases hm with rfl | ⟨ds, rfl, hds⟩
  · exact ⟨[], [], l, by simp, Or.inl rfl, Or.inl rfl, hl⟩
  · exact ⟨[], l ++ ['.'], ds, by simp, Or.inl rfl, Or.inr ⟨l, rfl, hl.2⟩, hds⟩

theorem spells_value_singleton {d : Char} (h : isDecimalDigit d = true) : value.Spells [d] :=
  spells_value.mpr ⟨[d], [], rfl, ⟨List.cons_ne_nil _ _, by simpa using h⟩, Or.inl rfl⟩

end Formula

namespace Leaf

open Formula

variable {text : List Char}

/-- A text **without products** stays in the second pass. -/
theorem productPass_eq_self (h : ¬HasProduct text) : productPass text = text := by
  refine productPass_induction (motive := fun text out => ¬HasProduct text → out = text) ?_ ?_ ?_ text h
  · exact fun _ => rfl
  · intro c rest out _ ih h
    rw [ih fun h' => h (h'.append_left (l := [c]))]
  · intro P rest out hP _ ih h
    have hc : P.coefficient = none := Classical.byContradiction fun hc => h (hP.hasProduct hc).append_right
    rw [P.written_of_none hc, ih fun h' => h h'.append_left]

/-- A text **in which no droop formula stands** stays in the first pass. -/
theorem droopPass_eq_self (h : ∀ (D : DroopTerms) l r, D.Valid → text ≠ l ++ (D.text ++ r)) :
    droopPass text = text := by
  refine droopPass_induction (motive := fun text out =>
    (∀ (D : DroopTerms) l r, D.Valid → text ≠ l ++ (D.text ++ r)) → out = text) ?_ ?_ ?_ text h
  · exact fun _ => rfl
  · intro c rest out _ ih h
    rw [ih fun D l r hD hrest => h D (c :: l) r hD (by rw [hrest]; rfl)]
  · intro D rest out hD _ h
    exact absurd rfl (h D [] rest hD)

/-- **Every product** that is evaluated takes a star away. -/
theorem productPass_count (hplain : PlainDigits text) : (productPass text).count '*' ≤ text.count '*' ∧
    ((productPass text).count '*' = text.count '*' → ¬HasProduct text) := by
  refine productPass_induction (motive := fun text out => PlainDigits text → out.count '*' ≤ text.count '*' ∧
    (out.count '*' = text.count '*' → ¬HasProduct text)) ?_ ?_ ?_ text hplain
  · rintro -
    refine ⟨Nat.le_refl _, fun _ => ?_⟩
    rintro ⟨l, d, d', r, h, -⟩
    simp at h
  · intro c rest out hnone ih hplain
    obtain ⟨hle, heq⟩ := ih (hplain.right (l := [c]))
    rw [List.count_cons, List.count_cons]
    refine ⟨by omega, fun h => ?_⟩
    rintro ⟨l, d, d', r, hrest, hd, hd'⟩
    cases l with
    | nil =>
      obtain ⟨rfl, rfl⟩ := List.cons.inj hrest
      exact hnone ⟨none, [c]⟩ _ ⟨nofun, spells_value_singleton hd⟩ rfl
    | cons e l => exact heq (by omega) ⟨l, d, d', r, (List.cons.inj hrest).2, hd, hd'⟩
  · intro P rest out hP hpreferred ih hplain
    obtain ⟨hle, heq⟩ := ih hplain.right
    rw [List.count_append, List.count_append]
    by_cases hc : P.coefficient = none
    · have htext : P.text = P.value := by rw [ProductTerms.text, hc]; rfl
      rw [P.written_of_none hc]
      refine ⟨by omega, fun h hproduct => ?_⟩
      rw [htext] at hproduct
      rcases hproduct.of_append hP.value with hproduct | ⟨d, ds, rfl, hd⟩
      · exact heq (by omega) hproduct
      · have hcoefficient : ∀ c, some P.value = some c → productCoefficient.Spells c := fun c hc =>
          Option.some.inj hc ▸ productCoefficient_of_value hP.value
        exact absurd (hpreferred hc ⟨some P.value, [d]⟩ ds ⟨hcoefficient, spells_value_singleton hd⟩
          (by rw [htext]; simp [ProductTerms.text, starred])) (by simp)
    · obtain ⟨negative, N, V, hC, hV, hwritten⟩ := hP.written_of_some hplain.left hc
      have hzero : P.written.count '*' = 0 := by
        rw [hwritten, List.count_eq_zero]
        exact star_not_mem_plain _
      have hpos : 0 < P.text.count '*' := by
        rw [List.count_pos_iff]
        simp [ProductTerms.text, hC, starred]
      exact ⟨by omega, fun h => by omega⟩

theorem droopPass_count (hplain : PlainDigits text) : (droopPass text).count '*' ≤ text.count '*' := by
  refine droopPass_induction (motive := fun text out => PlainDigits text → out.count '*' ≤ text.count '*')
    ?_ ?_ ?_ text hplain
  · exact fun _ => Nat.le_refl _
  · intro c rest out _ ih hplain
    rw [List.count_cons, List.count_cons]
    exact Nat.add_le_add_right (ih (hplain.right (l := [c]))) _
  · intro D rest out hD ih hplain
    rw [List.count_append, List.count_append]
    refine Nat.add_le_add ?_ (ih hplain.right)
    unfold DroopTerms.written
    split
    · rw [List.count_eq_zero.mpr (star_not_mem_plain _)]
      exact Nat.zero_le _
    · exact Nat.le_refl _

theorem plainDigits_droopPass (hplain : PlainDigits text) : PlainDigits (droopPass text) := by
  refine droopPass_induction (motive := fun text out => PlainDigits text → PlainDigits out) ?_ ?_ ?_ text hplain
  · exact fun h => h
  · intro c rest out _ ih hplain
    exact (hplain.left (l := [c])).append (ih (hplain.right (l := [c])))
  · intro D rest out hD ih hplain
    refine PlainDigits.append ?_ (ih hplain.right)
    unfold DroopTerms.written
    split
    · exact plainDigits_plain _
    · exact hplain.left

theorem not_hasDroop_of_droopPass (hplain : PlainDigits text) (h : droopPass text = text)
    (hproduct : ¬HasProduct text) : ¬HasDroop text := by
  refine droopPass_induction (motive := fun text out => PlainDigits text → out = text → ¬HasProduct text →
    ¬HasDroop text) ?_ ?_ ?_ text hplain h hproduct
  · rintro - - - ⟨l, s, d, r, h, -⟩
    simp at h
  · intro c rest out hnone ih hplain hsame hproduct
    have hrest := ih (hplain.right (l := [c])) (List.cons.inj hsame).2 fun h => hproduct (h.append_left (l := [c]))
    rintro ⟨l, s, d, r, heq, hs, hd⟩
    cases l with
    | nil =>
      have hD : DroopTerms.Valid ⟨[s], none, [d], none⟩ :=
        ⟨hs.imp (congrArg fun c => [c]) (congrArg fun c => [c]), nofun, ⟨List.cons_ne_nil _ _, by simpa using hd⟩, nofun⟩
      exact hnone _ r hD (by rw [heq]; rfl)
    | cons e l => exact hrest ⟨l, s, d, r, (List.cons.inj heq).2, hs, hd⟩
  · intro D rest out hD _ hplain hsame hproduct
    have hc : D.coefficient = none := Classical.byContradiction fun hc => hproduct (hD.hasProduct hc).append_right
    obtain ⟨x, hwritten⟩ := hD.written_of_none hplain.left hc
    rw [hwritten] at hsame
    rcases hD.sign with hs | hs
    · rw [DroopTerms.text, hs] at hsame
      exact absurd hsame (Decimal.plain_append_ne (Or.inl rfl) out _)
    · rw [DroopTerms.text, hs] at hsame
      exact absurd hsame (Decimal.plain_append_ne (Or.inr rfl) out _)

/-! ## Evaluation -/

theorem evaluate_eq_text_iff (hplain : PlainDigits text) :
    evaluate text = .text text ↔ ¬HasProduct text ∧ ¬HasDroop text := by
  constructor
  · intro h
    have hsame : productPass (droopPass text) = text := by
      unfold evaluate at h
      dsimp only at h
      split at h
      · cases h
      split at h
      · cases h
      · exact Leaf.text.inj h
    -- no star has been taken away, so the second pass has changed nothing, and neither has the first
    have hdroop := droopPass_count hplain
    obtain ⟨hle, heq⟩ := productPass_count (plainDigits_droopPass hplain)
    rw [hsame] at hle heq
    have hproduct := heq (Nat.le_antisymm hle hdroop)
    have hdrooped : droopPass text = text := (productPass_eq_self hproduct).symm.trans hsame
    rw [hdrooped] at hproduct
    exact ⟨hproduct, not_hasDroop_of_droopPass hplain hdrooped hproduct⟩
  · rintro ⟨hproduct, hdroop⟩
    have hdrooped : droopPass text = text := droopPass_eq_self fun D l r hD htext => by
      rw [htext] at hproduct hdroop
      by_cases hc : D.coefficient = none
      · exact hdroop (hD.hasDroop hc).append_right.append_left
      · exact hproduct (hD.hasProduct hc).append_right.append_left
    simp [evaluate, hdrooped, productPass_eq_self hproduct, promoted?]

end Leaf

open Formula

theorem Formula.plainDigits_of_ascii {text : List Char} (h : Json.Ascii text) : PlainDigits text := by
  intro c hc hdigit
  have hrange : ∀ n < 0x80, CharSet.holds CharSet.decimalDigit.ranges n = true → 48 ≤ n ∧ n ≤ 57 := by
    decide +kernel
  obtain ⟨hlow, hhigh⟩ := hrange _ (h c hc) hdigit
  simp only [Char.isDigit, Bool.and_eq_true, decide_eq_true_eq]
  exact ⟨UInt32.le_iff_toNat_le.mpr hlow, UInt32.le_iff_toNat_le.mpr hhigh⟩

/-- **A numeral**, alone or in a sentence without operators, keeps its text and is no number. -/
theorem evaluateText_of_no_operator {text : String} (hstar : '*' ∉ text.toList) (hplus : '+' ∉ text.toList)
    (hminus : '-' ∉ text.toList) (h : PlainDigits text.toList) : evaluateText text = .string text := by
  have := (Leaf.evaluate_eq_text_iff h).mpr ⟨not_hasProduct_of_star hstar, not_hasDroop_of_sign hplus hminus⟩
  rw [evaluateText, this, Leaf.toJson, String.ofList_toList]

/-- **Exactly the texts without arithmetic stay**: a text of ASCII is left as it is, and is no number, if and only
if there is neither a digit, a star and a digit in it nor 100, a sign and a digit. -/
theorem evaluateText_eq_string_iff (text : String) (h : Json.Ascii text.toList) :
    evaluateText text = .string text ↔ ¬HasProduct text.toList ∧ ¬HasDroop text.toList := by
  rw [← Leaf.evaluate_eq_text_iff (plainDigits_of_ascii h), evaluateText]
  cases Leaf.evaluate text.toList with
  | text chars =>
    simp only [Leaf.toJson, Json.string.injEq, Leaf.text.injEq]
    rw [← String.toList_inj, String.toList_ofList]
  | number x => simp [Leaf.toJson]

theorem evaluateText_eq_string_iff_small :
    (Json.Ascii "rated 12.5 kV".toList ∧ evaluateText "rated 12.5 kV" = .string "rated 12.5 kV") ∧
      Json.Ascii "2*3 MW".toList ∧ evaluateText "2*3 MW" ≠ .string "2*3 MW" := by
  have hrated : Json.Ascii "rated 12.5 kV".toList := Json.ascii_of_all (by decide)
  have hproduct : Json.Ascii "2*3 MW".toList := Json.ascii_of_all (by decide)
  refine ⟨⟨hrated, (evaluateText_eq_string_iff _ hrated).mpr ⟨?_, ?_⟩⟩, hproduct, fun h => ?_⟩
  · exact not_hasProduct_of_star (by decide)
  · exact not_hasDroop_of_sign (by decide) (by decide)
  · exact ((evaluateText_eq_string_iff _ hproduct).mp h).1 ⟨[], '2', '3', " MW".toList, by decide, by decide, by decide⟩

end SiteGen
