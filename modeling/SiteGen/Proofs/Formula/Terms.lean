import SiteGen.Formula.Evaluate
import SiteGen.Proofs.Regex.Spells

/-!
# The terms of a formula

* `Formula.DroopTerms`, `Formula.leads_droop`: the terms of a droop formula, and the matches they make.
* `Formula.ProductTerms`, `Formula.leads_product`: the same for products.
-/

namespace SiteGen.Formula

open Regex Position

variable {w u : List Char} {p q : Position}

/-! ## Parts -/

/-- Whether a text is made of **decimal digits**. -/
def IsDigits (w : List Char) : Prop := w ≠ [] ∧ ∀ c ∈ w, isDecimalDigit c = true

theorem spells_optDigits : optDigits.Spells w ↔ ∀ c ∈ w, isDecimalDigit c = true := by
  constructor
  · rintro (h | rfl)
    · exact h.2
    · rintro c ⟨⟩
  · intro h
    cases w with
    | nil => exact Or.inr rfl
    | cons c w => exact Or.inl ⟨List.cons_ne_nil _ _, h⟩

theorem spells_sign : sign.Spells w ↔ w = ['+'] ∨ w = ['-'] := by
  have hsign : ∀ c : Char, (CharSet.ofList ['+', '-']).contains c = true ↔ c = '+' ∨ c = '-' := fun c => by
    have h : CharSet.ofList ['+', '-'] = (CharSet.single '+').union (CharSet.single '-') := rfl
    rw [h, CharSet.contains_union, Bool.or_eq_true, CharSet.contains_single, CharSet.contains_single]
  constructor
  · rintro ⟨c, rfl, hc⟩
    rcases (hsign c).mp hc with rfl | rfl
    · exact Or.inl rfl
    · exact Or.inr rfl
  · rintro (rfl | rfl)
    · exact ⟨'+', rfl, by decide⟩
    · exact ⟨'-', rfl, by decide⟩

/-- A coefficient of a droop formula is digits with **any character** before the last of them. -/
theorem spells_droopCoefficient : droopCoefficient.Spells w ↔ ∃ l c m, w = l ++ c :: m ∧
    (∀ d ∈ l, isDecimalDigit d = true) ∧ c ≠ '\n' ∧ IsDigits m := by
  have hany : ∀ {v}, (Regex.set notLineFeed).Spells v ↔ ∃ c, v = [c] ∧ c ≠ '\n' := fun {v} => by
    constructor
    · rintro ⟨c, rfl, h⟩
      refine ⟨c, rfl, ?_⟩
      rintro rfl
      rw [notLineFeed, CharSet.contains_compl, Bool.not_eq_true'] at h
      rw [CharSet.contains_single.mpr rfl] at h
      cases h
    · rintro ⟨c, rfl, h⟩
      refine ⟨c, rfl, ?_⟩
      rw [notLineFeed, CharSet.contains_compl, Bool.not_eq_true', Bool.eq_false_iff]
      exact fun h' => h (CharSet.contains_single.mp h')
  constructor
  · rintro ⟨_, m, rfl, ⟨l, v, rfl, hl, hv⟩, hm⟩
    obtain ⟨c, rfl, hc⟩ := hany.mp hv
    exact ⟨l, c, m, by simp, spells_optDigits.mp hl, hc, hm⟩
  · rintro ⟨l, c, m, rfl, hl, hc, hm⟩
    exact ⟨l ++ [c], m, by simp, ⟨l, [c], rfl, spells_optDigits.mpr hl, hany.mpr ⟨c, rfl, hc⟩⟩, hm⟩

theorem spells_value : value.Spells w ↔ ∃ l m, w = l ++ m ∧ IsDigits l ∧
    (m = [] ∨ ∃ ds, m = '.' :: ds ∧ IsDigits ds) := by
  constructor
  · rintro ⟨l, m, rfl, hl, ⟨_, ds, rfl, hpoint, hds⟩ | rfl⟩
    · rw [spells_char.mp hpoint]
      exact ⟨l, _, rfl, hl, Or.inr ⟨ds, rfl, hds⟩⟩
    · exact ⟨l, [], rfl, hl, Or.inl rfl⟩
  · rintro ⟨l, m, rfl, hl, rfl | ⟨ds, rfl, hds⟩⟩
    · exact ⟨l, [], rfl, hl, Or.inr rfl⟩
    · exact ⟨l, _, rfl, hl, Or.inl ⟨['.'], ds, rfl, spells_char.mpr rfl, hds⟩⟩

theorem spells_productCoefficient : productCoefficient.Spells w ↔ ∃ s l m, w = s ++ (l ++ m) ∧
    (s = [] ∨ s = ['-']) ∧ (l = [] ∨ ∃ ds, l = ds ++ ['.'] ∧ ∀ d ∈ ds, isDecimalDigit d = true) ∧
    IsDigits m := by
  constructor
  · rintro ⟨_, m, rfl, ⟨s, l, rfl, hs, hl⟩, hm⟩
    refine ⟨s, l, m, List.append_assoc _ _ _, ?_, ?_, hm⟩
    · rcases hs with hs | rfl
      · exact Or.inr (spells_char.mp hs)
      · exact Or.inl rfl
    · rcases hl with ⟨ds, v, rfl, hds, hv⟩ | rfl
      · rw [spells_char.mp hv]
        exact Or.inr ⟨ds, rfl, spells_optDigits.mp hds⟩
      · exact Or.inl rfl
  · rintro ⟨s, l, m, rfl, hs, hl, hm⟩
    refine ⟨s ++ l, m, (List.append_assoc _ _ _).symm, ⟨s, l, rfl, ?_, ?_⟩, hm⟩
    · rcases hs with rfl | rfl
      · exact Or.inr rfl
      · exact Or.inl (spells_char.mpr rfl)
    · rcases hl with rfl | ⟨ds, rfl, hds⟩
      · exact Or.inr rfl
      · exact Or.inl ⟨ds, ['.'], rfl, spells_optDigits.mpr hds, spells_char.mpr rfl⟩

theorem IsDigits.exists_cons (h : IsDigits w) : ∃ d ds, w = d :: ds ∧ isDecimalDigit d = true := by
  obtain ⟨d, ds, rfl⟩ := List.exists_cons_of_ne_nil h.1
  exact ⟨d, ds, rfl, h.2 d List.mem_cons_self⟩

theorem IsDigits.exists_concat (h : IsDigits w) : ∃ ds d, w = ds ++ [d] ∧ isDecimalDigit d = true :=
  ⟨w.dropLast, w.getLast h.1, (List.dropLast_concat_getLast h.1).symm, h.2 _ (List.getLast_mem h.1)⟩

theorem exists_cons_of_value (h : value.Spells w) : ∃ d ds, w = d :: ds ∧ isDecimalDigit d = true := by
  obtain ⟨l, m, rfl, hl, -⟩ := spells_value.mp h
  obtain ⟨d, ds, rfl, hd⟩ := hl.exists_cons
  exact ⟨d, ds ++ m, rfl, hd⟩

theorem IsDigits.star_not_mem (h : IsDigits w) : '*' ∉ w := fun hstar => absurd (h.2 _ hstar) (by decide)

theorem mem_value (h : value.Spells w) {c : Char} (hc : c ∈ w) : isDecimalDigit c = true ∨ c = '.' := by
  obtain ⟨l, m, rfl, hl, hm⟩ := spells_value.mp h
  rcases List.mem_append.mp hc with hc | hc
  · exact Or.inl (hl.2 c hc)
  rcases hm with rfl | ⟨ds, rfl, hds⟩
  · cases hc
  · exact (List.mem_cons.mp hc).symm.imp_left (hds.2 c)

theorem mem_productCoefficient (h : productCoefficient.Spells w) {c : Char} (hc : c ∈ w) :
    isDecimalDigit c = true ∨ c = '.' ∨ c = '-' := by
  obtain ⟨s, l, m, rfl, hs, hl, hm⟩ := spells_productCoefficient.mp h
  rcases List.mem_append.mp hc with hc | hc
  · rcases hs with rfl | rfl
    · cases hc
    · exact Or.inr (Or.inr (List.mem_singleton.mp hc))
  rcases List.mem_append.mp hc with hc | hc
  · rcases hl with rfl | ⟨ds, rfl, hds⟩
    · cases hc
    · rcases List.mem_append.mp hc with hc | hc
      · exact Or.inl (hds c hc)
      · exact Or.inr (Or.inl (List.mem_singleton.mp hc))
  · exact Or.inl (hm.2 c hc)

theorem star_not_mem_value (h : value.Spells w) : '*' ∉ w := fun hstar => by
  rcases mem_value h hstar with h | h <;> exact absurd h (by decide)

theorem star_not_mem_productCoefficient (h : productCoefficient.Spells w) : '*' ∉ w := fun hstar => by
  rcases mem_productCoefficient h hstar with h | h | h <;> exact absurd h (by decide)

@[simp] theorem capture_text (w u : List Char) : Capture.text ⟨w ++ u, w.length⟩ = w := List.take_left

/-! ## A term with a star -/

/-- A coefficient with its star, if there is one. -/
def starred : Option (List Char) → List Char
  | some c => c ++ ['*']
  | none => []

/-- The coefficient, if there is one; `none` if it is not a numeral. -/
def coefficient? : Option (List Char) → Option (Option Float)
  | some c => (Decimal.read? c).map some
  | none => some none

/-- What a group for a coefficient records before `rest`. -/
def starredGroups (index : Nat) (rest : List Char) (groups : List (Nat × Capture)) :
    Option (List Char) → List (Nat × Capture)
  | some c => (index, ⟨c ++ '*' :: rest, c.length⟩) :: groups
  | none => groups

/-- The ways through a **coefficient** with its star. -/
theorem leads_coefficient {r : Regex} {index : Nat} (hr : r.isPlain = true) :
    Leads (sequence [.group index r, char '*']) p q ↔ ∃ c u, r.Spells c ∧ p.rest = c ++ '*' :: u ∧
      q = (p.past (c ++ ['*']) u).withGroups ((index, ⟨c ++ '*' :: u, c.length⟩) :: p.groups) := by
  constructor
  · intro h
    obtain ⟨m, hm, hstar⟩ := leads_seq_iff.mp h
    obtain ⟨c, t, hrest, hc, rfl⟩ := (leads_group_iff hr).mp hm
    obtain ⟨_, u, ht, hs, rfl⟩ := (leads_iff (by decide)).mp hstar
    obtain rfl := spells_char.mp hs
    simp only [withGroups_rest, past_rest] at ht
    subst ht
    exact ⟨c, u, hc, hrest, by simp⟩
  · rintro ⟨c, u, hc, hrest, rfl⟩
    refine leads_seq_iff.mpr ⟨_, (leads_group_iff hr).mpr ⟨c, _, hrest, hc, rfl⟩,
      (leads_iff (by decide)).mpr ⟨['*'], u, rfl, spells_char.mpr rfl, ?_⟩⟩
    simp

theorem leads_starred {r : Regex} {index : Nat} (hr : r.isPlain = true) :
    Leads (opt (sequence [.group index r, char '*']) true) p q ↔ ∃ (C : Option (List Char)) (u : List Char),
      (∀ c, C = some c → r.Spells c) ∧ p.rest = starred C ++ u ∧
        q = (p.past (starred C) u).withGroups (starredGroups index u p.groups C) := by
  rw [leads_opt_iff, leads_coefficient hr]
  constructor
  · rintro (⟨c, u, hc, hrest, rfl⟩ | rfl)
    · exact ⟨some c, u, fun d hd => Option.some.inj hd ▸ hc, by simp [starred, hrest], rfl⟩
    · exact ⟨none, p.rest, nofun, rfl, rfl⟩
  · rintro ⟨C, u, hC, hrest, rfl⟩
    cases C with
    | none =>
      obtain rfl : p.rest = u := hrest
      exact Or.inr rfl
    | some c => exact Or.inl ⟨c, u, hC c rfl, by simpa [starred] using hrest, rfl⟩

theorem lookup_starredGroups {index : Nat} {rest : List Char} {groups : List (Nat × Capture)}
    (h : groups.lookup index = none) (C : Option (List Char)) :
    ((starredGroups index rest groups C).lookup index).map Capture.text = C := by
  cases C with
  | none => rw [starredGroups, h]; rfl
  | some c => simp [starredGroups]

theorem lookup_starredGroups_of_ne {index j : Nat} (hj : j ≠ index) (rest : List Char)
    (groups : List (Nat × Capture)) (C : Option (List Char)) :
    (starredGroups index rest groups C).lookup j = groups.lookup j := by
  cases C with
  | none => rfl
  | some c => rw [starredGroups, List.lookup_cons, beq_false_of_ne hj]

/-! ## Products -/

/-- The **terms of a product** as they are written. -/
structure ProductTerms where
  /-- The coefficient. -/
  coefficient : Option (List Char)
  /-- The value. -/
  value : List Char

namespace ProductTerms

/-- The text of a product. -/
def text (P : ProductTerms) : List Char := starred P.coefficient ++ P.value

/-- Whether the terms are terms of a product. -/
structure Valid (P : ProductTerms) : Prop where
  coefficient : ∀ c, P.coefficient = some c → productCoefficient.Spells c
  value : Formula.value.Spells P.value

/-- What the groups have matched after a product, which stands before `rest`. -/
def groups (P : ProductTerms) (rest : List Char) (groups : List (Nat × Capture)) : List (Nat × Capture) :=
  (2, ⟨P.value ++ rest, P.value.length⟩) :: starredGroups 1 (P.value ++ rest) groups P.coefficient

/-- The product of the terms; `none` if the coefficient is not a numeral. -/
def product? (P : ProductTerms) : Option Product := do
  let coefficient ← coefficient? P.coefficient
  return { coefficient, value := P.value }

/-- The match of a product that stands before `rest`. -/
def found (P : ProductTerms) (rest : List Char) : Match := ⟨P.text, P.groups rest []⟩

/-- What the groups have captured **are the terms**. -/
theorem group?_found (P : ProductTerms) (rest : List Char) :
    (P.found rest).group? 1 = P.coefficient ∧ (P.found rest).group? 2 = some P.value :=
  ⟨lookup_starredGroups rfl P.coefficient, by simp [Match.group?, found, groups]⟩

theorem ofMatch?_eq (P : ProductTerms) (rest : List Char) :
    Product.ofMatch? ⟨P.text, P.groups rest []⟩ = P.product? := by
  obtain ⟨h₁, h₂⟩ := P.group?_found rest
  rw [← found, Product.ofMatch?, h₁, h₂, product?]
  cases P.coefficient <;> rfl

end ProductTerms

/-- The ways through a **product**. -/
theorem leads_product : Leads product p q ↔ ∃ (P : ProductTerms) (u : List Char), P.Valid ∧
    p.rest = P.text ++ u ∧ q = (p.past P.text u).withGroups (P.groups u p.groups) := by
  constructor
  · intro h
    obtain ⟨m, hm, hq⟩ := leads_seq_iff.mp h
    obtain ⟨C, t, hC, hrest, rfl⟩ := (leads_starred (by decide)).mp hm
    obtain ⟨v, u, rfl, hv, rfl⟩ := (leads_group_iff (by decide)).mp hq
    exact ⟨⟨C, v⟩, u, ⟨hC, hv⟩, by rw [hrest, ProductTerms.text, List.append_assoc],
      by simp [ProductTerms.text, ProductTerms.groups]⟩
  · rintro ⟨⟨C, v⟩, u, ⟨hC, hv⟩, hrest, rfl⟩
    rw [ProductTerms.text, List.append_assoc] at hrest
    refine leads_seq_iff.mpr ⟨_, (leads_starred (by decide)).mpr ⟨C, _, hC, hrest, rfl⟩,
      (leads_group_iff (by decide)).mpr ⟨v, u, rfl, hv, ?_⟩⟩
    simp [ProductTerms.text, ProductTerms.groups]

/-! ## Droop formulas -/

/-- The **voltage term** of a droop formula as it is written: a voltage, a sign and a deadband. -/
structure VoltageTerm where
  /-- The voltage. -/
  voltage : List Char
  /-- The sign of the deadband. -/
  sign : List Char
  /-- The deadband. -/
  deadband : List Char

namespace VoltageTerm

/-- The text of a voltage term. -/
def text (V : VoltageTerm) : List Char := ['*', '('] ++ (V.voltage ++ (V.sign ++ (V.deadband ++ [')'])))

/-- Whether the parts are parts of a voltage term. -/
structure Valid (V : VoltageTerm) : Prop where
  voltage : IsDigits V.voltage
  sign : V.sign = ['+'] ∨ V.sign = ['-']
  deadband : IsDigits V.deadband

/-- The voltage, the sign and the deadband; `none` if one of them is not a numeral. -/
def read? (V : VoltageTerm) : Option (Float × Sign × Float) := do
  let voltage ← Decimal.read? V.voltage
  let deadband ← Decimal.read? V.deadband
  return (voltage, Sign.ofText V.sign, deadband)

/-- What the groups have matched after a voltage term. -/
def groups (V : VoltageTerm) (rest : List Char) (groups : List (Nat × Capture)) : List (Nat × Capture) :=
  (6, ⟨V.deadband ++ (')' :: rest), V.deadband.length⟩) ::
    (5, ⟨V.sign ++ (V.deadband ++ (')' :: rest)), V.sign.length⟩) ::
    (4, ⟨V.voltage ++ (V.sign ++ (V.deadband ++ (')' :: rest))), V.voltage.length⟩) :: groups

end VoltageTerm

/-- The voltage term, if there is one; `none` if one of its numbers is not a numeral. -/
def voltage? : Option VoltageTerm → Option (Option (Float × Sign × Float))
  | some V => V.read?.map some
  | none => some none

/-- The text of a voltage term, if there is one. -/
def voltageText : Option VoltageTerm → List Char
  | some V => V.text
  | none => []

/-- What the groups have matched after a voltage term, if there is one. -/
def voltageGroups (rest : List Char) (groups : List (Nat × Capture)) :
    Option VoltageTerm → List (Nat × Capture)
  | some V => V.groups rest groups
  | none => groups

/-- The voltage term. -/
def voltageTerm : Regex :=
  sequence [Regex.text ['*', '('], .group 4 digits, .group 5 sign, .group 6 digits, char ')']

/-- The optional voltage term. -/
def voltage : Regex := opt voltageTerm true

/-- The ways through a **voltage term**. -/
theorem leads_voltageTerm : Leads voltageTerm p q ↔ ∃ (V : VoltageTerm) (u : List Char), V.Valid ∧
    p.rest = V.text ++ u ∧ q = (p.past V.text u).withGroups (V.groups u p.groups) := by
  constructor
  · intro h
    obtain ⟨m₄, h, h₅⟩ := leads_seq_iff.mp h
    obtain ⟨m₃, h, h₄⟩ := leads_seq_iff.mp h
    obtain ⟨m₂, h, h₃⟩ := leads_seq_iff.mp h
    obtain ⟨m₁, h₁, h₂⟩ := leads_seq_iff.mp h
    obtain ⟨_, t₁, hr₁, hs₁, rfl⟩ := (leads_iff (by decide)).mp h₁
    obtain rfl := spells_text.mp hs₁
    obtain ⟨v, t₂, hr₂, hv, rfl⟩ := (leads_group_iff (by decide)).mp h₂
    obtain ⟨s, t₃, hr₃, hs, rfl⟩ := (leads_group_iff (by decide)).mp h₃
    obtain ⟨d, t₄, hr₄, hd, rfl⟩ := (leads_group_iff (by decide)).mp h₄
    obtain ⟨_, u, hr₅, hs₅, rfl⟩ := (leads_iff (by decide)).mp h₅
    obtain rfl := spells_char.mp hs₅
    simp only [withGroups_rest, past_rest] at hr₂ hr₃ hr₄ hr₅
    subst hr₂ hr₃ hr₄ hr₅
    refine ⟨⟨v, s, d⟩, u, ⟨hv, spells_sign.mp hs, hd⟩, ?_, ?_⟩
    · simp [VoltageTerm.text, hr₁]
    · simp [VoltageTerm.text, VoltageTerm.groups]
  · rintro ⟨V, u, ⟨hv, hs, hd⟩, hrest, rfl⟩
    have hrest' : p.rest = ['*', '('] ++ (V.voltage ++ (V.sign ++ (V.deadband ++ (')' :: u)))) := by
      simpa [VoltageTerm.text] using hrest
    refine leads_seq_iff.mpr ⟨_, leads_seq_iff.mpr ⟨_, leads_seq_iff.mpr ⟨_,
      leads_seq_iff.mpr ⟨_, (leads_iff (by decide)).mpr ⟨_, _, hrest', spells_text.mpr rfl, rfl⟩,
      (leads_group_iff (by decide)).mpr ⟨V.voltage, _, rfl, hv, rfl⟩⟩,
      (leads_group_iff (by decide)).mpr ⟨V.sign, _, rfl, spells_sign.mpr hs, rfl⟩⟩,
      (leads_group_iff (by decide)).mpr ⟨V.deadband, _, rfl, hd, rfl⟩⟩,
      (leads_iff (by decide)).mpr ⟨[')'], u, rfl, spells_char.mpr rfl, ?_⟩⟩
    simp [VoltageTerm.text, VoltageTerm.groups]

theorem leads_voltage : Leads voltage p q ↔ ∃ (V : Option VoltageTerm) (u : List Char),
    (∀ v, V = some v → v.Valid) ∧ p.rest = voltageText V ++ u ∧
      q = (p.past (voltageText V) u).withGroups (voltageGroups u p.groups V) := by
  rw [voltage, leads_opt_iff, leads_voltageTerm]
  constructor
  · rintro (⟨V, u, hV, hrest, rfl⟩ | rfl)
    · exact ⟨some V, u, fun v hv => Option.some.inj hv ▸ hV, hrest, rfl⟩
    · exact ⟨none, p.rest, nofun, rfl, rfl⟩
  · rintro ⟨V, u, hV, hrest, rfl⟩
    cases V with
    | none =>
      obtain rfl : p.rest = u := hrest
      exact Or.inr rfl
    | some V => exact Or.inl ⟨V, u, hV V rfl, hrest, rfl⟩

/-- The **terms of a droop formula** as they are written. -/
structure DroopTerms where
  /-- The sign after the 100. -/
  sign : List Char
  /-- The coefficient of the percentage. -/
  coefficient : Option (List Char)
  /-- The percentage. -/
  percent : List Char
  /-- The voltage term. -/
  voltage : Option VoltageTerm

namespace DroopTerms

/-- The text of a droop formula. -/
def text (D : DroopTerms) : List Char :=
  ['1', '0', '0'] ++ (D.sign ++ (starred D.coefficient ++ (D.percent ++ voltageText D.voltage)))

/-- Whether the terms are terms of a droop formula. -/
structure Valid (D : DroopTerms) : Prop where
  sign : D.sign = ['+'] ∨ D.sign = ['-']
  coefficient : ∀ c, D.coefficient = some c → droopCoefficient.Spells c
  percent : IsDigits D.percent
  voltage : ∀ V, D.voltage = some V → V.Valid

/-- What the groups have matched after a droop formula, which stands before `rest`. -/
def groups (D : DroopTerms) (rest : List Char) (groups : List (Nat × Capture)) : List (Nat × Capture) :=
  let percentRest := D.percent ++ (voltageText D.voltage ++ rest)
  voltageGroups rest ((3, ⟨percentRest, D.percent.length⟩) ::
    starredGroups 2 percentRest ((1, ⟨D.sign ++ (starred D.coefficient ++ percentRest), D.sign.length⟩) :: groups)
      D.coefficient) D.voltage

/-- The formula of the terms; `none` if one of them is not a numeral. -/
def droop? (D : DroopTerms) : Option Droop := do
  let coefficient ← coefficient? D.coefficient
  let percent ← Decimal.read? D.percent
  let voltage ← voltage? D.voltage
  return { sign := Sign.ofText D.sign, coefficient, percent, voltage }

/-- The match of a droop formula that stands before `rest`. -/
def found (D : DroopTerms) (rest : List Char) : Match := ⟨D.text, D.groups rest []⟩

/-- What the groups have captured **are the terms**. -/
theorem group?_found (D : DroopTerms) (rest : List Char) :
    (D.found rest).group? 1 = some D.sign ∧ (D.found rest).group? 2 = D.coefficient ∧
      (D.found rest).group? 3 = some D.percent ∧ (D.found rest).group? 4 = D.voltage.map VoltageTerm.voltage ∧
      (D.found rest).group? 5 = D.voltage.map VoltageTerm.sign ∧
      (D.found rest).group? 6 = D.voltage.map VoltageTerm.deadband := by
  obtain ⟨s, C, d, V⟩ := D
  obtain ⟨gs, hgs⟩ : ∃ gs, gs = starredGroups 2 (d ++ (voltageText V ++ rest))
      [(1, ⟨s ++ (starred C ++ (d ++ (voltageText V ++ rest))), s.length⟩)] C := ⟨_, rfl⟩
  have h₁ : (gs.lookup 1).map Capture.text = some s := by
    rw [hgs, lookup_starredGroups_of_ne (by decide)]
    simp
  have h₂ : (gs.lookup 2).map Capture.text = C := by
    rw [hgs]
    exact lookup_starredGroups rfl C
  have hlater : ∀ i, i ≠ 1 → i ≠ 2 → gs.lookup i = none := fun i h h' => by
    rw [hgs, lookup_starredGroups_of_ne h', List.lookup_cons, beq_false_of_ne h]
    rfl
  have hfound : found ⟨s, C, d, V⟩ rest =
      ⟨text ⟨s, C, d, V⟩, voltageGroups rest ((3, ⟨d ++ (voltageText V ++ rest), d.length⟩) :: gs) V⟩ := by
    rw [hgs]
    rfl
  rw [hfound]
  clear hgs hfound
  cases V with
  | none => simp [Match.group?, voltageGroups, List.lookup_cons, h₁, h₂, hlater]
  | some V => simp [Match.group?, voltageGroups, VoltageTerm.groups, List.lookup_cons, h₁, h₂]

theorem ofMatch?_eq (D : DroopTerms) (rest : List Char) :
    Droop.ofMatch? ⟨D.text, D.groups rest []⟩ = D.droop? := by
  obtain ⟨h₁, h₂, h₃, h₄, h₅, h₆⟩ := D.group?_found rest
  obtain ⟨s, C, d, V⟩ := D
  have hvoltage : Droop.voltage? (found ⟨s, C, d, V⟩ rest) = Formula.voltage? V := by
    rw [Droop.voltage?, h₄, h₅, h₆]
    cases V with
    | none => rfl
    | some V =>
      simp only [Option.map_some, Formula.voltage?, VoltageTerm.read?]
      cases Decimal.read? V.voltage <;> cases Decimal.read? V.deadband <;> rfl
  rw [← found, Droop.ofMatch?, h₁, h₂, h₃, hvoltage, droop?]
  cases C <;> rfl

end DroopTerms

/-- The ways through a **droop formula**. -/
theorem leads_droop : Leads droop p q ↔ ∃ (D : DroopTerms) (u : List Char), D.Valid ∧
    p.rest = D.text ++ u ∧ q = (p.past D.text u).withGroups (D.groups u p.groups) := by
  constructor
  · intro h
    obtain ⟨m₄, h, h₅⟩ := leads_seq_iff.mp h
    obtain ⟨m₃, h, h₄⟩ := leads_seq_iff.mp h
    obtain ⟨m₂, h, h₃⟩ := leads_seq_iff.mp h
    obtain ⟨m₁, h₁, h₂⟩ := leads_seq_iff.mp h
    obtain ⟨_, t₁, hr₁, hs₁, rfl⟩ := (leads_iff (by decide)).mp h₁
    obtain rfl := spells_text.mp hs₁
    obtain ⟨s, t₂, hr₂, hs, rfl⟩ := (leads_group_iff (by decide)).mp h₂
    obtain ⟨C, t₃, hC, hr₃, rfl⟩ := (leads_starred (by decide)).mp h₃
    obtain ⟨d, t₄, hr₄, hd, rfl⟩ := (leads_group_iff (by decide)).mp h₄
    obtain ⟨V, u, hV, hr₅, rfl⟩ := leads_voltage.mp h₅
    simp only [withGroups_rest, past_rest] at hr₂ hr₃ hr₄ hr₅
    subst hr₂ hr₃ hr₄ hr₅
    refine ⟨⟨s, C, d, V⟩, u, ⟨spells_sign.mp hs, hC, hd, hV⟩, ?_, ?_⟩
    · simp [DroopTerms.text, hr₁]
    · simp [DroopTerms.text, DroopTerms.groups]
  · rintro ⟨⟨s, C, d, V⟩, u, ⟨hs, hC, hd, hV⟩, hrest, rfl⟩
    have hrest' : p.rest = ['1', '0', '0'] ++ (s ++ (starred C ++ (d ++ (voltageText V ++ u)))) := by
      simpa [DroopTerms.text] using hrest
    refine leads_seq_iff.mpr ⟨_, leads_seq_iff.mpr ⟨_, leads_seq_iff.mpr ⟨_, leads_seq_iff.mpr ⟨_,
      (leads_iff (by decide)).mpr ⟨_, _, hrest', spells_text.mpr rfl, rfl⟩,
      (leads_group_iff (by decide)).mpr ⟨s, _, rfl, spells_sign.mpr hs, rfl⟩⟩,
      (leads_starred (by decide)).mpr ⟨C, _, hC, rfl, rfl⟩⟩,
      (leads_group_iff (by decide)).mpr ⟨d, _, rfl, hd, rfl⟩⟩,
      leads_voltage.mpr ⟨V, u, hV, rfl, ?_⟩⟩
    simp [DroopTerms.text, DroopTerms.groups]

end SiteGen.Formula
