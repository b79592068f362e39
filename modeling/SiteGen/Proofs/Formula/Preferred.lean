import SiteGen.Proofs.Formula.Terms

/-!
# Preferred matches

* `Formula.DroopTerms.Preferred`, `Formula.droop_firstEnd?_preferred`: the droop formula that is found
  where several could be.
* `Formula.product_firstEnd?_starred`: the product that is found before a text without digits.
-/

namespace SiteGen.Formula

open Regex Position

variable {p : Position} {before : Option Char} {rest c v w : List Char}

/-! ## Digits and stars -/

/-- Whether a text has **no decimal digit**. -/
def Digitless (text : List Char) : Prop := ∀ c ∈ text, isDecimalDigit c = false

theorem Digitless.head? (h : Digitless w) : ∀ c ∈ w.head?, isDecimalDigit c = false :=
  fun c hc => h c (List.mem_of_mem_head? hc)

/-- Whether **no digit comes after a star** in a text. -/
def Starless (text : List Char) : Prop := ∀ l d r, text = l ++ '*' :: d :: r → isDecimalDigit d = false

theorem Digitless.starless (h : Digitless w) : Starless w := by
  rintro l d r rfl
  exact h d (by simp)

theorem Starless.append {l r : List Char} (hl : '*' ∉ l) (hr : Starless r) : Starless (l ++ r) := by
  intro l' d r' h
  rcases List.append_eq_append_iff.mp h with ⟨m, -, hm⟩ | ⟨m, hm, hrest⟩
  · exact hr m d r' hm
  · cases m with
    | nil => exact hr [] d r' hrest.symm
    | cons e m =>
      rw [(List.cons.inj hrest).1] at hl
      exact absurd (by rw [hm]; simp) hl

/-- The star **before a digit** is where it is written if there is no other. -/
theorem Starless.eq {t u : List Char} {d : Char} (hw : '*' ∉ w) (ht : Starless t)
    (hd : isDecimalDigit d = true) (h : w ++ '*' :: t = c ++ '*' :: d :: u) : c = w := by
  rcases List.append_eq_append_iff.mp h with ⟨m, hm, hrest⟩ | ⟨m, hm, hrest⟩
  · cases m with
    | nil => simpa using hm
    | cons e m =>
      have := ht m d u (List.cons.inj hrest).2
      rw [hd] at this
      cases this
  · cases m with
    | nil => simpa using hm.symm
    | cons e m =>
      rw [← (List.cons.inj hrest).1] at hm
      exact absurd (by rw [hm]; simp) hw

/-- **Two runs of digits** are the same if something else comes after them. -/
theorem IsDigits.append_inj {w' u u' : List Char} (h : IsDigits w) (h' : IsDigits w')
    (hu : ∀ c ∈ u.head?, isDecimalDigit c = false) (hu' : ∀ c ∈ u'.head?, isDecimalDigit c = false)
    (heq : w ++ u = w' ++ u') : w = w' ∧ u = u' := by
  have htake : ∀ {w u : List Char}, IsDigits w → (∀ c ∈ u.head?, isDecimalDigit c = false) →
      (w ++ u).takeWhile isDecimalDigit = w := fun {w u} h hu => by
    rw [List.takeWhile_append_of_pos h.2]
    cases u with
    | nil => simp
    | cons c u => simp [hu c rfl]
  obtain rfl : w = w' := by rw [← htake h hu, heq, htake h' hu']
  exact ⟨rfl, List.append_cancel_left heq⟩

/-! ## Droop formulas -/

/-- Whether terms are **preferred** before `rest`: a coefficient is there if there can be one, and it is the
only one, the percentage goes on to its last digit, and the voltage term is there if there can be one. -/
structure DroopTerms.Preferred (D : DroopTerms) (rest : List Char) : Prop where
  coefficient : ∀ c d u, droopCoefficient.Spells c → isDecimalDigit d = true →
    starred D.coefficient ++ (D.percent ++ (voltageText D.voltage ++ rest)) = c ++ '*' :: d :: u →
      D.coefficient = some c
  percent : ∀ c ∈ (voltageText D.voltage ++ rest).head?, isDecimalDigit c = false
  voltage : ∀ V u, V.Valid → voltageText D.voltage ++ rest = V.text ++ u → D.voltage = some V

theorem search_voltage {V : Option VoltageTerm} (hV : ∀ v, V = some v → v.Valid)
    (honly : ∀ v u, v.Valid → voltageText V ++ rest = v.text ++ u → V = some v)
    (hrest : p.rest = voltageText V ++ rest) :
    voltage.search some p = some ((p.past (voltageText V) rest).withGroups (voltageGroups rest p.groups V)) := by
  refine Option.or_eq_some_iff.mpr ?_
  cases V with
  | none =>
    obtain rfl : p.rest = rest := hrest
    refine Or.inr ⟨search_eq_none (by decide) fun q hq => ?_, rfl⟩
    obtain ⟨v, u, hv, hvu, -⟩ := leads_voltageTerm.mp hq
    cases honly v u hv hvu
  | some V =>
    refine Or.inl (search_of_only (by decide) (leads_voltageTerm.mpr ⟨V, rest, hV V rfl, hrest, rfl⟩) rfl ?_)
    intro q hq _
    obtain ⟨v, u, hv, hvu, rfl⟩ := leads_voltageTerm.mp hq
    rw [hrest] at hvu
    obtain rfl := Option.some.inj (honly v u hv hvu)
    obtain rfl := List.append_cancel_left hvu
    rfl

/-- The search for the **percentage** and what comes after it. -/
theorem search_percent {D : DroopTerms} (hD : D.Valid) (h : D.Preferred rest)
    (hrest : p.rest = D.percent ++ (voltageText D.voltage ++ rest)) :
    (Regex.group 3 digits).search (voltage.search some) p =
      some ((p.past (D.percent ++ voltageText D.voltage) rest).withGroups (voltageGroups rest
        ((3, ⟨D.percent ++ (voltageText D.voltage ++ rest), D.percent.length⟩) :: p.groups) D.voltage)) := by
  refine search_group_run hrest hD.percent.1 hD.percent.2 h.percent ?_
  rw [search_voltage hD.voltage h.voltage rfl]
  simp

theorem exists_of_search_percent {α : Type} {k : Position → Option α}
    (h : ((Regex.group 3 digits).search k p).isSome = true) : ∃ d u, p.rest = d :: u ∧ isDecimalDigit d = true := by
  obtain ⟨q, hq, -⟩ := (isSome_search_iff (by decide)).mp h
  obtain ⟨w, u, hrest, ⟨hne, hw⟩, -⟩ := (leads_group_iff (by decide)).mp hq
  obtain ⟨d, ds, rfl⟩ := List.exists_cons_of_ne_nil hne
  exact ⟨d, ds ++ u, hrest, hw d List.mem_cons_self⟩

/-- The search for the **coefficient** and what comes after it. -/
theorem search_coefficient {D : DroopTerms} (hD : D.Valid) (h : D.Preferred rest)
    (hrest : p.rest = starred D.coefficient ++ (D.percent ++ (voltageText D.voltage ++ rest))) :
    (opt (sequence [.group 2 droopCoefficient, char '*']) true).search
        ((Regex.group 3 digits).search (voltage.search some)) p =
      some ((p.past (starred D.coefficient ++ (D.percent ++ voltageText D.voltage)) rest).withGroups
        (voltageGroups rest ((3, ⟨D.percent ++ (voltageText D.voltage ++ rest), D.percent.length⟩) ::
          starredGroups 2 (D.percent ++ (voltageText D.voltage ++ rest)) p.groups D.coefficient) D.voltage)) := by
  -- a way past a coefficient goes on only if a digit follows, so there is at most one
  have honly : ∀ q, Leads (sequence [.group 2 droopCoefficient, char '*']) p q →
      ((Regex.group 3 digits).search (voltage.search some) q).isSome = true → ∃ c, D.coefficient = some c ∧
        q = (p.past (c ++ ['*']) (D.percent ++ (voltageText D.voltage ++ rest))).withGroups
          (starredGroups 2 (D.percent ++ (voltageText D.voltage ++ rest)) p.groups D.coefficient) := by
    intro q hq hsome
    obtain ⟨c, u, hc, hcu, rfl⟩ := (leads_coefficient (by decide)).mp hq
    obtain ⟨d, t, rfl, hd⟩ := exists_of_search_percent hsome
    have hD := h.coefficient c d t hc hd (hrest.symm.trans hcu)
    rw [hrest, hD, starred, List.append_assoc] at hcu
    have hu := (List.cons.inj (List.append_cancel_left hcu)).2
    refine ⟨c, hD, ?_⟩
    rw [hD, ← hu]
    rfl
  refine Option.or_eq_some_iff.mpr ?_
  cases hC : D.coefficient with
  | none =>
    rw [hC] at hrest
    refine Or.inr ⟨search_eq_none (by decide) fun q hq => ?_, ?_⟩
    · rw [← Option.isNone_iff_eq_none, ← Option.not_isSome, Bool.not_eq_true', Bool.eq_false_iff]
      intro hsome
      obtain ⟨c, hc, -⟩ := honly q hq hsome
      rw [hC] at hc
      cases hc
    · exact search_percent hD h hrest
  | some C =>
    rw [hC] at hrest
    have hleads : Leads (sequence [.group 2 droopCoefficient, char '*']) p _ := (leads_coefficient (by decide)).mpr
      ⟨C, D.percent ++ (voltageText D.voltage ++ rest), hD.coefficient C hC, by simpa [starred] using hrest, rfl⟩
    refine Or.inl (search_of_only (by decide) hleads ?_ fun q hq hsome => ?_)
    · rw [search_percent hD h rfl]
      simp [starred, starredGroups]
    · obtain ⟨c, hc, rfl⟩ := honly q hq hsome
      obtain rfl := Option.some.inj (hC.symm.trans hc)
      rw [hC]
      rfl

theorem droop_eq : droop = .seq (.seq (.seq (.seq (Regex.text ['1', '0', '0']) (.group 1 sign))
    (opt (sequence [.group 2 droopCoefficient, char '*']) true)) (.group 3 digits)) voltage := rfl

/-- **The preferred droop formula** is found. -/
theorem droop_firstEnd?_preferred {D : DroopTerms} (hD : D.Valid) (h : D.Preferred rest) :
    droop.firstEnd? before (D.text ++ rest) =
      some (((⟨0, before, D.text ++ rest, []⟩ : Position).past D.text rest).withGroups (D.groups rest [])) := by
  rw [firstEnd?_eq_search (by decide)]
  obtain ⟨u, hu⟩ : ∃ u, u = starred D.coefficient ++ (D.percent ++ (voltageText D.voltage ++ rest)) := ⟨_, rfl⟩
  have htext : D.text ++ rest = ['1', '0', '0'] ++ (D.sign ++ u) := by simp [DroopTerms.text, hu]
  have hsign : D.sign.length = 1 := by rcases hD.sign with h | h <;> rw [h] <;> rfl
  rw [droop_eq, search_seq, search_seq, search_seq, search_seq]
  refine search_of_only (by decide)
    ((leads_iff (by decide)).mpr ⟨_, D.sign ++ u, htext, spells_text.mpr rfl, rfl⟩) ?_ fun q hq _ => ?_
  · refine search_of_only (by decide)
      ((leads_group_iff (by decide)).mpr ⟨D.sign, u, rfl, spells_sign.mpr hD.sign, rfl⟩) ?_ fun q hq _ => ?_
    · refine (search_coefficient hD h hu).trans ?_
      simp [DroopTerms.text, DroopTerms.groups, hu]
    · obtain ⟨s, t, hst, hs, rfl⟩ := (leads_group_iff (by decide)).mp hq
      have hlength : D.sign.length = s.length := by
        rcases spells_sign.mp hs with h | h <;> rw [h, hsign] <;> rfl
      obtain ⟨rfl, rfl⟩ := List.append_inj hst hlength
      rfl
  · obtain ⟨w, t, hwt, hw, rfl⟩ := (leads_iff (by decide)).mp hq
    obtain rfl := spells_text.mp hw
    obtain rfl := List.append_cancel_left (htext.symm.trans hwt)
    rfl

/-! ## Products -/

theorem search_value (hv : value.Spells v) (hrest : p.rest = v ++ rest) (hdigitless : Digitless rest) :
    (Regex.group 2 value).search some p =
      some ((p.past v rest).withGroups ((2, ⟨v ++ rest, v.length⟩) :: p.groups)) := by
  obtain ⟨l, m, rfl, hl, hm⟩ := spells_value.mp hv
  have hhead : ∀ c ∈ (m ++ rest).head?, isDecimalDigit c = false := by
    rcases hm with rfl | ⟨ds, rfl, -⟩
    · exact hdigitless.head?
    · rintro c ⟨⟩
      decide
  rw [List.append_assoc] at hrest
  refine search_run hrest hl.1 hl.2 hhead (Option.or_eq_some_iff.mpr ?_)
  rcases hm with rfl | ⟨ds, rfl, hds⟩
  · refine Or.inr ⟨search_eq_none (by decide) fun q hq => ?_, ?_⟩
    · obtain ⟨w, u, hwu, ⟨_, ds, rfl, -, hne, hds⟩, -⟩ := (leads_iff (by decide)).mp hq
      obtain ⟨d, ds, rfl⟩ := List.exists_cons_of_ne_nil hne
      have hd := hdigitless d (by rw [show rest = _ from hwu]; simp)
      rw [show isDecimalDigit d = true from hds d List.mem_cons_self] at hd
      cases hd
    · show some (Position.withGroups _ _) = _
      simp [hrest]
  · refine Or.inl ?_
    rw [show sequence [char '.', digits] = .seq (char '.') digits from rfl, search_seq]
    refine (search_of_only (by decide)
      ((leads_iff (by decide)).mpr ⟨['.'], ds ++ rest, rfl, spells_char.mpr rfl, rfl⟩) ?_ fun q hq _ => ?_)
    · refine search_run rfl hds.1 hds.2 hdigitless.head? ?_
      simp [hrest, Position.withGroups]
    · obtain ⟨w, t, hwt, hw, rfl⟩ := (leads_iff (by decide)).mp hq
      obtain rfl := spells_char.mp hw
      obtain rfl := (List.cons.inj hwt).2
      rfl

/-- **A product with a coefficient** is found if no digit comes after it. -/
theorem product_firstEnd?_starred {P : ProductTerms} (hP : P.Valid) (hc : P.coefficient = some c)
    (hdigitless : Digitless rest) : product.firstEnd? before (P.text ++ rest) =
      some (((⟨0, before, P.text ++ rest, []⟩ : Position).past P.text rest).withGroups (P.groups rest [])) := by
  obtain ⟨C, v⟩ := P
  obtain rfl : C = some c := hc
  have hcoefficient : productCoefficient.Spells c := hP.coefficient c rfl
  have htext : ProductTerms.text ⟨some c, v⟩ ++ rest = c ++ '*' :: (v ++ rest) := by
    simp [ProductTerms.text, starred]
  rw [firstEnd?_eq_search (by decide)]
  refine Option.or_eq_some_iff.mpr (Or.inl (search_of_only (r := sequence [.group 1 productCoefficient, char '*'])
    (by decide) ((leads_coefficient (by decide)).mpr ⟨c, v ++ rest, hcoefficient, htext, rfl⟩) ?_
    fun q hq hsome => ?_))
  · rw [search_value hP.value rfl hdigitless]
    simp [ProductTerms.text, ProductTerms.groups, starred, starredGroups]
  · -- the value begins with a digit, so the coefficient ends where it should
    obtain ⟨c', u, hc', hcu, rfl⟩ := (leads_coefficient (by decide)).mp hq
    obtain ⟨q, hq, -⟩ := (isSome_search_iff (by decide)).mp hsome
    obtain ⟨w, t, rfl, hw, -⟩ := (leads_group_iff (by decide)).mp hq
    obtain ⟨d, ds, rfl, hd⟩ := exists_cons_of_value hw
    have heq : c ++ '*' :: (v ++ rest) = c' ++ '*' :: d :: (ds ++ t) := htext.symm.trans hcu
    obtain rfl := (hdigitless.starless.append (star_not_mem_value hP.value)).eq
      (star_not_mem_productCoefficient hcoefficient) hd heq
    have hu := (List.cons.inj (List.append_cancel_left heq)).2
    rw [hu]
    rfl

end SiteGen.Formula
