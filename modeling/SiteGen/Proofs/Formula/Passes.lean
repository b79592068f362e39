import SiteGen.Proofs.Decimal.ReadBack
import SiteGen.Proofs.Formula.Numerals
import SiteGen.Proofs.Regex.Rewrites

/-!
# The two passes

* `Formula.droop_firstEnd?`, `Formula.product_firstEnd?`: the match that is found at a place.
* `Leaf.droopPass_induction`, `Leaf.productPass_induction`: the passes replace one formula after the other.
-/

namespace SiteGen

namespace Formula

open Regex Position

variable {before : Option Char} {rest w u : List Char} {q : Position}

/-! ## Matches -/

theorem firstEnd?_leads {r : Regex} (hr : r.loopFree = true) (h : r.firstEnd? before rest = some q) :
    Leads r ⟨0, before, rest, []⟩ q :=
  leads_of_mem_ends hr (List.mem_of_mem_head? h)

theorem firstEnd?_isSome {r : Regex} (hr : r.loopFree = true) (h : Leads r ⟨0, before, rest, []⟩ q) :
    (r.firstEnd? before rest).isSome = true := by
  rw [firstEnd?_eq_search hr]
  exact isSome_search h rfl

theorem DroopTerms.Valid.ne_nil {D : DroopTerms} (_ : D.Valid) : D.text ≠ [] := by
  simp [DroopTerms.text]

theorem ProductTerms.Valid.ne_nil {P : ProductTerms} (h : P.Valid) : P.text ≠ [] := by
  obtain ⟨l, m, hl, ⟨hne, -⟩, -⟩ := spells_value.mp h.value
  simp [ProductTerms.text, hl, hne]

/-- What is written for **a droop formula**: its value, or the formula itself if it has none. -/
def DroopTerms.written (D : DroopTerms) : List Char :=
  match D.droop? with
  | some d => (Decimal.plain d.value).toList
  | none => D.text

/-- What is written for **a product**. -/
def ProductTerms.written (P : ProductTerms) : List Char :=
  match P.product? with
  | some p => p.text
  | none => P.text

theorem DroopTerms.rewrite_eq (D : DroopTerms) (rest : List Char) :
    Droop.rewrite ⟨D.text, D.groups rest []⟩ = D.written := by
  rw [Droop.rewrite, D.ofMatch?_eq]
  rfl

theorem ProductTerms.rewrite_eq (P : ProductTerms) (rest : List Char) :
    Product.rewrite ⟨P.text, P.groups rest []⟩ = P.written := by
  rw [Product.rewrite, P.ofMatch?_eq]
  rfl

/-- **A droop formula** is found where its terms stand. -/
theorem droop_firstEnd? (h : droop.firstEnd? before rest = some q) :
    ∃ D : DroopTerms, D.Valid ∧ rest = D.text ++ q.rest ∧ q.taken = D.text.length ∧
      q.groups = D.groups q.rest [] := by
  obtain ⟨D, u, hD, hrest, rfl⟩ := leads_droop.mp (firstEnd?_leads (by decide) h)
  exact ⟨D, hD, hrest, Nat.zero_add _, rfl⟩

theorem droop_firstEnd?_none (h : droop.firstEnd? before rest = none) {D : DroopTerms} (hD : D.Valid) :
    rest ≠ D.text ++ u := by
  intro hrest
  have : (droop.firstEnd? before rest).isSome = true :=
    firstEnd?_isSome (by decide) (leads_droop.mpr ⟨D, u, hD, hrest, rfl⟩)
  rw [h] at this
  cases this

/-- **A product** is found where its terms stand, with a coefficient if there can be one. -/
theorem product_firstEnd? (h : product.firstEnd? before rest = some q) :
    ∃ P : ProductTerms, P.Valid ∧ rest = P.text ++ q.rest ∧ q.taken = P.text.length ∧
      q.groups = P.groups q.rest [] ∧
      (P.coefficient = none → ∀ (P' : ProductTerms) u, P'.Valid → rest = P'.text ++ u → P'.coefficient = none) := by
  obtain ⟨P, u, hP, hrest, rfl⟩ := leads_product.mp (firstEnd?_leads (by decide) h)
  refine ⟨P, hP, hrest, Nat.zero_add _, rfl, fun hnone P' u' hP' hrest' => ?_⟩
  cases hc : P'.coefficient with
  | none => rfl
  | some c =>
    -- the search with a coefficient succeeds, so its success is the one that was found
    obtain ⟨m, hm, hfirst⟩ : ∃ m : Position, m.rest = P'.value ++ u' ∧
        Leads (sequence [.group 1 productCoefficient, char '*']) ⟨0, before, rest, []⟩ m :=
      ⟨_, rfl, (leads_coefficient (by decide)).mpr ⟨c, P'.value ++ u', hP'.coefficient c hc,
        by simpa [ProductTerms.text, starred, hc] using hrest', rfl⟩⟩
    have hsecond : Leads (.group 2 value) m _ :=
      (leads_group_iff (by decide)).mpr ⟨P'.value, u', hm, hP'.value, rfl⟩
    have hsearch := isSome_search (k := (Regex.group 2 value).search some) hfirst (isSome_search hsecond rfl)
    rw [firstEnd?_eq_search (by decide)] at h
    obtain ⟨q, hq⟩ := Option.isSome_iff_exists.mp hsearch
    have heq := Option.some.inj (h.symm.trans (Option.or_eq_some_iff.mpr (Or.inl hq)))
    obtain ⟨m', hm', hq⟩ := exists_of_search (by decide) hq
    obtain ⟨q', hq', hsome⟩ := exists_of_search (by decide) hq
    obtain rfl := Option.some.inj hsome
    obtain ⟨c', t, -, -, rfl⟩ := (leads_coefficient (by decide)).mp hm'
    obtain ⟨v, t', -, -, rfl⟩ := (leads_group_iff (by decide)).mp hq'
    have hgroups := congrArg (fun q => q.groups.length) heq
    simp [ProductTerms.groups, hnone, starredGroups] at hgroups

theorem product_firstEnd?_none (h : product.firstEnd? before rest = none) {P : ProductTerms} (hP : P.Valid) :
    rest ≠ P.text ++ u := by
  intro hrest
  have : (product.firstEnd? before rest).isSome = true :=
    firstEnd?_isSome (by decide) (leads_product.mpr ⟨P, u, hP, hrest, rfl⟩)
  rw [h] at this
  cases this

theorem droop_advances : Finder.Advances droop.firstEnd? := by
  intro before rest q h
  obtain ⟨D, hD, hrest, htaken, -⟩ := droop_firstEnd? h
  exact ⟨D.text, hD.ne_nil, hrest, htaken⟩

theorem product_advances : Finder.Advances product.firstEnd? := by
  intro before rest q h
  obtain ⟨P, hP, hrest, htaken, -⟩ := product_firstEnd? h
  exact ⟨P.text, hP.ne_nil, hrest, htaken⟩

end Formula

namespace Leaf

open Regex Formula

variable {motive : List Char → List Char → Prop}

/-- What the passes do **can be evaluated**. -/
theorem rewrite_eq (text : List Char) : rewrite text =
    let drooped := Finder.replaceWithin droop.firstEnd? Droop.rewrite (text.length + 1) none text
    Finder.replaceWithin product.firstEnd? Product.rewrite (drooped.length + 1) none drooped := by
  dsimp only
  rw [← droop_advances.replaceAll_eq, ← product_advances.replaceAll_eq]
  rfl

/-- The first pass goes on **past a character** at which there is no droop formula, and past every droop
formula that it finds. -/
theorem droopPass_induction (stop : motive [] [])
    (skip : ∀ c rest out, (∀ (D : DroopTerms) u, D.Valid → c :: rest ≠ D.text ++ u) → motive rest out →
      motive (c :: rest) (c :: out))
    (hit : ∀ (D : DroopTerms) rest out, D.Valid → motive rest out →
      motive (D.text ++ rest) (D.written ++ out)) (text : List Char) : motive text (droopPass text) := by
  have h : Rewrites droop.firstEnd? Droop.rewrite none text (droopPass text) := droop_advances.rewrites _ _
  generalize droopPass text = out, none = before at h
  induction h with
  | stop _ => exact stop
  | skip h _ ih => exact skip _ _ _ (fun D u hD => droop_firstEnd?_none h hD) ih
  | hit h _ _ _ ih =>
    obtain ⟨D, hD, hrest, -, hgroups⟩ := droop_firstEnd? h
    obtain rfl := List.append_cancel_right hrest
    rw [hgroups, D.rewrite_eq]
    exact hit D _ _ hD ih

/-- The second pass goes on **past a character** at which there is no product, and past every product that it
finds; it leaves out a coefficient only if there can be none. -/
theorem productPass_induction (stop : motive [] [])
    (skip : ∀ c rest out, (∀ (P : ProductTerms) u, P.Valid → c :: rest ≠ P.text ++ u) → motive rest out →
      motive (c :: rest) (c :: out))
    (hit : ∀ (P : ProductTerms) rest out, P.Valid → (P.coefficient = none → ∀ (P' : ProductTerms) u, P'.Valid →
      P.text ++ rest = P'.text ++ u → P'.coefficient = none) → motive rest out →
      motive (P.text ++ rest) (P.written ++ out)) (text : List Char) : motive text (productPass text) := by
  have h : Rewrites product.firstEnd? Product.rewrite none text (productPass text) := product_advances.rewrites _ _
  generalize productPass text = out, none = before at h
  induction h with
  | stop _ => exact stop
  | skip h _ ih => exact skip _ _ _ (fun P u hP => product_firstEnd?_none h hP) ih
  | hit h _ _ _ ih =>
    obtain ⟨P, hP, hrest, -, hgroups, hpreferred⟩ := product_firstEnd? h
    obtain rfl := List.append_cancel_right hrest
    rw [hgroups, P.rewrite_eq]
    exact hit P _ _ hP hpreferred ih

end Leaf

end SiteGen
