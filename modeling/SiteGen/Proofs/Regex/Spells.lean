import SiteGen.Proofs.Regex.Search

/-!
# The texts of an expression

* `Regex.Spells`: the texts that an expression stands for.
* `Regex.leads_iff`: the ways through an expression without groups and tests lead past these texts.
* `Regex.leads_group_iff`: what a group records on a way.
* `Regex.search_of_only`, `Regex.search_group_run`: the search where there is only one way on, and where a
  run takes all it can.
-/

namespace SiteGen

theorem CharSet.contains_single {c d : Char} : (CharSet.single c).contains d = true ↔ d = c := by
  simp only [CharSet.single, CharSet.range, CharSet.contains, CharSet.holds, List.any_cons, List.any_nil,
    Bool.or_false, Bool.and_eq_true, decide_eq_true_eq]
  constructor
  · rintro ⟨h, h'⟩
    exact Char.toNat_inj.mp (Nat.le_antisymm h' h)
  · rintro rfl
    exact ⟨Nat.le_refl _, Nat.le_refl _⟩

namespace Regex

open Position

variable {a b r : Regex} {p q : Position} {w u : List Char} {c : Char} {chars : CharSet} {greedy : Bool}
  {index : Nat}

/-- Whether an expression **stands for** a text, wherever it is; a loop or a test does not. -/
def Spells : Regex → List Char → Prop
  | .empty, w => w = []
  | .set chars, w => ∃ c, w = [c] ∧ chars.contains c = true
  | .anchor _, _ => False
  | .seq a b, w => ∃ v v', w = v ++ v' ∧ a.Spells v ∧ b.Spells v'
  | .alt a b, w => a.Spells w ∨ b.Spells w
  | .run chars _, w => w ≠ [] ∧ ∀ c ∈ w, chars.contains c = true
  | .loop _ _, _ => False
  | .group _ r, w => r.Spells w

/-- Whether an expression consists of characters, runs, sequences and alternatives only. -/
def isPlain : Regex → Bool
  | .empty | .set _ | .run _ _ => true
  | .seq a b | .alt a b => a.isPlain && b.isPlain
  | .anchor _ | .loop _ _ | .group _ _ => false

/-- The ways through an expression without groups **lead past the texts** that it stands for. -/
theorem leads_iff (hr : r.isPlain = true) :
    Leads r p q ↔ ∃ w u, p.rest = w ++ u ∧ r.Spells w ∧ q = p.past w u := by
  induction r generalizing p q with
  | empty =>
    constructor
    · rintro ⟨⟩
      exact ⟨[], _, rfl, rfl, rfl⟩
    · rintro ⟨w, u, hrest, rfl, rfl⟩
      rw [List.nil_append] at hrest
      rw [← hrest]
      exact .empty
  | set chars =>
    constructor
    · intro h
      cases h with
      | set hrest h => exact ⟨[_], _, hrest, ⟨_, rfl, h⟩, rfl⟩
    · rintro ⟨_, u, hrest, ⟨c, rfl, h⟩, rfl⟩
      exact .set hrest h
  | anchor test => cases hr
  | seq a b iha ihb =>
    rw [isPlain, Bool.and_eq_true] at hr
    constructor
    · intro h
      cases h with
      | seq h h' =>
        obtain ⟨v, u, hv, hsv, rfl⟩ := (iha hr.1).mp h
        obtain ⟨v', u', hv', hsv', rfl⟩ := (ihb hr.2).mp h'
        rw [past_rest] at hv'
        exact ⟨v ++ v', u', by rw [hv, hv', List.append_assoc], ⟨v, v', rfl, hsv, hsv'⟩, past_past⟩
    · rintro ⟨_, u, hrest, ⟨v, v', rfl, hv, hv'⟩, rfl⟩
      rw [List.append_assoc] at hrest
      rw [← past_past (t := v' ++ u)]
      exact .seq ((iha hr.1).mpr ⟨v, _, hrest, hv, rfl⟩) ((ihb hr.2).mpr ⟨v', u, rfl, hv', rfl⟩)
  | alt a b iha ihb =>
    rw [isPlain, Bool.and_eq_true] at hr
    constructor
    · intro h
      cases h with
      | first h =>
        obtain ⟨w, u, hrest, hw, rfl⟩ := (iha hr.1).mp h
        exact ⟨w, u, hrest, Or.inl hw, rfl⟩
      | second h =>
        obtain ⟨w, u, hrest, hw, rfl⟩ := (ihb hr.2).mp h
        exact ⟨w, u, hrest, Or.inr hw, rfl⟩
    · rintro ⟨w, u, hrest, hw | hw, rfl⟩
      · exact .first ((iha hr.1).mpr ⟨w, u, hrest, hw, rfl⟩)
      · exact .second ((ihb hr.2).mpr ⟨w, u, hrest, hw, rfl⟩)
  | run chars greedy =>
    constructor
    · intro h
      cases h with
      | run hrest hne h => exact ⟨_, _, hrest, ⟨hne, h⟩, rfl⟩
    · rintro ⟨w, u, hrest, ⟨hne, h⟩, rfl⟩
      exact .run hrest hne h
  | loop r greedy _ => cases hr
  | group index r _ => cases hr

/-- A group **records** the text that it stands for. -/
theorem leads_group_iff (hr : r.isPlain = true) : Leads (.group index r) p q ↔ ∃ w u, p.rest = w ++ u ∧
    r.Spells w ∧ q = (p.past w u).withGroups ((index, ⟨w ++ u, w.length⟩) :: p.groups) := by
  have htaken : ∀ w u, (p.past w u).taken - p.taken = w.length := fun w u => Nat.add_sub_cancel_left _ _
  constructor
  · intro h
    cases h with
    | group h =>
      obtain ⟨w, u, hrest, hw, rfl⟩ := (leads_iff hr).mp h
      refine ⟨w, u, hrest, hw, ?_⟩
      rw [htaken, hrest]
      rfl
  · rintro ⟨w, u, hrest, hw, rfl⟩
    have h : Leads (.group index r) p _ := Leads.group ((leads_iff hr).mpr ⟨w, u, hrest, hw, rfl⟩)
    rwa [htaken, hrest] at h

theorem leads_seq_iff : Leads (.seq a b) p q ↔ ∃ m, Leads a p m ∧ Leads b m q := by
  constructor
  · intro h
    cases h with
    | seq h h' => exact ⟨_, h, h'⟩
  · rintro ⟨m, h, h'⟩
    exact .seq h h'

theorem leads_opt_iff : Leads (opt r true) p q ↔ Leads r p q ∨ p = q := by
  constructor
  · intro h
    cases h with
    | first h => exact Or.inl h
    | second h =>
      cases h
      exact Or.inr rfl
  · rintro (h | rfl)
    · exact .first h
    · exact .second .empty

/-! ## Searches -/

variable {α : Type} {k : Position → Option α} {x : α}

/-- The search goes on **past the only text** past which it can succeed. -/
theorem search_of_only (hr : r.loopFree = true) (h : Leads r p q) (hk : k q = some x)
    (hunique : ∀ q', Leads r p q' → (k q').isSome = true → q' = q) : r.search k p = some x := by
  refine search_of_unique hr h hk fun q' hq' y hy => ?_
  rw [hunique q' hq' (by rw [hy]; rfl), hk] at hy
  exact (Option.some.inj hy).symm

/-- A group that is a run **takes all the characters it can** if this succeeds. -/
theorem search_group_run (hrest : p.rest = w ++ u) (hne : w ≠ []) (h : ∀ c ∈ w, chars.contains c = true)
    (hu : ∀ c ∈ u.head?, chars.contains c = false)
    (hk : k ((p.past w u).withGroups ((index, ⟨w ++ u, w.length⟩) :: p.groups)) = some x) :
    (Regex.group index (.run chars true)).search k p = some x := by
  refine search_run hrest hne h hu ?_
  rw [past_taken, Nat.add_sub_cancel_left, hrest]
  exact hk

/-! ## Texts -/

@[simp] theorem spells_char : (char c).Spells w ↔ w = [c] := by
  simp [char, Spells, CharSet.contains_single]

@[simp] theorem spells_text : ∀ {t w : List Char}, (text t).Spells w ↔ w = t
  | [], _ => Iff.rfl
  | [c], _ => spells_char
  | c :: d :: t, w => by
    constructor
    · rintro ⟨v, v', rfl, hv, hv'⟩
      rw [spells_char.mp hv, spells_text.mp hv']
      rfl
    · rintro rfl
      exact ⟨[c], d :: t, rfl, spells_char.mpr rfl, spells_text.mpr rfl⟩

end Regex

end SiteGen
