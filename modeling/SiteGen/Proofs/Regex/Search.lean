import SiteGen.Regex.Match

/-!
# Searching for a match

The preferred match is found by trying what an expression allows in the order of preference, going back
when what follows cannot be matched.

* `Regex.Leads`: the places to which the ways through an expression lead.
* `Regex.search`: the first success at the end of a way.
* `Regex.firstEnd?_eq_search`: the preferred end of a match is found by this search.
* `Regex.search_of_unique`: of ways that succeed alike, it does not matter which is preferred.
-/

namespace SiteGen

/-! ## Places -/

namespace Position

/-- The place after a text, where `rest` is left. -/
def past (p : Position) (text rest : List Char) : Position :=
  { p with taken := p.taken + text.length, before := text.getLast?.or p.before, rest := rest }

/-- The place with other groups. -/
def withGroups (p : Position) (groups : List (Nat × Capture)) : Position := { p with groups := groups }

variable {p q : Position} {c : Char} {w u v t : List Char} {chars : CharSet} {gs : List (Nat × Capture)}

@[simp] theorem past_rest : (p.past w u).rest = u := rfl

@[simp] theorem past_taken : (p.past w u).taken = p.taken + w.length := rfl

@[simp] theorem past_groups : (p.past w u).groups = p.groups := rfl

@[simp] theorem past_nil : p.past [] p.rest = p := rfl

theorem past_singleton : p.past [c] u = p.after c u := rfl

@[simp] theorem past_past : (p.past w t).past v u = p.past (w ++ v) u := by
  simp only [past, List.length_append, List.getLast?_append, Nat.add_assoc, Option.or_assoc]

@[simp] theorem withGroups_rest : (p.withGroups gs).rest = p.rest := rfl

@[simp] theorem withGroups_groups : (p.withGroups gs).groups = gs := rfl

@[simp] theorem withGroups_withGroups {gs' : List (Nat × Capture)} :
    (p.withGroups gs).withGroups gs' = p.withGroups gs' := rfl

@[simp] theorem withGroups_past : (p.withGroups gs).past w u = (p.past w u).withGroups gs := rfl

theorem mem_alongFrom {rest : List Char} : q ∈ alongFrom chars p rest ↔
    ∃ w u, w ≠ [] ∧ (∀ c ∈ w, chars.contains c = true) ∧ rest = w ++ u ∧ q = p.past w u := by
  induction rest generalizing p with
  | nil =>
    simp only [alongFrom, List.not_mem_nil, false_iff]
    rintro ⟨w, u, hw, -, h, -⟩
    exact hw (List.append_eq_nil_iff.mp h.symm).1
  | cons c rest ih =>
    rw [alongFrom]
    split
    · next hc =>
      rw [List.mem_cons, ih, ← past_singleton]
      constructor
      · rintro (rfl | ⟨w, u, hw, hall, rfl, rfl⟩)
        · exact ⟨[c], rest, List.cons_ne_nil _ _, by simpa using hc, rfl, rfl⟩
        · refine ⟨c :: w, u, List.cons_ne_nil _ _, ?_, rfl, by simp⟩
          simpa [hc] using hall
      · rintro ⟨w, u, hw, hall, h, rfl⟩
        cases w with
        | nil => exact absurd rfl hw
        | cons d w =>
          obtain ⟨rfl, rfl⟩ := List.cons.inj h
          cases w with
          | nil => exact Or.inl rfl
          | cons e w =>
            exact Or.inr ⟨e :: w, u, List.cons_ne_nil _ _, fun c hc => hall c (List.mem_cons_of_mem _ hc), rfl,
              by simp⟩
    · next hc =>
      simp only [List.not_mem_nil, false_iff]
      rintro ⟨w, u, hw, hall, h, -⟩
      cases w with
      | nil => exact hw rfl
      | cons d w => exact hc ((List.cons.inj h).1 ▸ hall d List.mem_cons_self)

theorem getLast?_alongFrom (hw : w ≠ []) (hall : ∀ c ∈ w, chars.contains c = true)
    (hu : ∀ c ∈ u.head?, chars.contains c = false) :
    (alongFrom chars p (w ++ u)).getLast? = some (p.past w u) := by
  induction w generalizing p with
  | nil => exact absurd rfl hw
  | cons c w ih =>
    rw [List.cons_append, alongFrom, if_pos (hall c List.mem_cons_self), ← past_singleton]
    cases w with
    | nil =>
      have hnone : alongFrom chars (p.past [c] u) u = [] := by
        cases u with
        | nil => rfl
        | cons d u => rw [alongFrom, if_neg (by simp [hu d rfl])]
      rw [List.nil_append, hnone]
      rfl
    | cons d w =>
      have h := ih (p := p.past [c] (d :: w ++ u)) (List.cons_ne_nil _ _)
        fun c hc => hall c (List.mem_cons_of_mem _ hc)
      rw [past_past] at h
      rw [List.getLast?_cons, h]
      rfl

end Position

namespace Regex

open Position

variable {a b r : Regex} {p q : Position} {chars : CharSet} {w u : List Char} {greedy : Bool} {index : Nat}

/-! ## Ways through an expression -/

/-- Whether an expression has **no loop** but runs of characters. -/
def loopFree : Regex → Bool
  | .empty | .set _ | .anchor _ | .run _ _ => true
  | .seq a b | .alt a b => a.loopFree && b.loopFree
  | .loop _ _ => false
  | .group _ r => r.loopFree

/-- Whether a way through an expression **leads** from a place to another. -/
inductive Leads : Regex → Position → Position → Prop
  | empty {p : Position} : Leads .empty p p
  | set {chars : CharSet} {p : Position} {c : Char} {u : List Char} (hrest : p.rest = c :: u)
    (h : chars.contains c = true) : Leads (.set chars) p (p.past [c] u)
  | anchor {test : Anchor} {p : Position} (h : test.holds p.before p.rest.head? = true) :
    Leads (.anchor test) p p
  | seq {a b : Regex} {p q q' : Position} (h : Leads a p q) (h' : Leads b q q') : Leads (.seq a b) p q'
  | first {a b : Regex} {p q : Position} (h : Leads a p q) : Leads (.alt a b) p q
  | second {a b : Regex} {p q : Position} (h : Leads b p q) : Leads (.alt a b) p q
  | run {chars : CharSet} {greedy : Bool} {p : Position} {w u : List Char} (hrest : p.rest = w ++ u)
    (hne : w ≠ []) (h : ∀ c ∈ w, chars.contains c = true) : Leads (.run chars greedy) p (p.past w u)
  | group {index : Nat} {r : Regex} {p q : Position} (h : Leads r p q) :
    Leads (.group index r) p (q.withGroups ((index, ⟨p.rest, q.taken - p.taken⟩) :: q.groups))

theorem Leads.past (h : Leads r p q) : ∃ w u, p.rest = w ++ u ∧ q = (p.past w u).withGroups q.groups := by
  induction h with
  | empty => exact ⟨[], _, rfl, rfl⟩
  | set hrest _ => exact ⟨[_], _, hrest, rfl⟩
  | anchor _ => exact ⟨[], _, rfl, rfl⟩
  | seq _ _ ih ih' =>
    obtain ⟨w, u, hw, hq⟩ := ih
    obtain ⟨w', u', hw', hq'⟩ := ih'
    rw [hq, withGroups_rest, past_rest] at hw'
    rw [hq, withGroups_past, past_past] at hq'
    exact ⟨w ++ w', u', by rw [hw, hw', List.append_assoc], hq'⟩
  | first _ ih => exact ih
  | second _ ih => exact ih
  | run hrest _ _ => exact ⟨_, _, hrest, rfl⟩
  | group _ ih =>
    obtain ⟨w, u, hw, hq⟩ := ih
    exact ⟨w, u, hw, by rw [hq]; rfl⟩

theorem Leads.withGroups (h : Leads r p q) (gs : List (Nat × Capture)) :
    ∃ gs', Leads r (p.withGroups gs) (q.withGroups gs') := by
  induction h generalizing gs with
  | empty => exact ⟨gs, .empty⟩
  | set hrest hc => exact ⟨gs, .set hrest hc⟩
  | anchor ht => exact ⟨gs, .anchor ht⟩
  | seq _ _ ih ih' =>
    obtain ⟨gs', h⟩ := ih gs
    obtain ⟨gs'', h'⟩ := ih' gs'
    exact ⟨gs'', .seq h h'⟩
  | first _ ih =>
    obtain ⟨gs', h⟩ := ih gs
    exact ⟨gs', .first h⟩
  | second _ ih =>
    obtain ⟨gs', h⟩ := ih gs
    exact ⟨gs', .second h⟩
  | run hrest hne hall => exact ⟨gs, .run hrest hne hall⟩
  | @group index _ p q _ ih =>
    obtain ⟨gs', h⟩ := ih gs
    exact ⟨(index, ⟨p.rest, q.taken - p.taken⟩) :: gs', .group h⟩

theorem mem_along : q ∈ p.along chars ↔
    ∃ w u, p.rest = w ++ u ∧ w ≠ [] ∧ (∀ c ∈ w, chars.contains c = true) ∧ q = p.past w u := by
  rw [along, mem_alongFrom]
  constructor
  · rintro ⟨w, u, hw, h, hrest, rfl⟩
    exact ⟨w, u, hrest, hw, h, rfl⟩
  · rintro ⟨w, u, hrest, hw, h, rfl⟩
    exact ⟨w, u, hw, h, hrest, rfl⟩

theorem mem_of_mem_distinctFrom {ps : List Position} {seen : Nat} (h : q ∈ distinctFrom seen ps) : q ∈ ps := by
  induction ps generalizing seen with
  | nil => exact h
  | cons p ps ih =>
    rw [distinctFrom] at h
    split at h
    · exact List.mem_cons_of_mem _ (ih h)
    · rcases List.mem_cons.mp h with rfl | h
      · exact List.mem_cons_self
      · exact List.mem_cons_of_mem _ (ih h)

theorem leads_of_mem_ends (hr : r.loopFree = true) (h : q ∈ r.ends p) : Leads r p q := by
  induction r generalizing p q with
  | empty =>
    obtain rfl := List.mem_singleton.mp h
    exact .empty
  | set chars =>
    rw [ends] at h
    split at h
    · cases h
    · next c rest hrest =>
      split at h
      · next hc =>
        obtain rfl := List.mem_singleton.mp h
        exact .set hrest hc
      · cases h
  | anchor test =>
    rw [ends] at h
    split at h
    · next ht =>
      obtain rfl := List.mem_singleton.mp h
      exact .anchor ht
    · cases h
  | seq a b iha ihb =>
    rw [loopFree, Bool.and_eq_true] at hr
    obtain ⟨m, hm, hq⟩ := List.mem_flatMap.mp (mem_of_mem_distinctFrom h)
    exact .seq (iha hr.1 hm) (ihb hr.2 hq)
  | alt a b iha ihb =>
    rw [loopFree, Bool.and_eq_true] at hr
    rcases List.mem_append.mp (mem_of_mem_distinctFrom h) with h | h
    · exact .first (iha hr.1 h)
    · exact .second (ihb hr.2 h)
  | run chars greedy =>
    have hmem : q ∈ p.along chars := by
      rw [ends] at h
      split at h
      · exact List.mem_reverse.mp h
      · exact h
    obtain ⟨w, u, hrest, hw, hall, rfl⟩ := mem_along.mp hmem
    exact .run hrest hw hall
  | loop r greedy _ => cases hr
  | group index r ih =>
    obtain ⟨m, hm, rfl⟩ := List.mem_map.mp h
    exact .group (ih hr hm)

/-! ## The search -/

/-- The **first success** of `k` at the end of a way from a place. -/
def search {α : Type} : Regex → (Position → Option α) → Position → Option α
  | .empty, k, p => k p
  | .set chars, k, p =>
    match p.rest with
    | [] => none
    | c :: rest => if chars.contains c then k (p.past [c] rest) else none
  | .anchor test, k, p => if test.holds p.before p.rest.head? then k p else none
  | .seq a b, k, p => a.search (b.search k) p
  | .alt a b, k, p => (a.search k p).or (b.search k p)
  | .run chars greedy, k, p => (if greedy then (p.along chars).reverse else p.along chars).findSome? k
  | .loop r greedy, k, p => (rounds r.ends greedy p).findSome? k
  | .group index r, k, p =>
    r.search (fun q => k (q.withGroups ((index, ⟨p.rest, q.taken - p.taken⟩) :: q.groups))) p

variable {α : Type} {k : Position → Option α} {x : α}

theorem search_seq : (Regex.seq a b).search k p = a.search (b.search k) p := rfl

/-- A success is one **at the end of a way**. -/
theorem exists_of_search (hr : r.loopFree = true) (h : r.search k p = some x) :
    ∃ q, Leads r p q ∧ k q = some x := by
  induction r generalizing k p with
  | empty => exact ⟨p, .empty, h⟩
  | set chars =>
    rw [search] at h
    split at h
    · cases h
    · next c rest hrest =>
      split at h
      · next hc => exact ⟨_, .set hrest hc, h⟩
      · cases h
  | anchor test =>
    rw [search] at h
    split at h
    · next ht => exact ⟨p, .anchor ht, h⟩
    · cases h
  | seq a b iha ihb =>
    rw [loopFree, Bool.and_eq_true] at hr
    obtain ⟨m, hm, h⟩ := iha hr.1 h
    obtain ⟨q, hq, h⟩ := ihb hr.2 h
    exact ⟨q, .seq hm hq, h⟩
  | alt a b iha ihb =>
    rw [loopFree, Bool.and_eq_true] at hr
    rcases Option.or_eq_some_iff.mp h with h | ⟨-, h⟩
    · obtain ⟨q, hq, h⟩ := iha hr.1 h
      exact ⟨q, .first hq, h⟩
    · obtain ⟨q, hq, h⟩ := ihb hr.2 h
      exact ⟨q, .second hq, h⟩
  | run chars greedy =>
    obtain ⟨q, hq, h⟩ := List.exists_of_findSome?_eq_some h
    have hmem : q ∈ p.along chars := by
      split at hq
      · exact List.mem_reverse.mp hq
      · exact hq
    obtain ⟨w, u, hrest, hw, hall, rfl⟩ := mem_along.mp hmem
    exact ⟨_, .run hrest hw hall, h⟩
  | loop r greedy _ => cases hr
  | group index r ih =>
    obtain ⟨q, hq, h⟩ := ih hr h
    exact ⟨_, .group hq, h⟩

/-- There is a success **if there is one** at the end of a way. -/
theorem isSome_search (h : Leads r p q) (hk : (k q).isSome = true) : (r.search k p).isSome = true := by
  induction h generalizing k with
  | empty => exact hk
  | set hrest hc =>
    simp only [search, hrest, hc, if_true]
    exact hk
  | anchor ht =>
    rw [search, if_pos ht]
    exact hk
  | seq _ _ ih ih' => exact ih (ih' hk)
  | first _ ih =>
    rw [search, Option.isSome_or, ih hk, Bool.true_or]
  | second _ ih =>
    rw [search, Option.isSome_or, ih hk, Bool.or_true]
  | run hrest hne hall =>
    rw [search, List.findSome?_isSome_iff]
    have hmem := mem_along.mpr ⟨_, _, hrest, hne, hall, rfl⟩
    refine ⟨_, ?_, hk⟩
    split
    · exact List.mem_reverse.mpr hmem
    · exact hmem
  | group _ ih => exact ih hk

/-- If all successes are the same, the search gives this one. -/
theorem search_of_unique (hr : r.loopFree = true) (h : Leads r p q) (hk : k q = some x)
    (hunique : ∀ q', Leads r p q' → ∀ y, k q' = some y → y = x) : r.search k p = some x := by
  obtain ⟨y, hy⟩ := Option.isSome_iff_exists.mp (isSome_search h (by rw [hk]; rfl : (k q).isSome = true))
  obtain ⟨q', hq', hkq'⟩ := exists_of_search hr hy
  rw [hy, hunique q' hq' y hkq']

theorem search_eq_none (hr : r.loopFree = true) (h : ∀ q, Leads r p q → k q = none) : r.search k p = none := by
  refine Option.eq_none_iff_forall_ne_some.mpr fun x hx => ?_
  obtain ⟨q, hq, hk⟩ := exists_of_search hr hx
  rw [h q hq] at hk
  cases hk

theorem search_run (hrest : p.rest = w ++ u) (hne : w ≠ []) (h : ∀ c ∈ w, chars.contains c = true)
    (hu : ∀ c ∈ u.head?, chars.contains c = false) (hk : k (p.past w u) = some x) :
    (Regex.run chars true).search k p = some x := by
  have hlast := getLast?_alongFrom (p := p) hne h hu
  rw [← hrest] at hlast
  rw [search, if_pos rfl]
  cases hl : (along chars p).reverse with
  | nil =>
    rw [List.reverse_eq_nil_iff] at hl
    rw [← along, hl] at hlast
    cases hlast
  | cons q l =>
    rw [← along, ← List.head?_reverse, hl] at hlast
    obtain rfl := Option.some.inj hlast
    rw [List.findSome?_cons, hk]

/-! ## The preferred end -/

/-- Whether a success **depends on the place** only, not on what the groups have matched. -/
def Blind (k : Position → Option α) : Prop := ∀ q gs, (k (q.withGroups gs)).isSome = (k q).isSome

theorem isSome_search_iff (hr : r.loopFree = true) :
    (r.search k p).isSome = true ↔ ∃ q, Leads r p q ∧ (k q).isSome = true := by
  constructor
  · intro h
    obtain ⟨x, hx⟩ := Option.isSome_iff_exists.mp h
    obtain ⟨q, hq, hk⟩ := exists_of_search hr hx
    exact ⟨q, hq, by rw [hk]; rfl⟩
  · rintro ⟨q, hq, hk⟩
    exact isSome_search hq hk

theorem Blind.search (hr : r.loopFree = true) (hk : Blind k) : Blind (r.search k) := by
  have himp : ∀ p gs, (r.search k p).isSome = true → (r.search k (p.withGroups gs)).isSome = true := by
    intro p gs h
    obtain ⟨q, hq, hkq⟩ := (isSome_search_iff hr).mp h
    obtain ⟨gs', hq'⟩ := hq.withGroups gs
    exact (isSome_search_iff hr).mpr ⟨_, hq', (hk q gs').trans hkq⟩
  intro p gs
  rw [Bool.eq_iff_iff]
  exact ⟨himp (p.withGroups gs) p.groups, himp p gs⟩

theorem findSome?_distinctFrom {ps : List Position} {seen : Nat}
    (hsame : ∀ p ∈ ps, ∀ q ∈ ps, p.taken = q.taken → (k p).isSome = (k q).isSome)
    (hseen : ∀ p ∈ ps, seen.testBit p.taken = true → k p = none) :
    (distinctFrom seen ps).findSome? k = ps.findSome? k := by
  induction ps generalizing seen with
  | nil => rfl
  | cons p ps ih =>
    have htail : ∀ q ∈ ps, ∀ q' ∈ ps, q.taken = q'.taken → (k q).isSome = (k q').isSome := fun q hq q' hq' =>
      hsame q (List.mem_cons_of_mem _ hq) q' (List.mem_cons_of_mem _ hq')
    rw [distinctFrom, List.findSome?_cons]
    split
    · next hp =>
      rw [hseen p List.mem_cons_self hp, ih htail fun q hq => hseen q (List.mem_cons_of_mem _ hq)]
    · rw [List.findSome?_cons]
      cases hkp : k p with
      | some y => rfl
      | none =>
        refine ih htail fun q hq hbit => ?_
        rw [Nat.testBit_or, Bool.or_eq_true, Nat.one_shiftLeft, Nat.testBit_two_pow] at hbit
        rcases hbit with hbit | hbit
        · exact hseen q (List.mem_cons_of_mem _ hq) hbit
        · have := hsame p List.mem_cons_self q (List.mem_cons_of_mem _ hq) (of_decide_eq_true hbit)
          rw [hkp] at this
          simpa using this.symm

theorem Leads.isSome_eq {q' : Position} {r' : Regex} (hk : Blind k) (h : Leads r p q) (h' : Leads r' p q')
    (ht : q.taken = q'.taken) : (k q).isSome = (k q').isSome := by
  obtain ⟨w, u, hw, hq⟩ := h.past
  obtain ⟨w', u', hw', hq'⟩ := h'.past
  rw [hq, hq'] at ht
  have hlength : w.length = w'.length := Nat.add_left_cancel ht
  obtain ⟨rfl, rfl⟩ := List.append_inj (hw.symm.trans hw') hlength
  rw [hq, hq', hk, hk]

theorem findSome?_distinct (hk : Blind k) {ps : List Position} (h : ∀ q ∈ ps, Leads r p q) :
    (distinct ps).findSome? k = ps.findSome? k :=
  findSome?_distinctFrom (fun q hq q' hq' => (h q hq).isSome_eq hk (h q' hq')) fun q _ hq => by simp at hq

theorem findSome?_ends (hr : r.loopFree = true) (hk : Blind k) : (r.ends p).findSome? k = r.search k p := by
  induction r generalizing k p with
  | empty => exact List.findSome?_singleton
  | set chars =>
    rw [ends, search]
    cases p.rest with
    | nil => rfl
    | cons c rest =>
      dsimp only
      split
      · exact List.findSome?_singleton
      · rfl
  | anchor test =>
    rw [ends, search]
    split
    · exact List.findSome?_singleton
    · rfl
  | seq a b iha ihb =>
    rw [loopFree, Bool.and_eq_true] at hr
    have hleads : ∀ q ∈ (a.ends p).flatMap b.ends, Leads (.seq a b) p q := fun q hq => by
      obtain ⟨m, hm, hq⟩ := List.mem_flatMap.mp hq
      exact .seq (leads_of_mem_ends hr.1 hm) (leads_of_mem_ends hr.2 hq)
    have hflat : ∀ ps : List Position, (ps.flatMap b.ends).findSome? k = ps.findSome? (b.search k) := by
      intro ps
      induction ps with
      | nil => rfl
      | cons q ps ih =>
        rw [List.flatMap_cons, List.findSome?_append, ih, ihb hr.2 hk, List.findSome?_cons]
        cases b.search k q <;> rfl
    rw [ends, findSome?_distinct hk hleads, hflat, search, iha hr.1 (hk.search hr.2)]
  | alt a b iha ihb =>
    rw [loopFree, Bool.and_eq_true] at hr
    have hleads : ∀ q ∈ a.ends p ++ b.ends p, Leads (.alt a b) p q := fun q hq =>
      (List.mem_append.mp hq).elim (fun h => .first (leads_of_mem_ends hr.1 h))
        fun h => .second (leads_of_mem_ends hr.2 h)
    rw [ends, findSome?_distinct hk hleads, List.findSome?_append, search, iha hr.1 hk, ihb hr.2 hk]
  | run chars greedy => rfl
  | loop r greedy _ => cases hr
  | group index r ih =>
    rw [ends, List.findSome?_map]
    exact ih hr fun q gs' => (hk q _).trans (hk q _).symm

/-- **The preferred end** of a match is found by the search. -/
theorem firstEnd?_eq_search (hr : r.loopFree = true) (before : Option Char) (rest : List Char) :
    r.firstEnd? before rest = r.search some ⟨0, before, rest, []⟩ := by
  rw [← findSome?_ends hr fun _ _ => rfl, firstEnd?]
  cases r.ends ⟨0, before, rest, []⟩ <;> rfl

end Regex

end SiteGen
