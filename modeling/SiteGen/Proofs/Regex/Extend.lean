import SiteGen.Proofs.Regex.Rewrites
import SiteGen.Proofs.Regex.Search

/-!
# Matches in a longer text

A text that goes on after a match does not change the match, unless the match could go on as well.

* `Position.Extends`: a place in a text, and the same place in a text that goes on.
* `Regex.search_extends`: the search from these places, if what is past the end of the shorter text fails.
* `Regex.firstEnd?_extends`: the match that is found, if no way crosses the end of the shorter text.
* `Regex.Rewrites.append`, `Regex.Local.replaceAll_append_cons`: two texts are rewritten one after the other.
-/

namespace SiteGen

/-- What groups have matched, in a text **that goes on** with `u`. -/
def extendGroups (u : List Char) (groups : List (Nat × Capture)) : List (Nat × Capture) :=
  groups.map fun g => (g.1, ⟨g.2.rest ++ u, g.2.length⟩)

namespace Position

/-- Whether a place is **the same** as another in a text that goes on with `u`, whatever stands before. -/
structure Extends (u : List Char) (p p' : Position) : Prop where
  taken : p'.taken = p.taken
  rest : p'.rest = p.rest ++ u
  groups : p'.groups = extendGroups u p.groups

variable {p p' q q' : Position} {u w rest : List Char}

theorem Extends.past (h : Extends u p p') : Extends u (p.past w rest) (p'.past w (rest ++ u)) :=
  ⟨by rw [past_taken, past_taken, h.taken], rfl, h.groups⟩

theorem Extends.captured (h : Extends u p p') (hq : Extends u q q') (index : Nat) :
    Extends u (q.withGroups ((index, ⟨p.rest, q.taken - p.taken⟩) :: q.groups))
      (q'.withGroups ((index, ⟨p'.rest, q'.taken - p'.taken⟩) :: q'.groups)) :=
  ⟨hq.taken, hq.rest, by simp [extendGroups, hq.groups, h.rest, h.taken, hq.taken]⟩

end Position

namespace Regex

open Position

variable {r : Regex} {p p' : Position} {u : List Char} {k k' : Position → Option Position}

/-- Whether an expression has **no tests** on what stands around a place. -/
def unanchored : Regex → Bool
  | .empty | .set _ | .run _ _ => true
  | .anchor _ => false
  | .seq a b | .alt a b => a.unanchored && b.unanchored
  | .loop r _ | .group _ r => r.unanchored

theorem Leads.length_le {q : Position} (h : Leads r p q) : q.rest.length ≤ p.rest.length := by
  obtain ⟨w, v, hrest, hq⟩ := h.past
  rw [hq, hrest, List.length_append]
  exact Nat.le_add_left _ _

theorem rel_or {α : Type} {R : α → α → Prop} {x x' y y' : Option α} (hx : Option.Rel R x x') (hy : Option.Rel R y y') :
    Option.Rel R (x.or y) (x'.or y') := by
  cases hx with
  | some h => exact .some h
  | none => exact hy

theorem findSome?_cons_or {α β : Type} (f : α → Option β) (a : α) (l : List α) :
    (a :: l).findSome? f = (f a).or (l.findSome? f) := by
  rw [List.findSome?_cons]
  cases f a <;> rfl

/-- The search along a run, from **the same place** in a text that goes on. -/
theorem findSome?_along_extends (chars : CharSet) (greedy : Bool) (rest : List Char) (hp : Extends u p p')
    (hk : ∀ q q', q' ∈ alongFrom chars p' (rest ++ u) → Extends u q q' → Option.Rel (Extends u) (k q) (k' q'))
    (hpast : ∀ q' ∈ alongFrom chars p' (rest ++ u), q'.rest.length < u.length → k' q' = none) :
    Option.Rel (Extends u)
      ((if greedy then (alongFrom chars p rest).reverse else alongFrom chars p rest).findSome? k)
      ((if greedy then (alongFrom chars p' (rest ++ u)).reverse else alongFrom chars p' (rest ++ u)).findSome? k') := by
  induction rest generalizing p p' with
  | nil =>
    have hnone : ∀ l : List Position, (∀ q' ∈ l, q' ∈ alongFrom chars p' u) → l.findSome? k' = none := fun l hl => by
      refine List.findSome?_eq_none_iff.mpr fun q' hq' => hpast q' (hl q' hq') ?_
      obtain ⟨w, v, hw, -, hu, rfl⟩ := mem_alongFrom.mp (hl q' hq')
      have := List.length_pos_iff.mpr hw
      rw [hu, past_rest, List.length_append]
      omega
    have hleft : (if greedy then (alongFrom chars p []).reverse else alongFrom chars p []).findSome? k = none := by
      cases greedy <;> rfl
    rw [hleft, List.nil_append, hnone]
    · exact .none
    · cases greedy <;> simp
  | cons c rest ih =>
    rw [List.cons_append, alongFrom] at hk hpast ⊢
    rw [alongFrom]
    by_cases hc : chars.contains c = true
    · rw [if_pos hc] at hk hpast ⊢
      rw [if_pos hc]
      have hstep : Extends u (p.after c rest) (p'.after c (rest ++ u)) := hp.past (w := [c])
      have hfirst := hk _ _ List.mem_cons_self hstep
      have htail := ih hstep (fun q q' hq' => hk q q' (List.mem_cons_of_mem _ hq'))
        fun q' hq' => hpast q' (List.mem_cons_of_mem _ hq')
      cases greedy with
      | false =>
        simp only [Bool.false_eq_true, if_false, findSome?_cons_or] at htail ⊢
        exact rel_or hfirst htail
      | true =>
        simp only [if_true, List.reverse_cons, List.findSome?_append, List.findSome?_singleton] at htail ⊢
        exact rel_or htail hfirst
    · rw [if_neg hc, if_neg hc]
      cases greedy <;> exact .none

/-- The search from **the same place** in a text that goes on, if nothing past the end of the shorter text succeeds. -/
theorem search_extends (hr : r.loopFree = true) (hu : r.unanchored = true) (hp : Extends u p p')
    (hk : ∀ q q', Leads r p' q' → Extends u q q' → Option.Rel (Extends u) (k q) (k' q'))
    (hpast : ∀ q', Leads r p' q' → q'.rest.length < u.length → k' q' = none) :
    Option.Rel (Extends u) (r.search k p) (r.search k' p') := by
  induction r generalizing k k' p p' with
  | empty => exact hk p p' .empty hp
  | set chars =>
    have hrest := hp.rest
    rw [search, search]
    cases hpr : p.rest with
    | nil =>
      rw [hpr, List.nil_append] at hrest
      rw [hrest]
      cases hu : u with
      | nil => exact .none
      | cons c v =>
        dsimp only
        split
        · next hc =>
          rw [hpast _ (.set (hrest.trans hu) hc) (by rw [hu]; exact Nat.lt_succ_self _)]
          exact .none
        · exact .none
    | cons c rest =>
      rw [hpr, List.cons_append] at hrest
      rw [hrest]
      dsimp only
      split
      · next hc => exact hk _ _ (.set hrest hc) hp.past
      · exact .none
  | anchor test => cases hu
  | seq a b iha ihb =>
    rw [loopFree, Bool.and_eq_true] at hr
    rw [unanchored, Bool.and_eq_true] at hu
    refine iha hr.1 hu.1 hp (fun q q' h hq => ?_) fun q' h hlt => ?_
    · exact ihb hr.2 hu.2 hq (fun _ _ h' => hk _ _ (.seq h h')) fun _ h' => hpast _ (.seq h h')
    · exact search_eq_none hr.2 fun m hm => hpast m (.seq h hm) (Nat.lt_of_le_of_lt hm.length_le hlt)
  | alt a b iha ihb =>
    rw [loopFree, Bool.and_eq_true] at hr
    rw [unanchored, Bool.and_eq_true] at hu
    exact rel_or
      (iha hr.1 hu.1 hp (fun q q' h => hk q q' (.first h)) fun q' h => hpast q' (.first h))
      (ihb hr.2 hu.2 hp (fun q q' h => hk q q' (.second h)) fun q' h => hpast q' (.second h))
  | run chars greedy =>
    have hleads : ∀ q' ∈ alongFrom chars p' (p.rest ++ u), Leads (.run chars greedy) p' q' := fun q' hq' => by
      rw [← hp.rest] at hq'
      obtain ⟨w, v, hrest, hw, hall, rfl⟩ := mem_along.mp hq'
      exact .run hrest hw hall
    have h := findSome?_along_extends chars greedy p.rest hp (fun q q' hq' => hk q q' (hleads q' hq'))
      fun q' hq' => hpast q' (hleads q' hq')
    rwa [← hp.rest] at h
  | loop r greedy _ => cases hr
  | group index r ih =>
    exact ih hr hu hp (fun q q' h hq => hk _ _ (.group h) (hp.captured hq index)) fun q' h => hpast _ (.group h)

/-- **The match that is found** is the same in a text that goes on, if no way crosses the end of the shorter text. -/
theorem firstEnd?_extends (hr : r.loopFree = true) (hu : r.unanchored = true) {before before' : Option Char}
    {rest : List Char} (hstay : ∀ q', Leads r ⟨0, before', rest ++ u, []⟩ q' → u.length ≤ q'.rest.length) :
    Option.Rel (Extends u) (r.firstEnd? before rest) (r.firstEnd? before' (rest ++ u)) := by
  rw [firstEnd?_eq_search hr, firstEnd?_eq_search hr]
  exact search_extends hr hu ⟨rfl, rfl, rfl⟩ (fun _ _ _ h => .some h) fun q' h hlt =>
    absurd (hstay q' h) (Nat.not_le_of_lt hlt)

/-- Two texts are rewritten **one after the other** if the matches in the first are the same before the second. -/
theorem Rewrites.append {find : Finder} {f : Match → List Char} {before before' : Option Char}
    {text out out' : List Char} (h : Rewrites find f before text out)
    (hfind : ∀ l r before before', text = l ++ r → Option.Rel (Extends u) (find before r) (find before' (r ++ u)))
    (hf : ∀ before w q, find before (w ++ q.rest) = some q → f ⟨w, extendGroups u q.groups⟩ = f ⟨w, q.groups⟩)
    (hrest : ∀ before, Rewrites find f before u out') : Rewrites find f before' (text ++ u) (out ++ out') := by
  induction h generalizing before' with
  | stop _ => exact hrest before'
  | @skip before c rest out h _ ih =>
    refine .skip ?_ (ih fun l r _ _ hr => hfind (c :: l) r _ _ (by rw [hr]; rfl))
    have := hfind [] (c :: rest) before before' rfl
    rw [h] at this
    cases hfind' : find before' (c :: rest ++ u) with
    | none => exact hfind'
    | some q =>
      rw [hfind'] at this
      cases this
  | @hit before w out q h hne htaken _ ih =>
    have hrel := hfind [] (w ++ q.rest) before before' rfl
    rw [h] at hrel
    cases hfind' : find before' (w ++ q.rest ++ u) with
    | none =>
      rw [hfind'] at hrel
      cases hrel
    | some q' =>
      rw [hfind'] at hrel
      cases hrel with
      | some hq =>
        rw [List.append_assoc, ← hq.rest] at hfind' ⊢
        rw [List.append_assoc, ← hf before w q h, ← hq.groups]
        refine .hit hfind' hne (hq.taken.trans htaken) ?_
        rw [hq.rest]
        exact ih fun l r _ _ hr => hfind (w ++ l) r _ _ (by rw [hr, List.append_assoc])

/-- Whether matches of an expression may be replaced **one by one**: each takes a character, none depends on what
stands around it, and neither does what is put in its place. -/
structure Local (r : Regex) (f : Match → List Char) : Prop where
  loopFree : r.loopFree = true
  unanchored : r.unanchored = true
  advances : Finder.Advances r.firstEnd?
  extend : ∀ u before w q, r.firstEnd? before (w ++ q.rest) = some q →
    f ⟨w, extendGroups u q.groups⟩ = f ⟨w, q.groups⟩

section

variable {f : Match → List Char} {text out : List Char} {before : Option Char}

theorem Local.firstEnd?_nil (h : Local r f) (before : Option Char) : r.firstEnd? before [] = none := by
  cases hfind : r.firstEnd? before [] with
  | none => rfl
  | some q =>
    obtain ⟨w, hne, hw, -⟩ := h.advances _ _ _ hfind
    exact absurd (List.append_eq_nil_iff.mp hw.symm).1 hne

/-- It does not matter **what stands before** a text. -/
theorem Local.rewrites (h : Local r f) (text : List Char) (before : Option Char) :
    Rewrites r.firstEnd? f before text (r.replaceAll f text) := by
  have happend : Rewrites r.firstEnd? f before (text ++ []) (r.replaceAll f text ++ []) :=
    (h.advances.rewrites f text).append
      (fun _ _ _ _ _ => firstEnd?_extends h.loopFree h.unanchored fun _ _ => Nat.zero_le _) (h.extend [])
      fun before => .stop (h.firstEnd?_nil before)
  rwa [List.append_nil, List.append_nil] at happend

/-- Matches are replaced in two texts **one after the other** if none goes on past the character between them. -/
theorem Local.replaceAll_append_cons (h : Local r f) {c : Char} (hstay : ∀ l m before q, text = l ++ m →
    Leads r ⟨0, before, m ++ c :: u, []⟩ q → (c :: u).length ≤ q.rest.length) :
    r.replaceAll f (text ++ c :: u) = r.replaceAll f text ++ c :: r.replaceAll f u := by
  have hnone : ∀ before, r.firstEnd? before (c :: u) = none := fun before => by
    cases hfind : r.firstEnd? before (c :: u) with
    | none => rfl
    | some q =>
      obtain ⟨w, hne, hw, -⟩ := h.advances _ _ _ hfind
      have hle := hstay text [] before q (List.append_nil _).symm
        (leads_of_mem_ends h.loopFree (List.mem_of_mem_head? hfind))
      have hpos := List.length_pos_iff.mpr hne
      rw [hw, List.length_append] at hle
      omega
  exact Rewrites.replaceAll_eq ((h.rewrites text none).append
    (fun l m _ before' hl => firstEnd?_extends h.loopFree h.unanchored fun q => hstay l m before' q hl)
    (h.extend _) fun before => .skip (hnone before) (h.rewrites u _))

end

end Regex

end SiteGen
