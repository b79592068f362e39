import Mathlib.Data.List.Infix

/-!
# Substitution

A value takes the place of a target in a text, from left to right.

* `substitute`: the text with the value in place of the target.
* `braced`: a name in double braces.
* `not_infix_substitute`: no placeholder is left, and none arises from what stands around the value.
-/

namespace SiteGen

/-- The text with `value` in place of `target` **wherever it stands**, from left to right; what has been replaced
counts no more. A target without characters stands before every character and at the end. -/
def substitute (target value : List Char) : List Char → List Char
  | [] => if target = [] then value else []
  | c :: rest =>
    if target = [] then value ++ c :: substitute target value rest
    else if target <+: c :: rest then value ++ substitute target value ((c :: rest).drop target.length)
    else c :: substitute target value rest
termination_by text => text.length
decreasing_by
  · exact Nat.lt_succ_self _
  · rename_i hne _
    have := List.length_pos_iff.mpr hne
    rw [List.length_drop, List.length_cons]
    omega
  · exact Nat.lt_succ_self _

section

variable {target value text rest : List Char} {c : Char}

theorem substitute_nil (h : target ≠ []) : substitute target value [] = [] := by
  rw [substitute, if_neg h]

theorem substitute_append (h : target ≠ []) (value rest : List Char) :
    substitute target value (target ++ rest) = value ++ substitute target value rest := by
  obtain ⟨c, t, rfl⟩ := List.exists_cons_of_ne_nil h
  rw [List.cons_append, substitute, if_neg h, if_pos ⟨rest, rfl⟩, ← List.cons_append, List.drop_left]

theorem substitute_cons (h : target ≠ []) (hc : ¬target <+: c :: rest) (value : List Char) :
    substitute target value (c :: rest) = c :: substitute target value rest := by
  rw [substitute, if_neg h, if_neg hc]

theorem substitute_empty_cons (value rest : List Char) (c : Char) :
    substitute [] value (c :: rest) = value ++ c :: substitute [] value rest := by
  rw [substitute, if_pos rfl]

/-- How a substitution **goes on**: past a target, or past a character at which none begins. -/
theorem substitute_induction {motive : List Char → List Char → Prop} (h : target ≠ []) (value : List Char)
    (stop : motive [] [])
    (skip : ∀ c rest out, ¬target <+: c :: rest → motive rest out → motive (c :: rest) (c :: out))
    (hit : ∀ rest out, motive rest out → motive (target ++ rest) (value ++ out)) (text : List Char) :
    motive text (substitute target value text) := by
  induction hn : text.length using Nat.strongRecOn generalizing text with
  | _ n ih =>
    subst hn
    by_cases hp : target <+: text
    · obtain ⟨rest, rfl⟩ := hp
      have hpos := List.length_pos_iff.mpr h
      rw [substitute_append h]
      exact hit _ _ (ih rest.length (by rw [List.length_append]; omega) rest rfl)
    · cases text with
      | nil =>
        rw [substitute_nil h]
        exact stop
      | cons c rest =>
        rw [substitute_cons h hp]
        exact skip _ _ _ hp (ih rest.length (Nat.lt_succ_self _) rest rfl)

end

/-! ## Placeholders -/

/-- A **placeholder**: a name in double braces. -/
def braced (name : List Char) : List Char := '\x7b' :: '\x7b' :: name ++ ['\x7d', '\x7d']

section

variable {name value text w l s out : List Char} {c : Char}

theorem braced_ne_nil (name : List Char) : braced name ≠ [] := List.cons_ne_nil _ _

theorem infix_of_infix_cons (hw : w ≠ []) (hc : c ∉ w) (h : w <:+: c :: l) : w <:+: l := by
  rcases List.infix_cons_iff.mp h with h | h
  · obtain ⟨d, t, rfl⟩ := List.exists_cons_of_ne_nil hw
    obtain rfl := (List.cons_prefix_cons.mp h).1
    exact absurd List.mem_cons_self hc
  · exact h

theorem infix_of_infix_concat (hw : w ≠ []) (hc : c ∉ w) (h : w <:+: l ++ [c]) : w <:+: l := by
  have hreverse := List.reverse_infix.mpr h
  rw [List.reverse_append] at hreverse
  exact List.reverse_infix.mp
    (infix_of_infix_cons (by simpa using hw) (by simpa using hc) hreverse)

theorem infix_of_infix_append (hc : c ∉ w) (h : c :: s <:+: w ++ l) : c :: s <:+: l := by
  induction w with
  | nil => exact h
  | cons d w ih =>
    rw [List.mem_cons, not_or] at hc
    rcases List.infix_cons_iff.mp h with h | h
    · exact absurd (List.cons_prefix_cons.mp h).1 hc.1
    · exact ih hc.2 h

theorem infix_name_of_infix_braced (hw : w ≠ []) (hleft : '\x7b' ∉ w) (hright : '\x7d' ∉ w)
    (h : w <:+: braced name) : w <:+: name := by
  have hbraces : w <:+: (name ++ ['\x7d']) ++ ['\x7d'] := by
    rw [List.append_assoc]
    exact infix_of_infix_cons hw hleft (infix_of_infix_cons hw hleft h)
  exact infix_of_infix_concat hw hright (infix_of_infix_concat hw hright hbraces)

theorem brace_mem_of_suffix (hs : s ≠ []) (h : s <:+ braced name) : '\x7d' ∈ s := by
  have hlast : s.getLast hs = (braced name).getLast (braced_ne_nil name) := h.getLast hs
  have : (braced name).getLast (braced_ne_nil name) = '\x7d' := by simp [braced]
  rw [← this, ← hlast]
  exact List.getLast_mem hs

theorem prefix_of_prefix_substitute (hleft : '\x7b' ∉ value) (hright : '\x7d' ∉ value) (hvalue : ¬value <:+: name)
    (text : List Char) : ∀ {s : List Char}, s <:+ braced name →
      s <+: substitute (braced name) value text → s <+: text := by
  refine substitute_induction (motive := fun text out => ∀ {s : List Char}, s <:+ braced name → s <+: out →
    s <+: text) (braced_ne_nil name) value ?_ ?_ ?_ text
  · exact fun _ h => h
  · intro c rest out _ ih s hs h
    cases s with
    | nil => exact List.nil_prefix
    | cons d s =>
      obtain ⟨rfl, htail⟩ := List.cons_prefix_cons.mp h
      exact List.cons_prefix_cons.mpr ⟨rfl, ih ((List.suffix_cons d s).trans hs) htail⟩
  · intro rest out _ s hs h
    by_cases hne : s = []
    · rw [hne]
      exact List.nil_prefix
    -- the value does not reach the closing braces, and it is not in the name
    rcases List.prefix_or_prefix_of_prefix h (List.prefix_append value out) with h | h
    · exact absurd (h.subset (brace_mem_of_suffix hne hs)) hright
    · have hempty : value ≠ [] := by
        rintro rfl
        exact hvalue List.nil_infix
      exact absurd (infix_name_of_infix_braced hempty hleft hright (h.isInfix.trans hs.isInfix)) hvalue

/-- **No placeholder is left** if the value has no braces and is not a part of the name. -/
theorem not_infix_substitute (hleft : '\x7b' ∉ value) (hright : '\x7d' ∉ value) (hvalue : ¬value <:+: name)
    (text : List Char) : ¬braced name <:+: substitute (braced name) value text := by
  have hstart := @prefix_of_prefix_substitute name value hleft hright hvalue
  refine substitute_induction (motive := fun text out => out = substitute (braced name) value text →
    ¬braced name <:+: out) (braced_ne_nil name) value ?_ ?_ ?_ text rfl
  · intro _ h
    exact braced_ne_nil name (List.eq_nil_of_infix_nil h)
  · intro c rest out hnot ih hout h
    have hrest := hout
    rw [substitute_cons (braced_ne_nil name) hnot] at hrest
    rcases List.infix_cons_iff.mp h with h | h
    · rw [hout] at h
      exact hnot (hstart _ List.suffix_rfl h)
    · exact ih (List.cons.inj hrest).2 h
  · intro rest out ih hout h
    rw [substitute_append (braced_ne_nil name)] at hout
    -- an occurrence that began in the value would begin with a brace in it
    exact ih (List.append_cancel_left hout) (infix_of_infix_append hleft h)

end

end SiteGen
