import SiteGen.Proofs.Formula.Number
import SiteGen.Proofs.Formula.Separate
import SiteGen.Proofs.Text.Substitute

/-!
# Texts with an unreplaced wildcard

A text that begins with a wildcard is remarked. The wildcard itself stays, and what follows it is rewritten like any
other text.

* `Formula.BeginsWithWildcard`, `Leaf.hasWildcard_iff`: the texts that are remarked.
* `Leaf.rewrite_wildcard`: the wildcard stays, and no formula goes past it.
* `evaluateText_wildcard`: the outcome for every text, and `evaluateText_wildcard_product`, where it is not the text.
-/

namespace SiteGen

open Regex Position

namespace Formula

variable {name rest : List Char} {c : Char}

/-- Whether a text is **a word**: it has word characters only, and at least one. -/
def IsWord (name : List Char) : Prop := name ≠ [] ∧ ∀ c ∈ name, CharSet.wordChar.contains c = true

/-- Whether a text begins with **an unreplaced wildcard**. -/
def BeginsWithWildcard (text : List Char) : Prop := ∃ name rest, IsWord name ∧ text = braced name ++ rest

theorem exists_leads_wildcard {text : List Char} :
    (∃ q, Leads wildcard ⟨0, none, text, []⟩ q) ↔ BeginsWithWildcard text := by
  have hrun : (Regex.run .wordChar true).isPlain = true := rfl
  constructor
  · rintro ⟨q, h⟩
    obtain ⟨m₃, h, h₄⟩ := leads_seq_iff.mp h
    obtain ⟨m₂, h, h₃⟩ := leads_seq_iff.mp h
    obtain ⟨m₁, h₁, h₂⟩ := leads_seq_iff.mp h
    cases h₁
    obtain ⟨_, t₂, hr₂, hs₂, rfl⟩ := (leads_iff (by decide)).mp h₂
    obtain rfl := spells_text.mp hs₂
    obtain ⟨name, t₃, hr₃, hs₃, rfl⟩ := (leads_iff hrun).mp h₃
    obtain ⟨_, rest, hr₄, hs₄, rfl⟩ := (leads_iff (by decide)).mp h₄
    obtain rfl := spells_text.mp hs₄
    simp only [past_rest] at hr₂ hr₃ hr₄
    subst hr₃ hr₄
    exact ⟨name, rest, hs₃, by simpa [braced] using hr₂⟩
  · rintro ⟨name, rest, hname, htext⟩
    refine ⟨_, leads_seq_iff.mpr ⟨_, leads_seq_iff.mpr ⟨_, leads_seq_iff.mpr ⟨_, .anchor rfl,
      (leads_iff (by decide)).mpr ⟨_, name ++ ('\x7d' :: '\x7d' :: rest), ?_, spells_text.mpr rfl, rfl⟩⟩,
      (leads_iff hrun).mpr ⟨name, '\x7d' :: '\x7d' :: rest, rfl, hname, rfl⟩⟩,
      (leads_iff (by decide)).mpr ⟨_, rest, rfl, spells_text.mpr rfl, rfl⟩⟩⟩
    simpa [braced] using htext

theorem ne_of_isWord (hname : IsWord name) (h : c ∈ '\x7b' :: '\x7b' :: name ++ ['\x7d']) :
    c ≠ '*' ∧ c ≠ '+' ∧ c ≠ '-' := by
  have hword : CharSet.wordChar.contains '*' = false ∧ CharSet.wordChar.contains '+' = false ∧
      CharSet.wordChar.contains '-' = false := by decide +kernel
  have hcases : c = '\x7b' ∨ c = '\x7d' ∨ CharSet.wordChar.contains c = true := by
    simp only [List.cons_append, List.mem_cons, List.mem_append, List.not_mem_nil, or_false] at h
    rcases h with h | h | h | h
    · exact Or.inl h
    · exact Or.inl h
    · exact Or.inr (Or.inr (hname.2 c h))
    · exact Or.inr (Or.inl h)
  rcases hcases with rfl | rfl | h
  · decide
  · decide
  · refine ⟨?_, ?_, ?_⟩ <;> rintro rfl <;> simp [hword] at h

theorem DroopTerms.Valid.sign_mem_of_brace {D : DroopTerms} (hD : D.Valid) {l r : List Char}
    (h : D.text = l ++ '\x7d' :: r) : '+' ∈ l ∨ '-' ∈ l := by
  obtain ⟨s, t, htext, hs, -⟩ := hD.exists_sign
  have hsign : s ∈ l := by
    have h' : ['1', '0', '0', s] ++ t = l ++ '\x7d' :: r := htext.symm.trans h
    rcases List.append_eq_append_iff.mp h' with ⟨m, rfl, -⟩ | ⟨m, hfront, hrest⟩
    · simp
    · cases m with
      | nil => rw [List.append_nil] at hfront; simp [← hfront]
      | cons e m =>
        -- there is no brace up to the sign
        obtain rfl := (List.cons.inj hrest).1
        have hbrace : '\x7d' ∈ ['1', '0', '0', s] := by rw [hfront]; simp
        rcases hs with rfl | rfl <;> exact absurd hbrace (by decide)
  rcases hs with rfl | rfl
  · exact Or.inl hsign
  · exact Or.inr hsign

end Formula

namespace Leaf

open Formula

variable {name rest : List Char}

/-- **The texts that are remarked**. -/
theorem hasWildcard_iff {text : List Char} : hasWildcard text = true ↔ BeginsWithWildcard text := by
  rw [← exists_leads_wildcard, hasWildcard, matchesStart, firstEnd?_eq_search (by decide +kernel),
    isSome_search_iff (by decide +kernel)]
  exact ⟨fun ⟨q, hq, _⟩ => ⟨q, hq⟩, fun ⟨q, hq⟩ => ⟨q, hq, rfl⟩⟩

theorem braced_append (name rest : List Char) :
    braced name ++ rest = ('\x7b' :: '\x7b' :: name ++ ['\x7d']) ++ '\x7d' :: rest := by
  simp [braced]

variable (hname : IsWord name)

include hname

theorem productPass_wildcard (rest : List Char) :
    productPass (braced name ++ rest) = braced name ++ productPass rest := by
  have hself : productPass ('\x7b' :: '\x7b' :: name ++ ['\x7d']) = '\x7b' :: '\x7b' :: name ++ ['\x7d'] :=
    productPass_eq_self (not_hasProduct_of_star fun h => (ne_of_isWord hname h).1 rfl)
  rw [braced_append, braced_append]
  refine (product_local.replaceAll_append_cons fun l m before q _ h => ?_).trans (congrArg (· ++ _) hself)
  obtain ⟨P, u, hP, hrest, rfl⟩ := leads_product.mp h
  by_contra hlt
  obtain ⟨m', hm, -⟩ := exists_of_past hrest (Nat.lt_of_not_le hlt)
  have hbrace : '\x7d' ∈ P.text := by rw [hm]; simp
  rcases hP.mem_text hbrace with h | h | h | h <;> exact absurd h (by decide)

theorem droopPass_wildcard (rest : List Char) :
    droopPass (braced name ++ rest) = braced name ++ droopPass rest := by
  have hsign : ∀ {l : List Char}, l ⊆ '\x7b' :: '\x7b' :: name ++ ['\x7d'] → ¬('+' ∈ l ∨ '-' ∈ l) := fun hl h =>
    h.elim (fun h => (ne_of_isWord hname (hl h)).2.1 rfl) fun h => (ne_of_isWord hname (hl h)).2.2 rfl
  have hself : droopPass ('\x7b' :: '\x7b' :: name ++ ['\x7d']) = '\x7b' :: '\x7b' :: name ++ ['\x7d'] := by
    refine droopPass_eq_self fun D l r hD htext => hsign (l := D.text) ?_ ?_
    · rw [htext]
      exact fun c hc => List.mem_append_right _ (List.mem_append_left _ hc)
    · obtain ⟨s, t, hD, hs, -⟩ := hD.exists_sign
      rcases hs with rfl | rfl <;> simp [hD]
  rw [braced_append, braced_append]
  refine (droop_local.replaceAll_append_cons fun l m before q hl h => ?_).trans (congrArg (· ++ _) hself)
  obtain ⟨D, u, hD, hrest, rfl⟩ := leads_droop.mp h
  by_contra hlt
  obtain ⟨m', hm, -⟩ := exists_of_past hrest (Nat.lt_of_not_le hlt)
  exact hsign (by rw [hl]; exact List.subset_append_right _ _) (hD.sign_mem_of_brace hm)

/-- **The wildcard stays**, and what follows it is rewritten by itself. -/
theorem rewrite_wildcard (rest : List Char) : rewrite (braced name ++ rest) = braced name ++ rewrite rest := by
  rw [rewrite, droopPass_wildcard hname, productPass_wildcard hname]
  rfl

omit hname in
theorem number?_braced (name rest : List Char) : number? (braced name ++ rest) = none :=
  number?_eq_none (l := []) (by decide) (by decide) (by decide) (Or.inl (by decide))

theorem evaluate_wildcard (rest : List Char) :
    evaluate (braced name ++ rest) = .text (braced name ++ rewrite rest) := by
  have hfirst : promoted? (braced name ++ rest) (droopPass (braced name ++ rest)) = none := by
    rw [promoted?, droopPass_wildcard hname, number?_braced, ite_self]
  have hsecond :
      promoted? (droopPass (braced name ++ rest)) (productPass (droopPass (braced name ++ rest))) = none := by
    rw [promoted?, droopPass_wildcard hname, productPass_wildcard hname, number?_braced, ite_self]
  unfold evaluate
  dsimp only
  rw [hfirst]
  dsimp only
  rw [hsecond, ← rewrite_wildcard hname]
  rfl

end Leaf

open Formula

/-- **Texts with an unreplaced wildcard**. Such a text is remarked once, and is a text with the wildcard and what
follows rewritten; so it stays as it is if and only if there is nothing to rewrite behind the wildcard. No other text is
remarked. -/
theorem evaluateText_wildcard (text : String) :
    (∀ name rest, IsWord name → text.toList = braced name ++ rest → wildcardIn text = [text] ∧
      evaluateText text = .string (String.ofList (braced name ++ Leaf.rewrite rest)) ∧
      (evaluateText text = .string text ↔ Leaf.rewrite rest = rest)) ∧
    (¬BeginsWithWildcard text.toList → wildcardIn text = []) := by
  refine ⟨fun name rest hname htext => ?_, fun hnot => ?_⟩
  · have hvalue : evaluateText text = .string (String.ofList (braced name ++ Leaf.rewrite rest)) := by
      rw [evaluateText, htext, Leaf.evaluate_wildcard hname]
      rfl
    refine ⟨?_, hvalue, ?_⟩
    · rw [wildcardIn, if_pos (Leaf.hasWildcard_iff.mpr ⟨name, rest, hname, htext⟩)]
    · rw [hvalue, Json.string.injEq, ← String.toList_inj, String.toList_ofList, htext, List.append_right_inj]
  · rw [wildcardIn, if_neg (mt Leaf.hasWildcard_iff.mp hnot)]

theorem evaluateText_wildcard_small : IsWord ['A'] ∧ "{{A}}_1".toList = braced ['A'] ++ ['_', '1'] ∧
    wildcardIn "{{A}}_1" = ["{{A}}_1"] ∧ ¬BeginsWithWildcard "A_{{A}}".toList ∧ wildcardIn "A_{{A}}" = [] := by
  have hname : IsWord ['A'] := ⟨by decide, List.forall_mem_singleton.mpr (by decide +kernel)⟩
  have htext : "{{A}}_1".toList = braced ['A'] ++ ['_', '1'] := by decide
  have hnot : ¬BeginsWithWildcard "A_{{A}}".toList := by
    rintro ⟨name, rest, -, h⟩
    exact absurd (List.cons.inj h).1 (by decide)
  exact ⟨hname, htext, ((evaluateText_wildcard _).1 _ _ hname htext).1, hnot, (evaluateText_wildcard _).2 hnot⟩

/-- **A product behind a wildcard** is evaluated. -/
theorem evaluateText_wildcard_product : BeginsWithWildcard "{{A}}2*3".toList ∧
    wildcardIn "{{A}}2*3" = ["{{A}}2*3"] ∧ evaluateText "{{A}}2*3" = .string "{{A}}6.0" := by
  have hname : IsWord ['A'] := ⟨by decide, List.forall_mem_singleton.mpr (by decide +kernel)⟩
  have htext : "{{A}}2*3".toList = braced ['A'] ++ "2*3".toList := by decide
  have hrewrite : Leaf.rewrite "2*3".toList = "6.0".toList := by
    simp only [Leaf.rewrite_eq]
    decide +kernel
  refine ⟨⟨_, _, hname, htext⟩, ?_, ?_⟩
  · rw [wildcardIn, if_pos (Leaf.hasWildcard_iff.mpr ⟨_, _, hname, htext⟩)]
  · rw [evaluateText, htext, Leaf.evaluate_wildcard hname, hrewrite]
    exact congrArg Json.string (by decide)

end SiteGen
