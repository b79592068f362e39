import SiteGen.Regex.Meaning
import SiteGen.Regex.Residual
import SiteGen.Proofs.Regex.Rewrites
import SiteGen.Proofs.Regex.Spells
import SiteGen.Proofs.Text.Substitute

/-!
# Texts that are looked for as they stand

* `Regex.IsText`: an expression stands for one text only.
* `Regex.IsText.replaceAll_eq`: replacing its matches is the substitution of this text.
* `Regex.read?_of_written`: what is read from a text that is written character by character.
* `Regex.exists_isText_quote`, `Regex.exists_isText`: this is how a quoted text is written, and a text without
  operators.
-/

namespace SiteGen.Regex

open Position

variable {a b r : Regex} {s t : List Char}

/-! ## Expressions for one text -/

/-- Whether an expression stands for **one text** only. -/
structure IsText (r : Regex) (t : List Char) : Prop where
  /-- It has no groups, tests and loops. -/
  isPlain : r.isPlain = true
  /-- It has no runs. -/
  unbounded : r.unbounded = 0
  /-- It stands for this text and no other. -/
  spells : ∀ w, r.Spells w ↔ w = t

namespace IsText

theorem empty : IsText .empty [] := ⟨rfl, rfl, fun _ => Iff.rfl⟩

theorem char (c : Char) : IsText (char c) [c] := ⟨rfl, rfl, fun _ => spells_char⟩

theorem seq (ha : IsText a s) (hb : IsText b t) : IsText (.seq a b) (s ++ t) where
  isPlain := by rw [Regex.isPlain, ha.isPlain, hb.isPlain, Bool.and_self]
  unbounded := by rw [Regex.unbounded, ha.unbounded, hb.unbounded]
  spells w := by
    constructor
    · rintro ⟨v, v', rfl, hv, hv'⟩
      rw [(ha.spells v).mp hv, (hb.spells v').mp hv']
    · rintro rfl
      exact ⟨s, t, rfl, (ha.spells s).mpr rfl, (hb.spells t).mpr rfl⟩

theorem text : ∀ t : List Char, IsText (text t) t
  | [] => empty
  | [c] => char c
  | c :: d :: t => (char c).seq (text (d :: t))

theorem foldl (h : IsText r s) (t : List Char) : IsText ((t.map Regex.char).foldl .seq r) (s ++ t) := by
  induction t generalizing r s with
  | nil => rwa [List.append_nil]
  | cons c t ih =>
    rw [List.append_cons]
    exact ih (h.seq (char c))

theorem sequence : ∀ t : List Char, IsText (sequence (t.map Regex.char)) t
  | [] => empty
  | c :: t => (char c).foldl t

end IsText

theorem loopFree_of_isPlain (h : r.isPlain = true) : r.loopFree = true := by
  induction r with
  | empty | set | run => rfl
  | anchor | loop | group => cases h
  | seq a b iha ihb | alt a b iha ihb =>
    rw [isPlain, Bool.and_eq_true] at h
    rw [loopFree, iha h.1, ihb h.2, Bool.and_self]

theorem IsText.firstEnd?_append (h : IsText r t) (before : Option Char) (rest : List Char) :
    r.firstEnd? before (t ++ rest) = some (past ⟨0, before, t ++ rest, []⟩ t rest) := by
  have hfree := loopFree_of_isPlain h.isPlain
  rw [firstEnd?_eq_search hfree]
  refine search_of_only hfree ((leads_iff h.isPlain).mpr ⟨t, rest, rfl, (h.spells t).mpr rfl, rfl⟩) rfl ?_
  intro q hq _
  obtain ⟨w, u, hrest, hw, rfl⟩ := (leads_iff h.isPlain).mp hq
  obtain rfl := (h.spells w).mp hw
  rw [List.append_cancel_left hrest]

theorem IsText.firstEnd?_eq_none (h : IsText r t) {rest : List Char} (hrest : ¬t <+: rest) (before : Option Char) :
    r.firstEnd? before rest = none := by
  have hfree := loopFree_of_isPlain h.isPlain
  rw [firstEnd?_eq_search hfree]
  refine search_eq_none hfree fun q hq => ?_
  obtain ⟨w, u, hw, hspells, rfl⟩ := (leads_iff h.isPlain).mp hq
  obtain rfl := (h.spells w).mp hspells
  exact absurd ⟨u, hw.symm⟩ hrest

theorem IsText.checkedEnd?_eq (h : IsText r t) : r.checkedEnd? = r.firstEnd? := by
  funext before rest
  rw [checkedEnd?, h.unbounded]
  rfl

theorem IsText.rewrites (h : IsText r t) (ht : t ≠ []) (value text : List Char) :
    ∀ before, Rewrites r.firstEnd? (fun _ => value) before text (substitute t value text) := by
  refine substitute_induction (motive := fun text out =>
    ∀ before, Rewrites r.firstEnd? (fun _ => value) before text out) ht value ?_ ?_ ?_ text
  · exact fun before => .stop (h.firstEnd?_eq_none (fun hp => ht (List.prefix_nil.mp hp)) before)
  · exact fun c rest out hnot ih before => .skip (h.firstEnd?_eq_none hnot before) (ih (some c))
  · intro rest out ih before
    exact Rewrites.found (h.firstEnd?_append before rest) ht (Nat.zero_add _) rfl ih

theorem IsText.splitFrom_join (h : IsText r []) (value text : List Char) (before : Option Char) (gap : List Char) :
    (splitFrom r.firstEnd? before text false gap).join (fun _ => value) =
      gap.reverse ++ substitute [] value text := by
  have hfind := fun before rest => h.firstEnd?_append before rest
  simp only [List.nil_append] at hfind
  have hstep : ∀ before rest gap, splitFrom r.firstEnd? before rest false gap =
      ⟨(gap.reverse, ⟨[], []⟩) :: (splitFrom r.firstEnd? before rest true []).pieces,
        (splitFrom r.firstEnd? before rest true []).tail⟩ := by
    intro before rest gap
    rw [splitFrom.eq_def, hfind]
    simp
  induction text generalizing before gap with
  | nil =>
    rw [hstep, splitFrom.eq_def, hfind, substitute]
    simp [Split.join]
  | cons c rest ih =>
    -- right after the empty match the character is passed over
    have hbarred : splitFrom r.firstEnd? before (c :: rest) true [] =
        splitFrom r.firstEnd? (some c) rest false [c] := by
      rw [splitFrom.eq_def, hfind]
      simp
    have hrest := ih (some c) [c]
    rw [hstep, hbarred, substitute_empty_cons]
    simp only [Split.join] at hrest
    simp [Split.join, hrest]

/-- Replacing the matches of an expression for one text is **the substitution** of this text. -/
theorem IsText.replaceAll_eq (h : IsText r t) (value text : List Char) :
    Finder.replaceAll r.checkedEnd? (fun _ => value) text = substitute t value text := by
  rw [h.checkedEnd?_eq]
  by_cases ht : t = []
  · subst ht
    exact h.splitFrom_join value text none []
  · exact (h.rewrites ht value text none).replaceAll_eq

/-! ## Texts written character by character -/

/-- The characters that are **operators** where they stand. -/
def operators : List Char :=
  ['\\', '.', '+', '*', '?', '(', ')', '|', '[', ']', '\x7b', '\x7d', '^', '$']

/-- Whether a character is **written** so that it stands for itself: as it is, or with a backslash in front. -/
def IsWritten (w : List Char) (c : Char) : Prop :=
  w = [c] ∧ c ∉ operators ∨ w = ['\\', c] ∧ isMeta c = true

theorem isWritten_quote (c : Char) : IsWritten (if isMeta c then ['\\', c] else [c]) c := by
  split
  · next h => exact .inr ⟨rfl, h⟩
  · next h =>
    refine .inl ⟨rfl, fun hc => h ?_⟩
    exact List.contains_iff_mem.mpr (List.mem_append_left ['#', '&', '-', '~'] hc)

end SiteGen.Regex

namespace SiteGen.Pattern

open Regex (IsWritten operators isMeta)

variable {c : Char} {w rest : List Char}

/-- The part that a character is read as. -/
def character (c : Char) : Pattern := .literal ⟨c, false⟩

theorem Progress.step_of_not_operator (p : Progress) (hc : c ∉ operators) (rest : List Char) :
    p.step c rest = some (p.push (character c), rest) := by
  unfold Progress.step
  split
  all_goals first | rfl | exact absurd (by decide) hc

theorem readEscape_of_isMeta (hc : isMeta c = true) (rest : List Char) :
    readEscape false (c :: rest) = some (character c, rest) := by
  unfold readEscape
  dsimp only
  split
  all_goals first | exact absurd hc (by decide) | skip
  rw [hc]
  rfl

/-- The progress after the characters of a text, where no group is open. -/
def Progress.past (parts : List Pattern) : Progress := ⟨parts, [], false, [], []⟩

theorem Progress.step_written (parts : List Pattern) (hw : IsWritten w c) (rest : List Char) :
    ∃ d tail, w ++ rest = d :: tail ∧ (past parts).step d tail = some (past (character c :: parts), rest) := by
  rcases hw with ⟨rfl, hc⟩ | ⟨rfl, hc⟩
  · exact ⟨c, rest, rfl, step_of_not_operator _ hc rest⟩
  · refine ⟨'\\', c :: rest, rfl, ?_⟩
    show (readEscape false (c :: rest)).map _ = _
    rw [readEscape_of_isMeta hc]
    rfl

theorem readFrom_written {write : Char → List Char} {text : List Char} (hwrite : ∀ c ∈ text, IsWritten (write c) c)
    {fuel : Nat} (hfuel : text.length < fuel) (parts : List Pattern) :
    readFrom fuel (.past parts) (text.flatMap write) = some (ofParts ((text.map character).reverse ++ parts)) := by
  induction text generalizing fuel parts with
  | nil =>
    obtain ⟨n, rfl⟩ := Nat.exists_eq_succ_of_ne_zero (Nat.ne_zero_of_lt hfuel)
    rfl
  | cons c text ih =>
    obtain ⟨n, rfl⟩ := Nat.exists_eq_succ_of_ne_zero (Nat.ne_zero_of_lt hfuel)
    obtain ⟨d, tail, htail, hstep⟩ := Progress.step_written parts (hwrite c List.mem_cons_self)
      (text.flatMap write)
    rw [List.flatMap_cons, htail, readFrom]
    have hskip : skip (Progress.past parts).ignore (d :: tail) = d :: tail := rfl
    rw [hskip]
    dsimp only
    rw [hstep]
    refine (ih (fun c hc => hwrite c (List.mem_cons_of_mem _ hc)) (Nat.lt_of_succ_lt_succ hfuel) _).trans ?_
    rw [List.map_cons, List.reverse_cons, List.append_assoc]
    rfl

theorem depth_ofParts_le (parts : List Pattern) : (ofParts parts).depth ≤ depths parts.reverse + 1 := by
  unfold ofParts
  split
  · exact Nat.zero_le _
  · rw [List.reverse_singleton, depths]
    exact Nat.le_succ_of_le (Nat.le_max_left _ _)
  · rw [depth]

theorem depths_characters (text : List Char) : depths (text.map character) = 0 := by
  induction text with
  | nil => rfl
  | cons c text ih => rw [List.map_cons, depths, ih]; rfl

theorem meaningIn?_ofParts (mode : Mode) (parts : List Pattern) :
    meaningIn? mode (ofParts parts) = (meaningsIn? mode parts.reverse).map fun m => (Regex.sequence m.1, m.2) := by
  unfold ofParts
  split
  · rfl
  · next part =>
    rw [List.reverse_singleton, meaningsIn?]
    cases meaningIn? mode part <;> rfl
  · rw [meaningIn?]
    cases meaningsIn? mode parts.reverse <;> rfl

theorem meaningsIn?_characters (text : List Char) :
    meaningsIn? .initial (text.map character) = some (text.map Regex.char, .initial) := by
  induction text with
  | nil => rfl
  | cons c text ih =>
    have hc : meaningIn? .initial (character c) = some (Regex.char c, .initial) := rfl
    rw [List.map_cons, meaningsIn?, hc, Option.bind_eq_bind, Option.bind_some]
    dsimp only
    rw [ih]
    rfl

end SiteGen.Pattern

namespace SiteGen.Regex

open Pattern

/-- **What is read** from a text that is written character by character. -/
theorem read?_of_written {write : Char → List Char} {text : List Char}
    (hwrite : ∀ c ∈ text, IsWritten (write c) c) :
    read? (text.flatMap write) = some (sequence (text.map char)) := by
  have hlength : text.length < (text.flatMap write).length + 1 := by
    refine Nat.lt_succ_of_le ?_
    induction text with
    | nil => exact Nat.zero_le _
    | cons c text ih =>
      have hpos : 1 ≤ (write c).length := by
        rcases hwrite c List.mem_cons_self with ⟨hw, -⟩ | ⟨hw, -⟩ <;> rw [hw] <;> exact Nat.le_add_left _ _
      have := ih fun c hc => hwrite c (List.mem_cons_of_mem _ hc)
      rw [List.flatMap_cons, List.length_append, List.length_cons]
      omega
  have hread : Pattern.read? (text.flatMap write) = some (ofParts (text.map character).reverse) := by
    have hfrom := readFrom_written hwrite hlength []
    rw [List.append_nil] at hfrom
    have hdepth := depth_ofParts_le (text.map character).reverse
    rw [List.reverse_reverse, depths_characters] at hdepth
    rw [Pattern.read?, ← Progress.past, hfrom]
    exact Option.filter_eq_some_iff.mpr ⟨rfl, decide_eq_true (hdepth.trans (by decide))⟩
  rw [read?, hread, Option.bind_some, meaning?, meaningIn?_ofParts, List.reverse_reverse, meaningsIn?_characters]
  rfl

/-- What is read from **a quoted text** stands for this text. -/
theorem exists_isText_quote (text : List Char) : ∃ r, read? (quote text) = some r ∧ IsText r text :=
  ⟨_, read?_of_written fun c _ => isWritten_quote c, .sequence text⟩

/-- What is read from a text **without operators** stands for this text. -/
theorem exists_isText {text : List Char} (h : ∀ c ∈ text, c ∉ operators) :
    ∃ r, read? text = some r ∧ IsText r text := by
  have hread := @read?_of_written (fun c => [c]) text fun c hc => .inl ⟨rfl, h c hc⟩
  rw [List.flatMap_singleton'] at hread
  exact ⟨_, hread, .sequence text⟩

end SiteGen.Regex
