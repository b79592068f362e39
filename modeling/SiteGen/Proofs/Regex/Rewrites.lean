import SiteGen.Regex.Match

/-!
# Replacing matches

* `Regex.Rewrites`: how the matches in a text are replaced, from left to right.
* `Regex.Rewrites.replaceAll_eq`, `Regex.Finder.Advances.rewrites`: this is what `replaceAll` does if every match
  takes a character.
* `Regex.Finder.Advances.replaceAll_eq`: how the matches are replaced can be evaluated.
* `Regex.Finder.Advances.join_text`, `Regex.Finder.Advances.mem_pieces`: the matches at which a text is cut.
-/

namespace SiteGen.Regex

/-- Whether replacing the matches in a text **rewrites** it to another, which stands after a character. -/
inductive Rewrites (find : Finder) (f : Match → List Char) : Option Char → List Char → List Char → Prop
  | stop {before : Option Char} (h : find before [] = none) : Rewrites find f before [] []
  | skip {before : Option Char} {c : Char} {rest out : List Char} (h : find before (c :: rest) = none)
    (hrest : Rewrites find f (some c) rest out) : Rewrites find f before (c :: rest) (c :: out)
  | hit {before : Option Char} {w out : List Char} {q : Position} (h : find before (w ++ q.rest) = some q)
    (hne : w ≠ []) (htaken : q.taken = w.length) (hrest : Rewrites find f q.before q.rest out) :
    Rewrites find f before (w ++ q.rest) (f ⟨w, q.groups⟩ ++ out)

/-- Whether every match **takes** a character. -/
def Finder.Advances (find : Finder) : Prop :=
  ∀ before rest q, find before rest = some q → ∃ w, w ≠ [] ∧ rest = w ++ q.rest ∧ q.taken = w.length

variable {find : Finder} {f : Match → List Char} {before : Option Char} {text out : List Char}

/-- The text that a cut text is put together to. -/
def Split.join (f : Match → List Char) (cut : Split) : List Char :=
  cut.pieces.flatMap (fun piece => piece.1 ++ f piece.2) ++ cut.tail

theorem Rewrites.splitFrom_eq (h : Rewrites find f before text out) (barred : Bool) (gap : List Char) :
    (splitFrom find before text barred gap).join f = gap.reverse ++ out := by
  induction h generalizing barred gap with
  | stop h =>
    rw [splitFrom.eq_def, h]
    simp [Split.join]
  | skip h _ ih =>
    rw [splitFrom.eq_def, h]
    dsimp only
    rw [ih]
    simp
  | hit h hne htaken _ ih =>
    have hlt : ∀ {w u : List Char}, w ≠ [] → u.length < (w ++ u).length := fun hne => by
      have := List.length_pos_iff.mpr hne
      rw [List.length_append]
      omega
    rw [splitFrom.eq_def, h]
    dsimp only
    rw [dif_pos (hlt hne), htaken, List.take_left]
    have := ih true []
    simp only [Split.join, List.reverse_nil, List.nil_append] at this
    simp only [Split.join, List.flatMap_cons, List.append_assoc, this]

/-- **Replacing all matches** rewrites the text. -/
theorem Rewrites.replaceAll_eq (h : Rewrites find f none text out) : find.replaceAll f text = out :=
  h.splitFrom_eq false []

/-- **A match** that leaves `text`, which is rewritten wherever it stands. -/
theorem Rewrites.found {w : List Char} {q : Position} (h : find before (w ++ text) = some q) (hne : w ≠ [])
    (htaken : q.taken = w.length) (hq : q.rest = text) (hrest : ∀ before, Rewrites find f before text out) :
    Rewrites find f before (w ++ text) (f ⟨w, q.groups⟩ ++ out) := by
  subst hq
  exact .hit h hne htaken (hrest _)

/-- A stretch in which **no match begins** stays. -/
theorem Rewrites.append_left {gap : List Char} (h : ∀ l r before, gap = l ++ r → r ≠ [] →
    find before (r ++ text) = none) (hrest : ∀ before, Rewrites find f before text out) (before : Option Char) :
    Rewrites find f before (gap ++ text) (gap ++ out) := by
  induction gap generalizing before with
  | nil => exact hrest before
  | cons c gap ih =>
    refine .skip (h [] (c :: gap) before rfl (List.cons_ne_nil _ _)) (ih (fun l r before' hgap => ?_) _)
    exact h (c :: l) r before' (by rw [hgap]; rfl)

/-- A text **without matches** stays. -/
theorem Rewrites.of_none (h : ∀ l r before, text = l ++ r → find before r = none) (before : Option Char) :
    Rewrites find f before text text := by
  have hstop : ∀ before, Rewrites find f before [] [] := fun before =>
    .stop (h text [] before (List.append_nil _).symm)
  have happend : Rewrites find f before (text ++ []) (text ++ []) := Rewrites.append_left
    (fun l r before htext _ => by rw [List.append_nil]; exact h l r before htext) hstop before
  rwa [List.append_nil] at happend

theorem Finder.Advances.exists_rewrites (hfind : find.Advances) (before : Option Char) (text : List Char) :
    ∃ out, Rewrites find f before text out := by
  induction hn : text.length using Nat.strongRecOn generalizing before text with
  | _ n ih =>
    subst hn
    cases h : find before text with
    | none =>
      cases text with
      | nil => exact ⟨[], .stop h⟩
      | cons c rest =>
        obtain ⟨out, hout⟩ := ih rest.length (Nat.lt_succ_self _) (some c) rest rfl
        exact ⟨c :: out, .skip h hout⟩
    | some q =>
      obtain ⟨w, hne, rfl, htaken⟩ := hfind before text q h
      have hpos := List.length_pos_iff.mpr hne
      obtain ⟨out, hout⟩ := ih q.rest.length (by rw [List.length_append]; omega) q.before q.rest rfl
      exact ⟨_, .hit h hne htaken hout⟩

/-- If every match takes a character, **every text** is rewritten. -/
theorem Finder.Advances.rewrites (hfind : find.Advances) (f : Match → List Char) (text : List Char) :
    Rewrites find f none text (find.replaceAll f text) := by
  obtain ⟨out, h⟩ := hfind.exists_rewrites (f := f) none text
  rwa [h.replaceAll_eq]

/-- The text with its matches replaced, as far as `fuel` steps go; this can be **evaluated**. -/
def Finder.replaceWithin (find : Finder) (f : Match → List Char) : Nat → Option Char → List Char → List Char
  | 0, _, rest => rest
  | fuel + 1, before, rest =>
    match find before rest with
    | some q => f ⟨rest.take q.taken, q.groups⟩ ++ find.replaceWithin f fuel q.before q.rest
    | none =>
      match rest with
      | [] => []
      | c :: rest => c :: find.replaceWithin f fuel (some c) rest

theorem Rewrites.replaceWithin_eq (h : Rewrites find f before text out) {fuel : Nat} (hfuel : text.length < fuel) :
    find.replaceWithin f fuel before text = out := by
  induction h generalizing fuel with
  | stop h =>
    obtain ⟨n, rfl⟩ := Nat.exists_eq_succ_of_ne_zero (Nat.ne_of_gt hfuel)
    rw [Finder.replaceWithin, h]
  | skip h _ ih =>
    obtain ⟨n, rfl⟩ := Nat.exists_eq_succ_of_ne_zero (Nat.ne_zero_of_lt hfuel)
    rw [Finder.replaceWithin, h]
    dsimp only
    rw [ih (Nat.lt_of_succ_lt_succ hfuel)]
  | hit h hne htaken _ ih =>
    obtain ⟨n, rfl⟩ := Nat.exists_eq_succ_of_ne_zero (Nat.ne_zero_of_lt hfuel)
    rw [Finder.replaceWithin.eq_def]
    dsimp only
    rw [h]
    dsimp only
    have := List.length_pos_iff.mpr hne
    rw [htaken, List.take_left, ih (by rw [List.length_append] at hfuel; omega)]

/-- If every match takes a character, a step for every character **is enough**. -/
theorem Finder.Advances.replaceAll_eq (hfind : find.Advances) (f : Match → List Char) (text : List Char) :
    find.replaceAll f text = find.replaceWithin f (text.length + 1) none text :=
  ((hfind.rewrites f text).replaceWithin_eq (Nat.lt_succ_self _)).symm

/-! ## The matches of a text -/

theorem Rewrites.eq_of_text (h : Rewrites find Match.text before text out) : out = text := by
  induction h with
  | stop _ => rfl
  | skip _ _ ih => rw [ih]
  | hit _ _ _ _ ih => rw [ih]

theorem Rewrites.mem_pieces (h : Rewrites find f before text out) (barred : Bool) (gap : List Char)
    {piece : List Char × Match} (hp : piece ∈ (splitFrom find before text barred gap).pieces) :
    ∃ before w q, find before (w ++ q.rest) = some q ∧ piece.2 = ⟨w, q.groups⟩ := by
  induction h generalizing barred gap with
  | stop h =>
    rw [splitFrom.eq_def, h] at hp
    cases hp
  | skip h _ ih =>
    rw [splitFrom.eq_def, h] at hp
    exact ih _ _ hp
  | @hit before w out q h hne htaken _ ih =>
    have hlt : q.rest.length < (w ++ q.rest).length := by
      have := List.length_pos_iff.mpr hne
      rw [List.length_append]
      omega
    rw [splitFrom.eq_def, h] at hp
    dsimp only at hp
    rw [dif_pos hlt, htaken, List.take_left] at hp
    rcases List.mem_cons.mp hp with rfl | hp
    · exact ⟨before, w, q, h, rfl⟩
    · exact ih _ _ hp

/-- A text that is cut at its matches is put together **from what was matched** and what lies between. -/
theorem Finder.Advances.join_text (hfind : find.Advances) (text : List Char) :
    (find.split text).join Match.text = text :=
  (hfind.rewrites Match.text text).eq_of_text

/-- **The matches** at which a text is cut have been found. -/
theorem Finder.Advances.mem_pieces (hfind : find.Advances) {piece : List Char × Match}
    (hp : piece ∈ (find.split text).pieces) :
    ∃ before w q, find before (w ++ q.rest) = some q ∧ piece.2 = ⟨w, q.groups⟩ :=
  (hfind.rewrites Match.text text).mem_pieces false [] hp

end SiteGen.Regex
