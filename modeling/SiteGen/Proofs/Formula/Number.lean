import SiteGen.Formula.Evaluate
import SiteGen.Proofs.Decimal.ReadBack

/-!
# The number of a text

* `trimBlank_around`, `trimBlank_of_not_blank`: what is left of a text without the blanks around it.
* `Decimal.splitNumeral?_parts`: an unsigned numeral is digits with a point, and perhaps an exponent.
* `Leaf.number?_around`: a float between blanks denotes itself.
* `Leaf.number?_eq_none`: a text denotes no number if a character in it has no place in one.
-/

namespace SiteGen

/-! ## Blanks -/

variable {a b l r w : List Char} {c : Char}

theorem isBlank_of_isDigit (h : c.isDigit = true) : isBlank c = false := by
  have hrange : ∀ n, 48 ≤ n → n ≤ 57 → CharSet.holds CharSet.blank.ranges n = false := by decide
  simp only [Char.isDigit, Bool.and_eq_true, decide_eq_true_eq] at h
  exact hrange _ (UInt32.le_iff_toNat_le.mp h.1) (UInt32.le_iff_toNat_le.mp h.2)

/-- Between blanks, **the text is left**. -/
theorem trimBlank_around (ha : ∀ c ∈ a, isBlank c = true) (hb : ∀ c ∈ b, isBlank c = true)
    (hw : ∀ c ∈ w, isBlank c = false) (hne : w ≠ []) : trimBlank (a ++ (w ++ b)) = w := by
  have hdrop : ∀ {w u : List Char}, (∀ c ∈ w, isBlank c = false) → w ≠ [] → (w ++ u).dropWhile isBlank = w ++ u :=
    fun {w u} hw hne => by
      obtain ⟨c, w, rfl⟩ := List.exists_cons_of_ne_nil hne
      simp [hw c List.mem_cons_self]
  rw [trimBlank, List.dropWhile_append_of_pos ha, hdrop hw hne, List.reverse_append,
    List.dropWhile_append_of_pos fun c hc => hb c (List.mem_reverse.mp hc)]
  have := hdrop (u := []) (fun c hc => hw c (List.mem_reverse.mp hc)) (by simpa using hne)
  rw [List.append_nil] at this
  rw [this, List.reverse_reverse]

/-- **A character that is not blank** is left, with some of what stands before it and after it. -/
theorem trimBlank_of_not_blank (l r : List Char) (hc : isBlank c = false) :
    ∃ l' r', trimBlank (l ++ c :: r) = l' ++ c :: r' ∧ (∀ d ∈ l', d ∈ l) ∧ ∀ d ∈ r', d ∈ r := by
  have hdrop : ∀ l r : List Char, (l ++ c :: r).dropWhile isBlank = l.dropWhile isBlank ++ c :: r := by
    intro l r
    induction l with
    | nil => simp [hc]
    | cons d l ih =>
      rw [List.cons_append, List.dropWhile_cons, List.dropWhile_cons]
      split
      · exact ih
      · rfl
  refine ⟨l.dropWhile isBlank, (r.reverse.dropWhile isBlank).reverse, ?_, fun d hd => ?_, fun d hd => ?_⟩
  · rw [trimBlank, hdrop, List.reverse_append, List.reverse_cons, List.append_assoc, List.singleton_append, hdrop]
    simp
  · exact (List.dropWhile_sublist _).subset hd
  · exact List.mem_reverse.mp ((List.dropWhile_sublist _).subset (List.mem_reverse.mp hd))

namespace Decimal

/-! ## The parts of a numeral -/

theorem takeSign_parts (w : List Char) : ∃ s, w = s ++ (takeSign w).2 ∧ ∀ c ∈ s, c = '+' ∨ c = '-' := by
  unfold takeSign
  split
  · exact ⟨['-'], rfl, by simp⟩
  · exact ⟨['+'], rfl, by simp⟩
  · exact ⟨[], rfl, nofun⟩

/-- Whether a text is made of **digits and signs**, with at least one digit. -/
def SignedDigits (text : List Char) : Prop :=
  (∀ c ∈ text, c.isDigit = true ∨ c = '+' ∨ c = '-') ∧ ∃ c ∈ text, c.isDigit = true

theorem signedDigits_of_readExponent? {e : Int} (h : readExponent? w = some e) : SignedDigits w := by
  obtain ⟨s, hw, hs⟩ := takeSign_parts w
  unfold readExponent? at h
  dsimp only at h
  split at h
  · cases h
  · next hds =>
    rw [Bool.or_eq_true, not_or, List.isEmpty_iff, Bool.not_eq_true', Bool.not_eq_false, List.all_eq_true] at hds
    obtain ⟨d, ds, hcons⟩ := List.exists_cons_of_ne_nil hds.1
    refine ⟨fun c hc => ?_, d, ?_, hds.2 d (by simp [hcons])⟩
    · rw [hw] at hc
      exact (List.mem_append.mp hc).elim (fun hc => Or.inr (hs c hc)) fun hc => Or.inl (hds.2 c hc)
    · rw [hw, hcons]
      simp

/-- The digits after a point at the beginning of a text, and what comes after them. -/
def takeFraction : List Char → List Char × List Char
  | '.' :: rest => (rest.takeWhile Char.isDigit, rest.dropWhile Char.isDigit)
  | rest => ([], rest)

theorem takeFraction_parts (w : List Char) : ∃ point, w = point ++ ((takeFraction w).1 ++ (takeFraction w).2) ∧
    (∀ c ∈ point, c = '.') ∧ ∀ c ∈ (takeFraction w).1, c.isDigit = true := by
  unfold takeFraction
  split
  · exact ⟨['.'], by rw [List.takeWhile_append_dropWhile]; rfl, by simp, fun c hc => List.mem_takeWhile_imp hc⟩
  · exact ⟨[], rfl, nofun, nofun⟩

theorem splitNumeral?_eq (w : List Char) : splitNumeral? w =
    let whole := w.takeWhile Char.isDigit
    let after := takeFraction (w.dropWhile Char.isDigit)
    if whole.isEmpty && after.1.isEmpty then none
    else match after.2 with
      | [] => some (whole, after.1, 0)
      | c :: rest =>
        if c == 'e' || c == 'E' then (readExponent? rest).map fun e => (whole, after.1, e) else none := rfl

/-- **An unsigned numeral** is digits with a point, and perhaps a letter e with the digits of an exponent. -/
theorem splitNumeral?_parts {parts : List Char × List Char × Int} (h : splitNumeral? w = some parts) :
    ∃ m t, w = m ++ t ∧ (∀ c ∈ m, c.isDigit = true ∨ c = '.') ∧ (∃ c ∈ m, c.isDigit = true) ∧
      (t = [] ∨ ∃ e u, t = e :: u ∧ (e = 'e' ∨ e = 'E') ∧ SignedDigits u) := by
  have hwhole : ∀ c ∈ w.takeWhile Char.isDigit, c.isDigit = true := fun c hc => List.mem_takeWhile_imp hc
  obtain ⟨point, hrest, hpoint, hfraction⟩ := takeFraction_parts (w.dropWhile Char.isDigit)
  rw [splitNumeral?_eq] at h
  dsimp only at h
  generalize takeFraction (w.dropWhile Char.isDigit) = after at *
  obtain ⟨fraction, t⟩ := after
  split at h
  · cases h
  next hne =>
  refine ⟨w.takeWhile Char.isDigit ++ (point ++ fraction), t, ?_, fun c hc => ?_, ?_, ?_⟩
  · rw [List.append_assoc, List.append_assoc, ← hrest, List.takeWhile_append_dropWhile]
  · simp only [List.mem_append] at hc
    rcases hc with hc | hc | hc
    · exact Or.inl (hwhole c hc)
    · exact Or.inr (hpoint c hc)
    · exact Or.inl (hfraction c hc)
  · rw [Bool.and_eq_true, not_and_or, List.isEmpty_iff, List.isEmpty_iff] at hne
    rcases hne with hne | hne
    · exact ⟨_, List.mem_append_left _ (List.head_mem hne), hwhole _ (List.head_mem hne)⟩
    · have hmem := List.head_mem hne
      exact ⟨_, List.mem_append_right _ (List.mem_append_right _ hmem), hfraction _ hmem⟩
  · split at h
    · next ht => exact Or.inl ht
    · next e u ht =>
      split at h
      · next he =>
        obtain ⟨n, hn, -⟩ := Option.map_eq_some_iff.mp h
        exact Or.inr ⟨e, u, ht, by simpa using he, signedDigits_of_readExponent? hn⟩
      · cases h

theorem exponent_of_read? {x : Float} (h : read? (l ++ c :: r) = some x) (hx : isFinite x = true)
    (hdigit : c.isDigit = false) (hc : c ∉ ['.', '+', '-']) :
    (c = 'e' ∨ c = 'E') ∧ (∃ d ∈ l, d.isDigit = true) ∧ ∃ d ∈ r, d.isDigit = true := by
  have hnot : ∀ {t : List Char}, (∀ d ∈ t, d.isDigit = true ∨ d ∈ ['.', '+', '-']) → c ∉ t := fun ht hmem => by
    rcases ht c hmem with h | h
    · rw [hdigit] at h
      cases h
    · exact hc h
  obtain ⟨s, hw, hs⟩ := takeSign_parts (l ++ c :: r)
  unfold read? at h
  dsimp only at h
  split at h
  · next parts hparts =>
    obtain ⟨m, t, hbody, hm, hdigits, ht⟩ := splitNumeral?_parts hparts
    rw [hbody, ← List.append_assoc] at hw
    have hfront : c ∉ s ++ m := hnot fun d hd => (List.mem_append.mp hd).elim
      (fun hd => Or.inr (by rcases hs d hd with rfl | rfl <;> simp))
      fun hd => (hm d hd).imp_right fun h => by simp [h]
    obtain ⟨m', rfl, rfl⟩ : ∃ m', l = s ++ m ++ m' ∧ t = m' ++ c :: r := by
      rcases List.append_eq_append_iff.mp hw with ⟨m', hfront', hrest⟩ | ⟨m', hl, ht⟩
      · cases m' with
        | nil => exact ⟨[], by simp [hfront'], hrest.symm⟩
        | cons d m' =>
          obtain rfl := (List.cons.inj hrest).1
          exact absurd (by rw [hfront']; simp) hfront
      · exact ⟨m', hl, ht⟩
    have hfirst : ∃ d ∈ s ++ m ++ m', d.isDigit = true := by
      obtain ⟨d, hd, hd'⟩ := hdigits
      exact ⟨d, by simp [hd], hd'⟩
    rcases ht with ht | ⟨e, u, heu, he, hu, hdigits'⟩
    · simp at ht
    · cases m' with
      | nil =>
        obtain ⟨rfl, rfl⟩ := List.cons.inj heu
        exact ⟨he, hfirst, hdigits'⟩
      | cons f m' =>
        -- only the first character of an exponent is neither a digit nor a sign
        refine absurd (by rw [← (List.cons.inj heu).2]; simp : c ∈ u) (hnot fun d hd => (hu d hd).imp_right ?_)
        rintro (rfl | rfl) <;> simp
  · have hinf : ∀ negative, isFinite (Binary64.toFloat negative Binary64.infinityBits) = false := by decide +kernel
    have hnan : isFinite (0.0 / 0.0) = false := by decide +kernel
    split at h
    · obtain rfl := Option.some.inj h
      rw [hinf] at hx
      cases hx
    · split at h
      · obtain rfl := Option.some.inj h
        rw [hnan] at hx
        cases hx
      · cases h

end Decimal

namespace Leaf

open Decimal

/-- **A float between blanks** denotes itself. -/
theorem number?_around {x : Float} (ha : ∀ c ∈ a, isBlank c = true) (hb : ∀ c ∈ b, isBlank c = true)
    (hx : isFinite x = true) : number? (a ++ ((plain x).toList ++ b)) = some x := by
  have hplain : ∀ c ∈ (plain x).toList, isBlank c = false := fun c hc => by
    have hall : ['.', 'N', 'a', 'i', 'n', 'f'].all (fun c => !isBlank c) = true := by decide
    rcases mem_plain hc with rfl | hc
    · decide
    rw [isPlainChar, Bool.or_eq_true] at hc
    rcases hc with hc | hc
    · exact isBlank_of_isDigit hc
    · simpa using List.all_eq_true.mp hall c (List.contains_iff_mem.mp hc)
  have hne : (plain x).toList ≠ [] := by
    obtain ⟨negative, N, hwhole, htext, -⟩ := plain_numeral hx
    rw [htext, String.toList_ofList]
    simp [N.text_ne_nil]
  rw [number?, trimBlank_around ha hb hplain hne, read?_plain hx, Option.filter_some, if_pos hx]

/-- A text denotes **no number** if a character in it has no place in one: it is not the letter before an exponent,
or there is no digit on one side of it. -/
theorem number?_eq_none (hblank : isBlank c = false) (hdigit : c.isDigit = false) (hc : c ∉ ['.', '+', '-'])
    (h : c ∉ ['e', 'E'] ∨ (∀ d ∈ l, d.isDigit = false) ∨ ∀ d ∈ r, d.isDigit = false) :
    number? (l ++ c :: r) = none := by
  obtain ⟨l', r', htrim, hl, hr⟩ := trimBlank_of_not_blank l r hblank
  rw [number?, htrim]
  cases hread : read? (l' ++ c :: r') with
  | none => rfl
  | some x =>
    rw [Option.filter_some, if_neg]
    intro hx
    obtain ⟨he, ⟨d, hd, hdl⟩, d', hd', hdr⟩ := exponent_of_read? hread hx hdigit hc
    rcases h with h | h | h
    · exact h (by simpa using he)
    · rw [h d (hl d hd)] at hdl
      cases hdl
    · rw [h d' (hr d' hd')] at hdr
      cases hdr

end Leaf

end SiteGen
