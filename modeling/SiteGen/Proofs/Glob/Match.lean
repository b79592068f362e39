import SiteGen.Proofs.Glob.Pattern
import SiteGen.Proofs.Text.Bytes

/-!
# What globs match

Each piece of a glob leaves some rests of a text, and a text matches if the pieces, one after the other, leave
nothing. That is about bytes. What is said here about patterns is about characters again: where the bytes of a text
in ASCII stand, that text stands.

* `GlobPiece.mem_allOf_cons`: what pieces leave of a text, one after the other.
* `Glob.readPieces_literals`: characters without a meaning of their own stand for themselves.
* `Glob.accepts_of_literals`: a pattern of such characters matches itself only.
* `Glob.accepts_below`: a pattern for an ending at any depth matches all that ends so after its directory.
-/

namespace SiteGen

namespace GlobPiece

variable {piece : GlobPiece} {pieces : List GlobPiece} {text rest l : List UInt8} {texts : List (List UInt8)}

/-! ## Pieces -/

theorem mem_allOf : rest ∈ allOf pieces texts ↔ ∃ text ∈ texts, rest ∈ allOf pieces [text] := by
  induction pieces generalizing texts with
  | nil => simp [allOf]
  | cons piece pieces ih =>
    rw [allOf, ih]
    simp only [List.mem_eraseDups, List.mem_flatMap]
    constructor
    · rintro ⟨m, ⟨text, htext, hm⟩, hrest⟩
      exact ⟨text, htext, by rw [allOf, ih]; exact ⟨m, by simpa using hm, hrest⟩⟩
    · rintro ⟨text, htext, hrest⟩
      rw [allOf, ih] at hrest
      obtain ⟨m, hm, hrest⟩ := hrest
      exact ⟨m, ⟨text, htext, by simpa using hm⟩, hrest⟩

/-- What pieces leave is what the others leave **after the first**. -/
theorem mem_allOf_cons : rest ∈ allOf (piece :: pieces) [text] ↔ ∃ m ∈ rests piece text, rest ∈ allOf pieces [m] := by
  rw [allOf, mem_allOf]
  simp

@[simp] theorem mem_allOf_nil : rest ∈ allOf [] [text] ↔ rest = text := by simp [allOf]

theorem mem_rests_literal : rest ∈ rests (.literal l) text ↔ text = l ++ rest := by
  have hdrop : ∀ {l text : List UInt8}, dropLiteral? l text = some rest ↔ text = l ++ rest := by
    intro l
    induction l with
    | nil => simp [dropLiteral?]
    | cons b l ih =>
      intro text
      cases text with
      | nil => simp [dropLiteral?]
      | cons c text =>
        rw [dropLiteral?]
        split
        · next h => simp [h, ih]
        · next h => simp [Ne.symm h]
  rw [rests, Option.mem_toList]
  exact hdrop

theorem mem_rests_anyName : rest ∈ rests .anyName text ↔ ∃ w, text = w ++ rest ∧ slash ∉ w := by
  rw [rests]
  induction text with
  | nil =>
    rw [afterName, List.mem_singleton]
    constructor
    · rintro rfl
      exact ⟨[], rfl, nofun⟩
    · rintro ⟨w, h, -⟩
      exact (List.append_eq_nil_iff.mp h.symm).2
  | cons c text ih =>
    rw [afterName, List.mem_cons]
    constructor
    · rintro (rfl | h)
      · exact ⟨[], rfl, nofun⟩
      · split at h
        · cases h
        · next hc =>
          obtain ⟨w, rfl, hw⟩ := ih.mp h
          exact ⟨c :: w, rfl, by simp [Ne.symm hc, hw]⟩
    · rintro ⟨w, h, hw⟩
      cases w with
      | nil => exact Or.inl h.symm
      | cons d w =>
        obtain ⟨rfl, rfl⟩ := List.cons.inj h
        rw [List.mem_cons, not_or] at hw
        rw [if_neg (Ne.symm hw.1)]
        exact Or.inr (ih.mpr ⟨w, rfl, hw.2⟩)

theorem mem_rests_innerDirectories :
    rest ∈ rests .innerDirectories text ↔ ∃ u, text = slash :: u ∧ (rest = u ∨ ∃ w, u = w ++ slash :: rest) := by
  have hslashes : ∀ {text : List UInt8}, rest ∈ afterSlashes text ↔ ∃ w, text = w ++ slash :: rest := by
    intro text
    induction text with
    | nil => simp [afterSlashes]
    | cons c text ih =>
      have htail : rest ∈ afterSlashes text ↔ ∃ w, c :: text = c :: w ++ slash :: rest := by
        rw [ih]
        simp
      rw [afterSlashes]
      constructor
      · intro h
        split at h
        · next hc =>
          rcases List.mem_cons.mp h with rfl | h
          · exact ⟨[], by rw [hc]; rfl⟩
          · obtain ⟨w, hw⟩ := htail.mp h
            exact ⟨c :: w, hw⟩
        · obtain ⟨w, hw⟩ := htail.mp h
          exact ⟨c :: w, hw⟩
      · rintro ⟨_ | ⟨d, w⟩, h⟩
        · obtain ⟨rfl, rfl⟩ := List.cons.inj h
          rw [if_pos rfl]
          exact List.mem_cons_self
        · obtain ⟨rfl, -⟩ := List.cons.inj h
          have := htail.mpr ⟨w, h⟩
          split
          · exact List.mem_cons_of_mem _ this
          · exact this
  cases text with
  | nil => simp [rests]
  | cons c text =>
    rw [rests]
    split
    · next hc => simp [hc, hslashes]
    · next hc => simp [hc]

end GlobPiece

namespace Glob

open GlobPiece

variable {pieces : List GlobPiece} {l pattern text : List Char} {o : Open} {before : Option Char} {g : Glob}

/-! ## Literals -/

/-- The pieces that stand for the characters of a text. -/
def literals (text : List Char) : List GlobPiece := text.map fun c => .literal (bytesOf c)

/-- The characters that **have a meaning of their own** in a glob. -/
def special : List Char := ['?', '*', '[', '\x7b', '\x7d', ',', '\\']

theorem bytesOf_eq (c : Char) : bytesOf c = bytes [c] := by
  rw [bytesOf, toUTF8_toList, String.toList_singleton]

theorem mem_allOf_literals {u rest : List UInt8} :
    rest ∈ allOf (literals l ++ pieces) [u] ↔ ∃ m, u = bytes l ++ m ∧ rest ∈ allOf pieces [m] := by
  induction l generalizing u with
  | nil => simp [literals]
  | cons c l ih =>
    have hcons : bytes (c :: l) = bytesOf c ++ bytes l := by rw [bytesOf_eq, ← bytes_append]; rfl
    rw [literals, List.map_cons, List.cons_append, mem_allOf_cons, ← literals]
    simp only [mem_rests_literal, ih, hcons]
    constructor
    · rintro ⟨_, rfl, m, rfl, h⟩
      exact ⟨m, by rw [List.append_assoc], h⟩
    · rintro ⟨m, rfl, h⟩
      exact ⟨bytes l ++ m, by rw [List.append_assoc], m, rfl, h⟩

theorem nil_mem_allOf_literals {u : List UInt8} : [] ∈ allOf (literals l) [u] ↔ u = bytes l := by
  have h := @mem_allOf_literals [] l u []
  simpa using h

theorem readPieces_literal {c : Char} (h : c ∉ special) : readPieces o before (c :: text) =
    readPieces (o.push (.literal (bytesOf c))) (some c) text := by
  simp only [special, List.mem_cons, List.not_mem_nil, or_false, not_or] at h
  obtain ⟨h₁, h₂, h₃, h₄, h₅, h₆, h₇⟩ := h
  rw [readPieces] <;> simp_all

/-- Characters **without a meaning of their own** stand for themselves. -/
theorem readPieces_literals (h : ∀ c ∈ l, c ∉ special) : readPieces o before (l ++ text) =
    readPieces { o with current := (literals l).reverse ++ o.current } (l.getLast?.or before) text := by
  induction l generalizing o before with
  | nil => rfl
  | cons c l ih =>
    rw [List.cons_append, readPieces_literal (h c List.mem_cons_self), ih fun d hd => h d (List.mem_cons_of_mem _ hd)]
    congr 1
    · simp [Open.push, literals]
    · rw [List.getLast?_cons]
      cases l.getLast? <;> rfl

theorem accepts_iff {t : String} (h : g.pieces ≠ [.leadingDirectories]) :
    g.accepts t = true ↔ [] ∈ allOf g.pieces [bytes t.toList] := by
  rw [accepts, toUTF8_toList]
  split
  · next hp => exact absurd hp h
  · simp

theorem trimHere_eq (h : text.head? ≠ some '.') : trimHere text = text :=
  trimHere_eq_self fun ⟨rest, hrest⟩ => h (by rw [← hrest]; rfl)

/-- A pattern of characters without a meaning of their own **matches itself only**. -/
theorem accepts_of_literals {s : String} (h : ∀ c ∈ s.toList, c ∉ special) (hdot : s.toList.head? ≠ some '.') :
    ∃ g, ofPattern s = .ok g ∧ ∀ t, g.accepts t = true ↔ t = s := by
  refine ⟨⟨literals s.toList⟩, ?_, fun t => ?_⟩
  · have hread : readPieces ⟨[], []⟩ none (s.toList ++ []) = readPieces ⟨(literals s.toList).reverse ++ [], []⟩ _ [] :=
      readPieces_literals h
    rw [List.append_nil, List.append_nil] at hread
    rw [ofPattern, trimHere_eq hdot, read, String.toList_ofList, hread, readPieces]
    simp [Open.inBraces]
  · have hpieces : literals s.toList ≠ [.leadingDirectories] := by
      cases hs : s.toList <;> simp [literals]
    rw [accepts_iff (g := ⟨literals s.toList⟩) hpieces, nil_mem_allOf_literals]
    exact ⟨fun h => String.toList_inj.mp (bytes_injective h), fun h => by rw [h]⟩

/-! ## Files at any depth -/

theorem mem_allOf_below {u rest : List UInt8} :
    rest ∈ allOf (.innerDirectories :: .anyName :: pieces) [u] ↔
      ∃ y m, u = slash :: (y ++ m) ∧ rest ∈ allOf pieces [m] := by
  simp only [mem_allOf_cons, mem_rests_innerDirectories, mem_rests_anyName]
  constructor
  · rintro ⟨_, ⟨u, rfl, rfl | ⟨v, rfl⟩⟩, m, ⟨w, rfl, -⟩, hrest⟩
    · exact ⟨w, m, rfl, hrest⟩
    · exact ⟨v ++ slash :: w, m, by rw [List.append_assoc]; rfl, hrest⟩
  · rintro ⟨y, m, rfl, hrest⟩
    by_cases hy : slash ∈ y
    · -- the name begins after the last slash
      obtain ⟨w, v, hw, hslash⟩ := List.eq_append_cons_of_mem (List.mem_reverse.mpr hy)
      have hcut : y ++ m = v.reverse ++ slash :: (w.reverse ++ m) := by
        rw [← List.reverse_reverse y, hw]
        simp
      exact ⟨w.reverse ++ m, ⟨_, rfl, Or.inr ⟨v.reverse, hcut⟩⟩, m, ⟨w.reverse, rfl, by simpa using hslash⟩, hrest⟩
    · exact ⟨y ++ m, ⟨_, rfl, Or.inl rfl⟩, m, ⟨y, rfl, hy⟩, hrest⟩

/-- The glob for the names with an ending **at any depth below a directory**. -/
def below (directory ending : List Char) : Glob :=
  ⟨literals directory ++ .innerDirectories :: .anyName :: literals ending⟩

theorem ofPattern_below {directory ending : List Char} (hdirectory : ∀ c ∈ directory, c ∉ special)
    (hending : ∀ c ∈ ending, c ∉ special) (hdot : directory.head? ≠ some '.') :
    ofPattern (String.ofList (directory ++ '/' :: '*' :: '*' :: '/' :: '*' :: ending)) =
      .ok (below directory ending) := by
  have htrim : trimHere (directory ++ '/' :: '*' :: '*' :: '/' :: '*' :: ending) =
      directory ++ '/' :: '*' :: '*' :: '/' :: '*' :: ending := by
    refine trimHere_eq ?_
    cases directory with
    | nil => simp
    | cons c directory => simpa using hdot
  have hslash : readPieces ⟨(literals directory).reverse ++ [], []⟩ (directory.getLast?.or none)
      ('/' :: '*' :: '*' :: '/' :: '*' :: ending) =
      readPieces ⟨.literal (bytesOf '/') :: (literals directory).reverse, []⟩ (some '/')
        ('*' :: '*' :: '/' :: '*' :: ending) := by
    rw [readPieces_literal (by decide), List.append_nil]
    rfl
  -- the stars come after a slash and before one, so that they take the place of both
  have hstars : readPieces ⟨.literal (bytesOf '/') :: (literals directory).reverse, []⟩ (some '/')
      ('*' :: '*' :: '/' :: '*' :: ending) =
      readPieces ⟨.innerDirectories :: (literals directory).reverse, []⟩ (some '/') ('*' :: ending) := by
    have hread : readStars ⟨.literal (bytesOf '/') :: (literals directory).reverse, []⟩ (some '/')
        ('/' :: '*' :: ending) = (⟨.innerDirectories :: (literals directory).reverse, []⟩, '*' :: ending) := rfl
    rw [readPieces, hread]
    simp
  have hstar : readPieces ⟨.innerDirectories :: (literals directory).reverse, []⟩ (some '/') ('*' :: ending) =
      readPieces ⟨.anyName :: .innerDirectories :: (literals directory).reverse, []⟩ (some '*') (ending ++ []) := by
    rw [readPieces, List.append_nil]
    · rfl
    · rintro rest rfl
      exact hending '*' List.mem_cons_self (by decide)
  have hread : readPieces ⟨[], []⟩ none (directory ++ '/' :: '*' :: '*' :: '/' :: '*' :: ending) =
      .ok ⟨(literals ending).reverse ++ .anyName :: .innerDirectories :: (literals directory).reverse, []⟩ := by
    rw [readPieces_literals hdirectory]
    refine hslash.trans (hstars.trans (hstar.trans ?_))
    rw [readPieces_literals hending, readPieces]
  rw [ofPattern, String.toList_ofList, htrim, Glob.read, String.toList_ofList, hread]
  simp [Open.inBraces, below]

/-- The glob of what is below a directory matches **whatever ends so** after the directory. -/
theorem accepts_below {directory ending : List Char} (hne : ending ≠ []) (hascii : ∀ c ∈ ending, c.toNat < 128)
    {t : String} : (below directory ending).accepts t = true ↔ ∃ y, t.toList = directory ++ '/' :: (y ++ ending) := by
  have hpieces : (below directory ending).pieces ≠ [.leadingDirectories] := by
    cases directory <;> simp [below, literals]
  have hslash : bytes ['/'] = [slash] := by decide
  have hbytes : ∀ y, bytes (directory ++ '/' :: y) = bytes directory ++ slash :: bytes y := fun y => by
    rw [bytes_append, ← List.singleton_append (x := '/'), bytes_append, hslash]
    rfl
  rw [accepts_iff hpieces, below, mem_allOf_literals]
  simp only [mem_allOf_below, nil_mem_allOf_literals]
  constructor
  · rintro ⟨_, hm, y, _, rfl, rfl⟩
    obtain ⟨d, c, k, ht, hd, hc, hk⟩ := bytes_eq_append_cons hm (by decide)
    obtain rfl := bytes_injective hd
    obtain rfl : c = '/' := by
      have hsame : [c] = ['/'] := bytes_injective (by rw [bytes_cons, hc, hslash]; rfl)
      exact (List.cons.inj hsame).1
    obtain ⟨y', z, rfl, -, hz⟩ := exists_of_bytes (r := []) (by rw [hk, List.append_nil]) hne hascii
    obtain rfl : z = [] := bytes_injective hz
    exact ⟨y', by rw [ht, List.append_nil]⟩
  · rintro ⟨y, ht⟩
    exact ⟨_, by rw [ht, hbytes], bytes y, _, by rw [bytes_append], rfl⟩

end Glob

end SiteGen
