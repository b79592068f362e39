import SiteGen.Proofs.Decimal.Large
import SiteGen.Proofs.Replacement.Literal
import SiteGen.Proofs.Template.Names
import SiteGen.Yaml.PlainScalar

/-!
# Whole numbers in override files

* `Yaml.PlainScalar.value?_toString`: a whole number of at most 64 bits is read as it is written.
* `Yaml.PlainScalar.exists_value?_integer_iff`: no others are read.
* `Scalar.AppearsAs`: what a scalar looks like in filenames and in files.
* `Yaml.asScalar_integer`: what the whole numbers that can be read look like.
-/

namespace SiteGen

open Decimal (digits)

namespace Yaml.PlainScalar

variable {text : String} {n : Int}

/-! ## Reading -/

theorem hexValue?_of_isDigit {c : Char} (h : c.isDigit = true) :
    hexValue? c = some (c.toNat - 48) ∧ c.toNat - 48 < 10 := by
  have hrange : '0' ≤ c ∧ c ≤ '9' := by
    simpa [Char.isDigit, Char.le_def] using h
  refine ⟨if_pos hrange, ?_⟩
  have hhigh : c.toNat ≤ 57 := hrange.2
  omega

theorem inBase?_of_digits {ds : List Char} (hne : ds ≠ []) (h : ∀ c ∈ ds, c.isDigit = true) :
    inBase? 10 ds = some (Decimal.ofDigits ds) := by
  unfold inBase? Decimal.ofDigits
  rw [if_neg (by simpa using hne)]
  generalize 0 = start
  clear hne
  induction ds generalizing start with
  | nil => rfl
  | cons c ds ih =>
    obtain ⟨hvalue, hlt⟩ := hexValue?_of_isDigit (h c List.mem_cons_self)
    rw [List.foldlM_cons, List.foldl_cons, hvalue]
    simp only [Option.bind_some, if_pos hlt]
    exact ih (fun c hc => h c (List.mem_cons_of_mem _ hc)) _

theorem inBase?_digits (n : Nat) : inBase? 10 (digits n) = some n := by
  rw [inBase?_of_digits (Decimal.digits_ne_nil n) fun _ => Decimal.isDigit_of_mem_digits, Decimal.ofDigits_digits]

theorem toList_toString (n : Int) : (toString n).toList = Decimal.sign (decide (n < 0)) ++ digits n.natAbs := by
  rw [Int.toString_eq_repr, Int.repr_eq_if]
  split
  · next h =>
    rw [decide_eq_false (by omega), (by omega : n.toNat = n.natAbs), Nat.repr_eq_ofList_toDigits, String.toList_ofList]
    rfl
  · next h =>
    rw [decide_eq_true (by omega), (by omega : (-n).toNat = n.natAbs), Nat.repr_eq_ofList_toDigits,
      String.toList_append, String.toList_ofList, String.toList_ofList]
    rfl

theorem digits_shape (n : Nat) : based? (digits n) = none ∧ isPadded (digits n) = false ∧
    isPadded ('-' :: digits n) = false ∧ dropPlus (digits n) = digits n := by
  have hdigit : ∀ c ∈ digits n, c.isDigit = true := fun _ => Decimal.isDigit_of_mem_digits
  rcases Decimal.digits_cases n with rfl | ⟨c, ds, hds, hc⟩
  · decide
  · rw [hds] at hdigit ⊢
    have hplus : c ≠ '+' := by
      rintro rfl
      exact absurd (hdigit _ List.mem_cons_self) (by decide)
    have hminus : c ≠ '-' := by
      rintro rfl
      exact absurd (hdigit _ List.mem_cons_self) (by decide)
    refine ⟨?_, ?_, ?_, ?_⟩
    · unfold based?
      split
      all_goals simp_all
    · simp [isPadded, startsWithSign, hc, hplus, hminus]
    · simp [isPadded, startsWithSign, hc]
    · simp [dropPlus, hplus]

theorem integer?_toString (h : fits n = true) : integer? (toString n).toList = some n := by
  obtain ⟨hbased, hpadded, hpadded', hplus⟩ := digits_shape n.natAbs
  have hread := inBase?_digits n.natAbs
  simp only [fits, Bool.and_eq_true, decide_eq_true_eq] at h
  have hwide : n.natAbs < wideLimit ∧ 2 * n.natAbs ≤ wideLimit := by
    unfold wideLimit
    omega
  rw [toList_toString]
  by_cases hneg : n < 0
  · have hminus : inBase? 10 ('-' :: digits n.natAbs) = none := rfl
    have hbased' : based? ('-' :: digits n.natAbs) = none := rfl
    have hvalue : -|n| = n := by rw [abs_of_neg hneg, neg_neg]
    rw [decide_eq_true hneg]
    simp [Decimal.sign, integer?, natural?, negative?, dropPlus, hbased, hbased', hpadded', hread, hminus, hwide.2,
      hvalue, Option.filter_some]
  · have hvalue : (n.natAbs : Int) = n := by omega
    rw [decide_eq_false hneg]
    simp [Decimal.sign, integer?, natural?, hplus, hbased, hpadded, hread, hwide.1, hvalue]

/-- **A whole number** of at most 64 bits is read as it is written. -/
theorem value?_toString (h : fits n = true) : value? (toString n) = some (.integer n) := by
  have hfirst : (toString n).toList.head?.any (fun c => c == '-' || c.isDigit) = true := by
    obtain ⟨c, ds, hds⟩ := List.exists_cons_of_ne_nil (Decimal.digits_ne_nil n.natAbs)
    have hc : c.isDigit = true := Decimal.isDigit_of_mem_digits (hds ▸ List.mem_cons_self)
    rw [toList_toString, hds]
    cases decide (n < 0)
    · simp [Decimal.sign, hc]
    · rfl
  -- no word that is read otherwise begins so
  have hword : ∀ w ∈ ["", "null", "Null", "NULL", "~", "true", "True", "TRUE", "false", "False", "FALSE"],
      toString n ≠ w := by
    have hnot : ∀ w ∈ ["", "null", "Null", "NULL", "~", "true", "True", "TRUE", "false", "False", "FALSE"],
        w.toList.head?.any (fun c => c == '-' || c.isDigit) = false := by decide +kernel
    intro w hw heq
    rw [heq, hnot w hw] at hfirst
    cases hfirst
  have hinteger := integer?_toString h
  generalize toString n = text at *
  simp only [List.forall_mem_cons] at hword
  have hnull : (text.isEmpty || isNull text) = false := by simp [isNull, hword]
  have hbool : bool? text = none := by simp [bool?, hword]
  simp only [value?, hnull, hbool, hinteger, h, if_true, Bool.false_eq_true, if_false]

/-- **The whole numbers that are read** are those of at most 64 bits. -/
theorem exists_value?_integer_iff : (∃ text, value? text = some (.integer n)) ↔ fits n = true := by
  refine ⟨fun ⟨text, htext⟩ => ?_, fun h => ⟨toString n, value?_toString h⟩⟩
  unfold value? at htext
  dsimp only at htext
  split at htext
  · cases htext
  split at htext
  · cases htext
  split at htext
  · split at htext
    · next hfits =>
      cases htext
      exact hfits
    · cases htext
  · split at htext <;> cases htext

end Yaml.PlainScalar

/-! ## Appearance -/

/-- What a scalar **looks like**: in filenames the text stands in place of every placeholder, and replacements put it
in place of their targets. -/
structure Scalar.AppearsAs (v : Scalar) (text : String) : Prop where
  filename (p : FilenamePattern) : ∃ first rest, (∀ piece ∈ first :: rest, ¬placeholder.toList <:+: piece) ∧
    p.template.toList = first ++ rest.flatMap (placeholder.toList ++ ·) ∧
    (p.filenameFor v).toList = first ++ rest.flatMap (text.toList ++ ·)
  positional (r : PositionalReplacement) (path : Path) : r.applyTo v path = do
    let old ← fileText path
    putText path ((Target.mk r.target).replaceAll text old)
  fileset (r : FilesetReplacement) (root : Path) (h : r.value = v) :
    r.apply root = r.applyBy (fun _ => (Target.mk r.target).replaceAll text) root

theorem Scalar.appearsAs_written (v : Scalar) : v.AppearsAs v.written where
  filename p := by
    obtain ⟨first, rest, hpieces, htemplate, hnew⟩ := exists_pieces placeholder_ne_nil p.template.toList
    refine ⟨first, rest, hpieces, htemplate, ?_⟩
    rw [FilenamePattern.filenameFor, String.toList_ofList]
    exact hnew _
  positional r path := rfl
  fileset r root h := by
    have heach : r.applyEachBy (fun _ => (Target.mk r.target).replaceAll v.written) = r.applyEach := by
      funext files
      induction files with
      | nil => rfl
      | cons path files ih =>
        rw [FilesetReplacement.applyEach_cons, FilesetReplacement.applyEachBy, ih, ← h]
        rfl
    rw [FilesetReplacement.apply_eq, FilesetReplacement.applyBy, heach]

namespace Yaml

/-- **Whole numbers**. Every number of 64 bits, with a sign or without, is read as it is written. One of 64 bits with
a sign looks as it is written, in filenames and in files. A larger one is taken as a float and looks like a multiple
of a hundred, which is nearby and the same float. -/
theorem asScalar_integer {n : Int} (hlow : -0x8000000000000000 ≤ n) (hhigh : n < 0x10000000000000000) :
    scalarValue none (toString n) true = .ok (.integer n) ∧
    ∃ v, asScalar (.integer n) = .ok v ∧
      (n < 0x8000000000000000 → v.AppearsAs (toString n)) ∧
      (0x8000000000000000 ≤ n → ∃ N : Nat, v.AppearsAs (toString N) ∧ 100 ∣ N ∧
        floatOfInteger N = floatOfInteger n ∧ n ≤ N + 2048 ∧ N ≤ n + 2048) := by
  have hfits : PlainScalar.fits n = true := by
    unfold PlainScalar.fits
    rw [decide_eq_true hlow, decide_eq_true hhigh, Bool.and_true]
  constructor
  · unfold scalarValue
    dsimp only
    rw [if_pos rfl, PlainScalar.value?_toString hfits]
    rfl
  unfold asScalar
  rw [show hasTag (.integer n) = false from rfl, if_neg Bool.false_ne_true]
  refine ⟨_, rfl, fun h => ?_, fun h => ?_⟩
  · rw [isInteger, decide_eq_true hlow, decide_eq_true h, Bool.and_true, if_pos rfl]
    exact Scalar.appearsAs_written (.integer n)
  · obtain ⟨l, rfl⟩ := Int.eq_ofNat_of_zero_le (by omega : 0 ≤ n)
    obtain ⟨N, hplain, hdvd, hsame, hbelow, habove⟩ :=
      Decimal.plain_ofDecimal_large (n := l) (by omega) (by omega)
    have hfloat : ∀ k : Nat, floatOfInteger k = Binary64.ofDecimal false k 0 := fun k => by
      rw [floatOfInteger, decide_eq_false (by omega), Int.natAbs_natCast]
    refine ⟨N, ?_, hdvd, by rw [hfloat, hfloat, hsame], by omega, by omega⟩
    rw [isInteger, decide_eq_false (Int.not_lt.mpr h), Bool.and_false, if_neg Bool.false_ne_true, ← hplain, ← hfloat]
    exact Scalar.appearsAs_written (.float (floatOfInteger l))

theorem asScalar_integer_extreme :
    (∃ v, asScalar (.integer (-0x8000000000000000)) = .ok v ∧ v.AppearsAs "-9223372036854775808") ∧
    (∃ v, asScalar (.integer 0x7fffffffffffffff) = .ok v ∧ v.AppearsAs "9223372036854775807") ∧
    ∃ v, asScalar (.integer 0xffffffffffffffff) = .ok v ∧ ∃ N : Nat, v.AppearsAs (toString N) ∧ 100 ∣ N := by
  obtain ⟨-, v, hv, hsmall, -⟩ := asScalar_integer (n := -0x8000000000000000) (by decide) (by decide)
  obtain ⟨-, w, hw, hsmall', -⟩ := asScalar_integer (n := 0x7fffffffffffffff) (by decide) (by decide)
  obtain ⟨-, x, hx, -, hlarge⟩ := asScalar_integer (n := 0xffffffffffffffff) (by decide) (by decide)
  obtain ⟨N, happears, hdvd, -⟩ := hlarge (by decide)
  exact ⟨⟨v, hv, hsmall (by decide)⟩, ⟨w, hw, hsmall' (by decide)⟩, ⟨x, hx, N, happears, hdvd⟩⟩

/-- The largest number of 64 bits is read, and written **with other digits**. -/
theorem asScalar_integer_rounded :
    scalarValue none "18446744073709551615" true = .ok (.integer 18446744073709551615) ∧
    (asScalar (.integer 18446744073709551615)).map Scalar.written = .ok "18446744073709552000" := by
  have hread : PlainScalar.value? "18446744073709551615" = some (.integer 18446744073709551615) :=
    PlainScalar.value?_toString (n := 18446744073709551615) (by decide)
  have hwritten : (Scalar.float (floatOfInteger 18446744073709551615)).written = "18446744073709552000" := by
    decide +kernel
  exact ⟨by rw [scalarValue, if_pos rfl, hread]; rfl, congrArg Except.ok hwritten⟩

end Yaml

end SiteGen
