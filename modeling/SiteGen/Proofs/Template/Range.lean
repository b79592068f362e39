import Mathlib
import SiteGen.Proofs.Template.Names

/-!
# Ranges of numbers

An entry with a range of numbers makes one file for each of them. It may be used if the range is not too long
and the filename has a placeholder.

* `FilenamePattern.getElem?_values`: the numbers of a range, in order.
* `Template.IsSequential`: whether an entry is complete, with a range.
* `Template.ofYaml_sequential`: when such an entry may be used, and the filenames that it gives.
-/

namespace SiteGen

theorem Scalar.written_integer_inj {m n : Int} :
    (Scalar.integer m).written = (Scalar.integer n).written ↔ m = n := by
  rw [written, written, Int.toString_eq_repr, Int.toString_eq_repr, Int.repr_inj]

namespace FilenamePattern

/-- **The numbers of a range**: each is one more than the one before, up to the last. -/
theorem getElem?_values (template : String) (low high : Int) (i : Nat) :
    (sequential template low high).values[i]? =
      if low + i ≤ high then some (.integer (low + i)) else none := by
  rw [values, List.getElem?_map]
  split
  · next h =>
    rw [List.getElem?_range (by omega)]
    rfl
  · next h =>
    rw [List.getElem?_eq_none (by rw [List.length_range]; omega)]
    rfl

theorem hasPlaceholder_iff {p : FilenamePattern} :
    p.hasPlaceholder = true ↔ placeholder.toList <:+: p.template.toList := occursIn_iff

end FilenamePattern

namespace Template

open FilenamePattern

variable {v : Yaml} {template : String} {low high : Int}

/-- Whether an entry is **complete**, with a filename and the numbers from `low` to `high`: no field has the
wrong form, and none is missing. -/
def IsSequential (v : Yaml) (template : String) (low high : Int) : Prop :=
  ∃ f path p, Fields.ofYaml v = .ok f ∧ f.path = some (some path) ∧ f.pattern = some (some p) ∧
    p.kind = some (some "sequential") ∧ p.template = some (some template) ∧
    p.low = some (some low) ∧ p.high = some (some high)

theorem checkPattern_sequential_iff (entry : String) : checkPattern entry (.sequential template low high) = .ok () ↔
    high - low + 1 ≤ rangeLimit ∧ placeholder.toList <:+: template.toList := by
  have hplaced : (FilenamePattern.sequential template low high).hasPlaceholder = true ↔
      placeholder.toList <:+: template.toList := hasPlaceholder_iff
  unfold checkPattern
  rw [← hplaced, ← Int.not_lt]
  by_cases hlong : high - low + 1 > rangeLimit
  · simp [hlong]
  · by_cases hword : (FilenamePattern.sequential template low high).hasPlaceholder = true
    · simp [hlong, hword]
    · simp [hlong, hword]

theorem IsSequential.ofYaml_eq (h : IsSequential v template low high) : ∃ source replacements,
    ofYaml v = (checkPattern template (.sequential template low high)).map fun _ =>
      ⟨source, .sequential template low high, replacements⟩ := by
  obtain ⟨f, path, p, hread, hpath, hpattern, hkind, htemplate, hlow, hhigh⟩ := h
  have hname : f.name = template := by simp [Fields.name, hpattern, htemplate]
  have hto : p.toPattern template = .ok (.sequential template low high) := by
    unfold PatternFields.toPattern
    rw [hkind, htemplate, hlow, hhigh]
    rfl
  refine ⟨Path.ofText path, (f.replacements.getD none).getD [], ?_⟩
  unfold ofYaml
  rw [hread]
  simp only [Except.mapError, bind, Except.bind, require, hname, hpath, hpattern, hto]
  cases checkPattern template (.sequential template low high) <;> rfl

/-- **Ranges of numbers**. A complete entry may be used just if its range, whose length is counted without
bound, has at most ten thousand numbers and the filename has a placeholder. Its values are then the numbers of
the range in order. Different numbers give different filenames, in which each placeholder of the template has
become the number. -/
theorem ofYaml_sequential (h : IsSequential v template low high) :
    ((∃ t, ofYaml v = .ok t) ↔ high - low + 1 ≤ 10000 ∧ placeholder.toList <:+: template.toList) ∧
    ∀ t, ofYaml v = .ok t →
      (∀ i : Nat, t.pattern.values[i]? = if low + i ≤ high then some (.integer (low + i)) else none) ∧
      (∀ m n : Int, t.pattern.filenameFor (.integer m) = t.pattern.filenameFor (.integer n) → m = n) ∧
      ∃ first rest, (∀ piece ∈ first :: rest, ¬placeholder.toList <:+: piece) ∧
        template.toList = first ++ rest.flatMap (placeholder.toList ++ ·) ∧
        ∀ n : Int, (t.pattern.filenameFor (.integer n)).toList =
          first ++ rest.flatMap ((toString n).toList ++ ·) := by
  obtain ⟨source, replacements, hread⟩ := h.ofYaml_eq
  constructor
  · refine Iff.trans ?_ (checkPattern_sequential_iff template)
    rw [hread]
    cases checkPattern template (.sequential template low high) with
    | error e => simp [Except.map]
    | ok _ => simp [Except.map]
  · intro t ht
    have hplaceholder := hasPlaceholder_of_ofYaml ht
    obtain ⟨-, -, rfl⟩ := ok_of_map (hread.symm.trans ht)
    refine ⟨getElem?_values template low high, fun m n heq => ?_, ?_⟩
    · exact Scalar.written_integer_inj.mp ((filenameFor_inj hplaceholder).mp heq)
    · obtain ⟨first, rest, hpieces, htemplate, hnew⟩ := exists_pieces placeholder_ne_nil template.toList
      refine ⟨first, rest, hpieces, htemplate, fun n => ?_⟩
      rw [filenameFor, String.toList_ofList]
      exact hnew _

/-- A pattern with a range of numbers. -/
def rangePattern (template : String) (low high : Int) : Yaml := .mapping [(.string "type", .string "sequential"),
  (.string "filename_template", .string template), (.string "from", .integer low), (.string "to", .integer high)]

/-- An entry with such a pattern. -/
def rangeEntry (path template : String) (low high : Int) : Yaml :=
  .mapping [(.string "path", .string path), (.string "filename_pattern", rangePattern template low high)]

theorem read_rangePattern (template : String) (hlow : Yaml.isInteger low = true)
    (hhigh : Yaml.isInteger high = true) : PatternFields.ofYaml (rangePattern template low high) =
      .ok ⟨some (some "sequential"), some (some template), some (some low), some (some high), none⟩ := by
  simp [rangePattern, PatternFields.ofYaml, PatternFields.read, Yaml.asFields, Yaml.untagged, Yaml.readFields,
    Yaml.asFieldName, Yaml.readOnce, Yaml.asOptional, Yaml.asText, Yaml.asInteger, hlow, hhigh, bind, Except.bind,
    Except.map]

theorem isSequential_rangeEntry (path template : String) (hlow : Yaml.isInteger low = true)
    (hhigh : Yaml.isInteger high = true) : IsSequential (rangeEntry path template low high) template low high := by
  have hpattern := read_rangePattern template hlow hhigh
  refine ⟨⟨some (some path), some (some ⟨some (some "sequential"), some (some template), some (some low),
    some (some high), none⟩), none⟩, path, _, ?_, rfl, rfl, rfl, rfl, rfl, rfl⟩
  unfold rangePattern at hpattern
  simp [rangeEntry, rangePattern, hpattern, Fields.ofYaml, Fields.read, Yaml.asFields, Yaml.untagged,
    Yaml.readFields, Yaml.asFieldName, Yaml.readOnce, Yaml.asOptional, Yaml.asText, bind, Except.bind, Except.map]

theorem ofYaml_sequential_extreme :
    (∃ t, ofYaml (rangeEntry "x/t" "{{target}}1" 0x7ffffffffffffffe 0x7fffffffffffffff) = .ok t ∧
      t.pattern.values[1]? = some (.integer 0x7fffffffffffffff) ∧ t.pattern.values[2]? = none) ∧
    ¬∃ t, ofYaml (rangeEntry "x/t" "{{target}}1" (-0x8000000000000000) 0x7fffffffffffffff) = .ok t := by
  have hlast : IsSequential (rangeEntry "x/t" "{{target}}1" 0x7ffffffffffffffe 0x7fffffffffffffff) "{{target}}1"
      0x7ffffffffffffffe 0x7fffffffffffffff := isSequential_rangeEntry _ _ (by decide) (by decide)
  have hall : IsSequential (rangeEntry "x/t" "{{target}}1" (-0x8000000000000000) 0x7fffffffffffffff) "{{target}}1"
      (-0x8000000000000000) 0x7fffffffffffffff := isSequential_rangeEntry _ _ (by decide) (by decide)
  obtain ⟨haccepts, hvalues⟩ := ofYaml_sequential hlast
  obtain ⟨hrejects, -⟩ := ofYaml_sequential hall
  obtain ⟨t, ht⟩ := haccepts.mpr (by decide +kernel)
  obtain ⟨hnth, -⟩ := hvalues t ht
  refine ⟨⟨t, ht, ?_, ?_⟩, fun h => absurd (hrejects.mp h).1 (by decide)⟩
  · rw [hnth, if_pos (by decide)]
    rfl
  · rw [hnth, if_neg (by decide)]

end Template

end SiteGen
