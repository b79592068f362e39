import SiteGen.Proofs.Regex.Literal
import SiteGen.Replacement.Apply

/-!
# Literal targets

A target that is no regular expression, or one without operators, is replaced where it stands in a text.

* `Target.IsLiteral`: such targets.
* `Target.replaces_literally`: a literal target is substituted, and every target can be looked for.
-/

namespace SiteGen

open Regex (IsText operators)

namespace Target

/-- Whether a target is **literal**: it is not a regular expression, or it is one without operators. -/
def IsLiteral (t : Target) : Prop := t.regex? = none ∨ ∀ c ∈ t.text.toList, c ∉ operators

instance (t : Target) : Decidable t.IsLiteral := inferInstanceAs (Decidable (_ ∨ _))

/-- The text with `value` in place of the target **wherever it stands**. -/
def substituted (t : Target) (value text : String) : String :=
  String.ofList (substitute t.text.toList value.toList text.toList)

variable {t : Target}

theorem pattern_of_regex?_eq_none (h : t.regex? = none) : t.pattern = Regex.text t.text.toList := by
  rw [pattern, h]
  rfl

theorem IsLiteral.isText_pattern (h : t.IsLiteral) : IsText t.pattern t.text.toList := by
  rcases h with h | h
  · rw [pattern_of_regex?_eq_none h]
    exact .text _
  · obtain ⟨r, hread, hr⟩ := Regex.exists_isText h
    rw [pattern, regex?, hread]
    exact hr

/-- A literal target is **substituted**. -/
theorem IsLiteral.replaceAll_eq (h : t.IsLiteral) : t.replaceAll = t.substituted := by
  funext value text
  rw [replaceAll, h.isText_pattern.replaceAll_eq, substituted]

theorem exists_read?_source (t : Target) : ∃ r, Regex.read? t.source.toList = some r ∧ ∀ value text,
    t.replaceAll value text =
      String.ofList (Regex.Finder.replaceAll r.checkedEnd? (fun _ => value.toList) text.toList) := by
  cases h : t.regex? with
  | some r =>
    refine ⟨r, ?_, fun value text => ?_⟩
    · rw [source, h]
      exact h
    · rw [replaceAll, pattern, h]
      rfl
  | none =>
    obtain ⟨r, hread, hr⟩ := Regex.exists_isText_quote t.text.toList
    refine ⟨r, ?_, fun value text => ?_⟩
    · rw [source, h, Option.isSome_none, if_neg Bool.false_ne_true, String.toList_ofList]
      exact hread
    · rw [IsLiteral.replaceAll_eq (.inl h), substituted, hr.replaceAll_eq]

end Target

/-- **Literal targets are replaced literally**, whatever the value is: carrying out a replacement writes the texts with
the value in place of the target wherever it stands. And every target, written as it is or quoted, is a regular
expression for what is replaced. -/
theorem Target.replaces_literally (t : Target) :
    (∃ r, Regex.read? t.source.toList = some r ∧ ∀ value text, t.replaceAll value text =
      String.ofList (Regex.Finder.replaceAll r.checkedEnd? (fun _ => value.toList) text.toList)) ∧
    (t.IsLiteral → (∀ value text, t.replaceAll value text = t.substituted value text) ∧
      (∀ r : PositionalReplacement, r.target = t.text → ∀ files, r.apply files = r.applyBy t.substituted files) ∧
      ∀ r : FilesetReplacement, r.target = t.text → ∀ root, r.apply root = r.applyBy t.substituted root) := by
  refine ⟨t.exists_read?_source, fun h => ⟨fun value text => by rw [h.replaceAll_eq], fun r hr files => ?_,
    fun r hr root => ?_⟩⟩
  · obtain rfl : t = ⟨r.target⟩ := by rw [hr]
    rw [← h.replaceAll_eq, PositionalReplacement.apply]
  · obtain rfl : t = ⟨r.target⟩ := by rw [hr]
    rw [← h.replaceAll_eq, FilesetReplacement.apply]

theorem Target.replaces_literally_placeholder : (Target.mk "{{A}}").IsLiteral ∧
    (Target.mk "{{A}}").replaceAll "$1" "x{{A}}y{{A}}" = "x$1y$1" := by
  have h : (Target.mk "{{A}}").IsLiteral := .inl (by decide +kernel)
  refine ⟨h, ((Target.replaces_literally _).2 h).1 _ _ |>.trans ?_⟩
  simp [Target.substituted, substitute]

end SiteGen
