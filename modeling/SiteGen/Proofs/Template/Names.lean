import SiteGen.Proofs.Run.Result
import SiteGen.Template.Basic

/-!
# Names made from values

A filename template has a placeholder, so that the name of a file tells how its value is written.

* `occursIn_iff`: where a word occurs.
* `exists_pieces`: replacing a word cuts a text at fixed pieces, whatever the word is replaced by.
* `replaceFrom_injective`: what a word that occurs is replaced by can be told from the outcome.
* `FilenamePattern.filenameFor_inj`: names are the same just if the values are written the same.
* `Template.hasPlaceholder_of_ofYaml`: a template that is read has a placeholder.
-/

namespace SiteGen

/-! ## Replacing a word -/

variable {word new text : List Char} {c : Char}

theorem dropStart?_isSome_iff : (dropStart? word text).isSome = true ↔ word <+: text := by
  induction word generalizing text with
  | nil => simp [dropStart?]
  | cons c word ih =>
    cases text with
    | nil => simp [dropStart?]
    | cons d text =>
      rw [dropStart?, List.cons_prefix_cons, ← ih]
      split <;> simp [*]

/-- Whether a word occurs is whether it stands **anywhere** in the text. -/
theorem occursIn_iff : occursIn word text = true ↔ word <:+: text := by
  induction text with
  | nil => rw [occursIn, List.isEmpty_iff, List.infix_nil]
  | cons c text ih => rw [occursIn, Bool.or_eq_true, dropStart?_isSome_iff, ih, List.infix_cons_iff]

theorem replaceFrom_skip (word new : List Char) (skip : Nat) (text : List Char) :
    replaceFrom word new skip text = replaceFrom word new 0 (text.drop skip) := by
  induction text generalizing skip with
  | nil =>
    rw [List.drop_nil]
    cases skip <;> rfl
  | cons c text ih =>
    cases skip with
    | zero => rfl
    | succ skip => rw [replaceFrom, ih, List.drop_succ_cons]

theorem replaceFrom_append (hword : word ≠ []) (new rest : List Char) :
    replaceFrom word new 0 (word ++ rest) = new ++ replaceFrom word new 0 rest := by
  obtain ⟨c, tail, rfl⟩ := List.exists_cons_of_ne_nil hword
  have hstands : (dropStart? (c :: tail) (c :: (tail ++ rest))).isSome = true :=
    dropStart?_isSome_iff.mpr ⟨rest, rfl⟩
  rw [List.cons_append, replaceFrom, if_pos hstands, replaceFrom_skip, List.length_cons, Nat.add_sub_cancel,
    List.drop_left]

theorem replaceFrom_cons (hc : ¬word <+: c :: text) (new : List Char) :
    replaceFrom word new 0 (c :: text) = c :: replaceFrom word new 0 text := by
  rw [replaceFrom, if_neg (mt dropStart?_isSome_iff.mp hc)]

/-- Replacing a word **cuts the text at fixed pieces**, in which the word does not occur: what it is replaced by
stands between them, as the word did. -/
theorem exists_pieces (hword : word ≠ []) (text : List Char) :
    ∃ first rest, (∀ piece ∈ first :: rest, ¬word <:+: piece) ∧ text = first ++ rest.flatMap (word ++ ·) ∧
      ∀ new, replaceFrom word new 0 text = first ++ rest.flatMap (new ++ ·) := by
  have hempty : ¬word <:+: [] := fun h => hword (List.infix_nil.mp h)
  induction hn : text.length using Nat.strongRecOn generalizing text with
  | _ n ih =>
    subst hn
    by_cases hp : word <+: text
    · obtain ⟨after, rfl⟩ := hp
      have hpos := List.length_pos_iff.mpr hword
      obtain ⟨first, rest, hpieces, rfl, hnew⟩ := ih after.length (by rw [List.length_append]; omega) after rfl
      refine ⟨[], first :: rest, List.forall_mem_cons.mpr ⟨hempty, hpieces⟩, by simp, fun new => ?_⟩
      rw [replaceFrom_append hword, hnew]
      simp
    · cases text with
      | nil => exact ⟨[], [], by simpa using hempty, rfl, fun _ => rfl⟩
      | cons c text =>
        obtain ⟨first, rest, hpieces, rfl, hnew⟩ := ih text.length (Nat.lt_succ_self _) text rfl
        obtain ⟨hfirst, hrest⟩ := List.forall_mem_cons.mp hpieces
        refine ⟨c :: first, rest, List.forall_mem_cons.mpr ⟨fun h => ?_, hrest⟩, rfl, fun new => ?_⟩
        · -- the word does not begin at the character, nor does it stand behind it
          rcases List.infix_cons_iff.mp h with h | h
          · exact hp (h.trans (List.cons_append ▸ List.prefix_append _ _))
          · exact hfirst h
        · rw [replaceFrom_cons hp, hnew, List.cons_append]

theorem length_flatMap_append (new : List Char) (pieces : List (List Char)) :
    (pieces.flatMap (new ++ ·)).length = pieces.flatten.length + pieces.length * new.length := by
  induction pieces with
  | nil => simp
  | cons piece pieces ih =>
    rw [List.flatMap_cons, List.length_append, ih, List.length_append, List.flatten_cons,
      List.length_append, List.length_cons, Nat.succ_mul]
    omega

/-- What a word that occurs is **replaced by** can be told from the outcome. -/
theorem replaceFrom_injective (hword : word ≠ []) (hoccurs : occursIn word text = true) {a b : List Char}
    (h : replaceFrom word a 0 text = replaceFrom word b 0 text) : a = b := by
  obtain ⟨first, rest, hpieces, rfl, hnew⟩ := exists_pieces hword text
  cases rest with
  | nil =>
    rw [occursIn_iff, List.flatMap_nil, List.append_nil] at hoccurs
    exact absurd hoccurs (hpieces first List.mem_cons_self)
  | cons piece rest =>
    rw [hnew, hnew] at h
    have hrest := List.append_cancel_left h
    have hlength : a.length = b.length := by
      have := congrArg List.length hrest
      rw [length_flatMap_append, length_flatMap_append] at this
      exact Nat.eq_of_mul_eq_mul_left (Nat.succ_pos rest.length) (Nat.add_left_cancel this)
    rw [List.flatMap_cons, List.flatMap_cons, List.append_assoc, List.append_assoc] at hrest
    exact (List.append_inj hrest hlength).1

theorem replaceFrom_self (hword : word ≠ []) : replaceFrom word new 0 word = new := by
  simpa [replaceFrom] using replaceFrom_append hword new []

/-! ## Names -/

theorem placeholder_ne_nil : placeholder.toList ≠ [] := by decide

namespace FilenamePattern

/-- Names are the same just if the values are **written the same**. -/
theorem filenameFor_inj {p : FilenamePattern} (h : p.hasPlaceholder = true) {v v' : Scalar} :
    p.filenameFor v = p.filenameFor v' ↔ v.written = v'.written := by
  refine ⟨fun heq => ?_, fun heq => by rw [filenameFor, filenameFor, heq]⟩
  exact String.toList_inj.mp
    (replaceFrom_injective placeholder_ne_nil h (String.ofList_injective heq))

/-- All names are **different** just if the values are written differently. -/
theorem nodup_filenames {p : FilenamePattern} (h : p.hasPlaceholder = true) (values : List Scalar) :
    (values.map p.filenameFor).Nodup ↔ (values.map Scalar.written).Nodup := by
  simp only [List.nodup_iff_pairwise_ne, List.pairwise_map, ne_eq, filenameFor_inj h]

theorem filenameFor_placeholder (values : List Scalar) (v : Scalar) :
    (list placeholder values).filenameFor v = v.written := by
  rw [filenameFor]
  show String.ofList (replaceFrom placeholder.toList v.written.toList 0 placeholder.toList) = _
  rw [replaceFrom_self placeholder_ne_nil, String.ofList_toList]

end FilenamePattern

theorem Template.hasPlaceholder_of_check {entry : String} {pattern : FilenamePattern}
    (h : Template.checkPattern entry pattern = .ok ()) : pattern.hasPlaceholder = true := by
  cases hp : pattern.hasPlaceholder with
  | true => rfl
  | false =>
    unfold checkPattern at h
    rw [hp] at h
    cases pattern with
    | sequential template low high =>
      simp only [Bool.false_eq_true, if_false] at h
      split at h <;> cases h
    | list template values => cases h

/-- A template that is read **has a placeholder**. -/
theorem Template.hasPlaceholder_of_ofYaml {v : Yaml} {t : Template} (h : Template.ofYaml v = .ok t) :
    t.pattern.hasPlaceholder = true := by
  unfold ofYaml at h
  obtain ⟨f, -, h⟩ := ok_of_bind h
  obtain ⟨path, -, h⟩ := ok_of_bind h
  obtain ⟨fields, -, h⟩ := ok_of_bind h
  obtain ⟨pattern, -, h⟩ := ok_of_bind h
  obtain ⟨_, hcheck, h⟩ := ok_of_bind h
  rw [← Except.ok.inj h]
  exact hasPlaceholder_of_check hcheck

end SiteGen
