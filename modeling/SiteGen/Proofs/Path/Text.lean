import SiteGen.Proofs.Path.Trail

/-!
# The text of a path

Names have no slashes, so that the text of a path tells them apart; an ending without slashes is the ending of the
last name.

* `Path.split_text`: the names on a way are what is between the slashes of its text.
* `Path.split_append_of_no_slash`: what a text that goes on without slashes says about the last name.
* `Path.text_below`: the paths into a directory to names with an ending, by their texts.
-/

namespace SiteGen.Path

variable {w : List Char} {names : List String}

theorem split_append_slash (l r : List Char) : split (l ++ '/' :: r) = split l ++ split r := by
  induction l with
  | nil => simp [split]
  | cons c l ih =>
    rw [List.cons_append, split, split]
    split
    · rw [ih, List.cons_append]
    · rw [ih]
      cases hl : split l with
      | nil => exact absurd hl (split_ne_nil l)
      | cons segment segments => rfl

/-- The names on a way are **between the slashes** of its text. -/
theorem split_text (hne : names ≠ []) (h : ∀ n ∈ names, '/' ∉ n.toList) :
    split (Path.mk names).text.toList = names.map String.toList := by
  rw [text]
  induction names with
  | nil => exact absurd rfl hne
  | cons a names ih =>
    cases names with
    | nil => rw [String.intercalate_singleton, split_of_no_slash (h a List.mem_cons_self)]; rfl
    | cons b names =>
      have hslash : ("/" : String).toList = ['/'] := rfl
      rw [String.intercalate_cons_cons, String.toList_append, String.toList_append, hslash, List.append_assoc,
        List.singleton_append, split_append_slash, split_of_no_slash (h a List.mem_cons_self),
        ih (List.cons_ne_nil _ _) fun n hn => h n (List.mem_cons_of_mem _ hn)]
      rfl

/-- What comes after a text **without slashes** goes on with its last name. -/
theorem split_append_of_no_slash (hw : '/' ∉ w) (l : List Char) :
    ∃ segments last, split l = segments ++ [last] ∧ split (l ++ w) = segments ++ [last ++ w] := by
  induction l with
  | nil => exact ⟨[], [], rfl, split_of_no_slash hw⟩
  | cons c l ih =>
    obtain ⟨segments, last, hl, hlw⟩ := ih
    rw [List.cons_append, split, split]
    split
    · exact ⟨[] :: segments, last, by rw [hl]; rfl, by rw [hlw]; rfl⟩
    · rw [hl, hlw]
      cases segments with
      | nil => exact ⟨[], c :: last, rfl, rfl⟩
      | cons segment segments => exact ⟨(c :: segment) :: segments, last, rfl, rfl⟩

theorem text_concat_append (mid : List String) (stem ending : String) :
    ∃ y, (Path.mk (mid ++ [stem ++ ending])).text.toList = y ++ ending.toList := by
  rw [text]
  cases mid with
  | nil => exact ⟨stem.toList, by rw [List.nil_append, String.intercalate_singleton, String.toList_append]⟩
  | cons a mid =>
    rw [String.intercalate_append_of_ne_nil (List.cons_ne_nil a mid) (List.cons_ne_nil _ []),
      String.intercalate_singleton, ← String.append_assoc, String.toList_append]
    exact ⟨_, rfl⟩

/-- A path leads **into a directory to a name with an ending** if its text begins and ends so. -/
theorem text_below {directory ending : String} (hdirectory : '/' ∉ directory.toList) (hending : '/' ∉ ending.toList)
    (hne : names ≠ []) (h : ∀ n ∈ names, '/' ∉ n.toList) :
    (∃ y, (Path.mk names).text.toList = directory.toList ++ '/' :: (y ++ ending.toList)) ↔
      ∃ mid stem, names = directory :: (mid ++ [stem ++ ending]) := by
  constructor
  · rintro ⟨y, htext⟩
    obtain ⟨segments, last, -, hlast⟩ := split_append_of_no_slash hending y
    have hnames : names.map String.toList = directory.toList :: (segments ++ [last ++ ending.toList]) := by
      rw [← split_text hne h, htext, split_append_slash, split_of_no_slash hdirectory, hlast]
      rfl
    refine ⟨segments.map String.ofList, String.ofList last, ?_⟩
    rw [← List.map_inj_right (f := String.toList) fun _ _ => String.toList_inj.mp, hnames]
    simp
  · rintro ⟨mid, stem, rfl⟩
    obtain ⟨y, hy⟩ := text_concat_append mid stem ending
    rw [text] at hy
    refine ⟨y, ?_⟩
    rw [text, String.intercalate_cons_of_ne_nil (by simp), String.toList_append, String.toList_append, hy,
      List.append_assoc]
    rfl

end SiteGen.Path
