import SiteGen.Proofs.Template.Outcome

/-!
# One file for each value

Values that are written the same are given the same file.

* `Template.nodup_places`: the files are different just if the values are written differently.
* `Template.expand_list`: then each of them holds what the replacements make of the template with its own
  values.
* `Template.expand_collapse`: a whole number and a text share a file.
-/

namespace SiteGen

open Disk SiteGen.Path Run PositionalReplacement

namespace Template

variable {t : Template} {home : Place} {source : Path} {name : String}

/-- The files of a template are **different places** just if its values are written differently. -/
theorem nodup_places (hs : source.EndsInName name) (hn : ∀ f ∈ t.names, IsPlainName f)
    (hp : t.pattern.hasPlaceholder = true) :
    ((t.files source).map (·.place home)).Nodup ↔ (t.pattern.values.map Scalar.written).Nodup := by
  have hplaces : (t.files source).map (·.place home) = t.names.map (source.above.place home ++ [·]) := by
    rw [files_eq hs hn, siblings, List.map_map]
    exact List.map_congr_left fun f hf => place_child home (hn f hf)
  rw [hplaces, List.nodup_map_iff (concat_injective _), names, FilenamePattern.nodup_filenames hp]

/-- **One file for each value.** A list of values for which a template is expanded gives as many different
files just if all of them are written differently. Then each file holds what the replacements make of the
template, with the values at its position. -/
theorem expand_list {v : Yaml} (hv : ofYaml v = .ok t) {filename : String} {values : List Scalar}
    (hp : t.pattern = .list filename values)
    (hn : ∀ value ∈ values, IsPlainName (t.pattern.filenameFor value)) {base : Path} {w w' : World}
    (ht : w.disk.IsTree) (hhome : w.disk.find? w.disk.home = some .directory) {files : List Path}
    (hon : (t.expand base).on w = (.ok files, w')) :
    files = t.files (base.join t.source) ∧ files.length = values.length ∧
    ((files.map (·.place w.disk.home)).Nodup ↔ (values.map Scalar.written).Nodup) ∧
    ((values.map Scalar.written).Nodup → ∃ content,
      w.disk.find? ((base.join t.source).place w.disk.home) = some (.file content) ∧
      t.Expanded (base.join t.source)
        (fun i => onText (rewriteAll t.replacements values.length i) content) w.disk w'.disk) := by
  have hvalues : t.pattern.values = values := by rw [hp]; rfl
  have hplaceholder := hasPlaceholder_of_ofYaml hv
  have hplain : ∀ f ∈ t.names, IsPlainName f := by
    intro f hf
    obtain ⟨value, hvalue, rfl⟩ := List.mem_map.mp hf
    exact hn value (hvalues ▸ hvalue)
  rw [expand_on] at hon
  split at hon
  · next hfound =>
    obtain ⟨name, content, hname, hnull, hstands, hplace, hfile⟩ := stands_of_hasFile ht hhome hfound
    obtain rfl := fill_ends _ _ _ files w' trivial hon
    refine ⟨rfl, ?_, ?_, fun hnodup => ⟨content, ?_, ?_⟩⟩
    · rw [Template.files, List.length_map, hvalues]
    · rw [nodup_places hname hplain hplaceholder, hvalues]
    · rw [hplace, hfile]
    · have hs : Found w.disk.home (base.join t.source) name content w.disk :=
        ⟨hname, hnull, hstands, hfile⟩
      have hnames : t.names.Nodup := by
        rw [names, FilenamePattern.nodup_filenames hplaceholder, hvalues]
        exact hnodup
      rw [files_eq hname hplain] at hon
      have hfilled := fill_fills hs hplain hnames _ _ w' (t.remarked_disk w) hon
      rw [length_names, hvalues] at hfilled
      exact expanded_of_names hs hplain hfilled.home_eq hfilled.file hfilled.other
  · cases (Prod.mk.inj hon).1

/-- An entry for a template with a list of values. -/
def listEntry (values : List Yaml) : Yaml := .mapping [(.string "path", .string "x/t"),
  (.string "filename_pattern", .mapping [(.string "type", .string "list"),
    (.string "filename_template", .string placeholder), (.string "list", .sequence values)])]

/-- The template of such an entry. -/
def listed (values : List Scalar) : Template := ⟨Path.ofText "x/t", .list placeholder values, []⟩

theorem expand_list_small :
    ofYaml (listEntry [.integer 1, .string "b"]) = .ok (listed [.integer 1, .text "b"]) ∧
    ((listed [.integer 1, .text "b"]).expand ⟨[""]⟩).on smallWorld =
      (.ok [⟨["x", "1"]⟩, ⟨["x", "b"]⟩], (((listed [.integer 1, .text "b"]).expand ⟨[""]⟩).on smallWorld).2) ∧
    ([⟨["x", "1"]⟩, ⟨["x", "b"]⟩].map fun p : Path => p.place []).Nodup ∧
    (((listed [.integer 1, .text "b"]).expand ⟨[""]⟩).on smallWorld).2.disk.find? ["x", "b"] =
      some (.file "n".toUTF8) := by
  have hread : ofYaml (listEntry [.integer 1, .string "b"]) = .ok (listed [.integer 1, .text "b"]) := rfl
  have hon : ((listed [.integer 1, .text "b"]).expand ⟨[""]⟩).on smallWorld =
      (.ok [⟨["x", "1"]⟩, ⟨["x", "b"]⟩],
        (((listed [.integer 1, .text "b"]).expand ⟨[""]⟩).on smallWorld).2) :=
    Prod.ext (eq_ok_of_toOption (by decide +kernel)) rfl
  have hwritten : ([.integer 1, .text "b"].map Scalar.written).Nodup := by decide +kernel
  obtain ⟨-, -, hnodup, hfiles⟩ := expand_list hread rfl (by decide +kernel) (by decide +kernel)
    (by decide +kernel) hon
  obtain ⟨content, hcontent, hexpanded⟩ := hfiles hwritten
  have hsource : smallWorld.disk.find? ["x", "t"] = some (.file "n".toUTF8) := by decide +kernel
  obtain rfl := Entry.file.inj (Option.some.inj (hcontent.symm.trans hsource))
  have hfile := hexpanded.file 1 ⟨["x", "b"]⟩ rfl
  rw [onText_toUTF8] at hfile
  exact ⟨hread, hon, hnodup.mpr hwritten, hfile⟩

/-- A whole number and a text that are written the same **share a file**: it is given twice. -/
theorem expand_collapse :
    ofYaml (listEntry [.integer 1, .string "1"]) = .ok (listed [.integer 1, .text "1"]) ∧
    smallWorld.disk.IsTree ∧ smallWorld.disk.find? smallWorld.disk.home = some .directory ∧
    (∀ f ∈ (listed [.integer 1, .text "1"]).names, IsPlainName f) ∧
    (((listed [.integer 1, .text "1"]).expand ⟨[""]⟩).on smallWorld).1.toOption =
      some [⟨["x", "1"]⟩, ⟨["x", "1"]⟩] ∧
    (((listed [.integer 1, .text "1"]).expand ⟨[""]⟩).on smallWorld).2.disk.names ["x"] =
      [("1", .file "n".toUTF8)] :=
  ⟨rfl, by decide +kernel, by decide +kernel, by decide +kernel, by decide +kernel, by decide +kernel⟩

end Template

end SiteGen
