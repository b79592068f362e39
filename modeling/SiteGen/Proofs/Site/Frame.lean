import SiteGen.Proofs.Replacement.Literal
import SiteGen.Proofs.Site.Generate

/-!
# What a site may change

* `Override.IsNormal`: an override file whose templates are normal.
* `Site.small`, `Site.chosen`: a small site, and an override file for it.
* `Site.generate_frame`: generating a site changes nothing outside its directory, nor its override file;
  in the directory only outputs of devices, and files that replacements select.
-/

namespace SiteGen

open Disk SiteGen.Path Run Device

/-! ## Normal override files -/

theorem Template.source_ofYaml {v : Yaml} {t : Template} (h : Template.ofYaml v = .ok t) :
    ∃ text, t.source = Path.ofText text := by
  unfold Template.ofYaml at h
  obtain ⟨f, -, h⟩ := ok_of_bind h
  obtain ⟨path, -, h⟩ := ok_of_bind h
  obtain ⟨fields, -, h⟩ := ok_of_bind h
  obtain ⟨pattern, -, h⟩ := ok_of_bind h
  obtain ⟨-, -, h⟩ := ok_of_bind h
  obtain rfl := Except.ok.inj h
  exact ⟨path, rfl⟩

namespace Override

/-- Whether an override file is **normal** for kinds of devices: its templates are. -/
def IsNormal (o : Override) (kinds : List String) : Prop :=
  ∀ kind ∈ kinds, ∀ templates, o.templates kind = .ok (some templates) →
    ∀ t ∈ templates, t.IsNormal

theorem mem_templates {o : Override} {kind : String} {templates : List Template}
    (h : o.templates kind = .ok (some templates)) {t : Template} (ht : t ∈ templates) :
    ∃ text, t.source = Path.ofText text := by
  unfold Override.templates at h
  split at h
  · cases h
  · next v hv =>
    split at h
    · cases h
    · next items hitems =>
      cases hm : items.mapM Template.ofYaml with
      | error e => simp [hm, Except.map] at h
      | ok l =>
        rw [hm] at h
        obtain rfl : l = templates := by simpa [Except.map] using h
        obtain ⟨v, -, hv⟩ := mem_mapM_ok hm t ht
        exact Template.source_ofYaml hv

theorem IsNormal.fits {o : Override} {kinds : List String} (h : o.IsNormal kinds) {kind : String}
    (hk : kind ∈ kinds) {templates : List Template}
    (ho : o.templates kind = .ok (some templates)) : ∀ t ∈ templates, t.Fits := by
  intro t ht
  have hnormal := h kind hk templates ho t ht
  obtain ⟨text, htext⟩ := mem_templates ho ht
  have hsource := hnormal.source
  rw [htext] at hsource
  exact ⟨htext ▸ hsource.descends, hnormal.filename⟩

/-- Whether the **variants** of an override file are plain names. -/
def HasPlainVariants (o : Override) (kinds : List String) : Prop :=
  ∀ kind ∈ kinds, ∀ variant, o.variant kind = .ok (some variant) → IsPlainName variant

theorem isNormal_empty (kinds : List String) : empty.IsNormal kinds := fun _ _ _ h => by cases h

theorem hasPlainVariants_empty (kinds : List String) : empty.HasPlainVariants kinds :=
  fun _ _ _ h => by cases h

end Override

namespace Site

variable {s : Site} {w : World}

/-- Whether a file in the directory of a site is **selected** by a replacement of the override file. -/
def Selected (s : Site) (d : Disk) (names : List String) : Prop :=
  ∃ o rs, s.overrideOn d = .ok o ∧ o.replacements = .ok rs ∧ ∃ r ∈ rs, r.Selects names

/-- The scope of a site which says what may be **changed**. -/
def changing (s : Site) (d : Disk) (blind : Prop) : Scope where
  writes q := ∃ kind, s.HasDevice d kind ∧ Outputs d.home (s.deviceDirectory kind) q
  rewrites q := ∃ names, s.Selected d names ∧ q = s.directory.place d.home ++ names
  reads _ := True
  blind := blind

theorem HasDevice.isDiskName {d : Disk} (ht : d.IsTree) {kind : String} (h : s.HasDevice d kind) :
    IsDiskName kind := ht.name _ _ (by rw [h.2]; rfl)

theorem outputs_iff {home : Place} {kind : String} (hk : IsPlainName kind) {q : Place} :
    Outputs home (s.deviceDirectory kind) q ↔
      ∃ names, q = s.directory.place home ++ names ∧
        ([kind, configName] <+: names ∨ [kind, testsName] <+: names) := by
  have hunder : ∀ top, Under home (s.deviceDirectory kind) top q ↔
      ∃ names, q = s.directory.place home ++ names ∧ [kind, top] <+: names := by
    intro top
    rw [Under, place_deviceDirectory hk, List.append_assoc]
    constructor
    · rintro ⟨m, rfl⟩
      exact ⟨[kind] ++ [top] ++ m, by simp, m, rfl⟩
    · rintro ⟨names, rfl, hm⟩
      exact (List.prefix_append_right_inj _).mpr hm
  constructor
  · rintro (h | h)
    · obtain ⟨names, hq, hm⟩ := (hunder _).mp h
      exact ⟨names, hq, Or.inl hm⟩
    · obtain ⟨names, hq, hm⟩ := (hunder _).mp h
      exact ⟨names, hq, Or.inr hm⟩
  · rintro ⟨names, hq, hm | hm⟩
    · exact Or.inl ((hunder _).mpr ⟨names, hq, hm⟩)
    · exact Or.inr ((hunder _).mpr ⟨names, hq, hm⟩)

theorem not_outputs_of_length {home : Place} {kind : String} (hk : IsPlainName kind) {q : Place}
    (h : q.length ≤ (s.directory.place home).length + 1) :
    ¬Outputs home (s.deviceDirectory kind) q := by
  rw [outputs_iff hk]
  rintro ⟨names, rfl, hm⟩
  have hlong : 2 ≤ names.length := hm.elim List.IsPrefix.length_le List.IsPrefix.length_le
  rw [List.length_append] at h
  omega

theorem siteScope_changing {d : Disk} (ht : d.IsTree) {o : Override}
    (hoverride : s.overrideOn d = .ok o) (ho : o.IsNormal s.workspace.kinds) {blind : Prop}
    (hv : blind → o.HasPlainVariants s.workspace.kinds) :
    SiteScope (s.changing d blind) d.home s o (s.HasDevice d) := by
  refine ⟨⟨fun kind hk => ?_, fun kind hk => ?_, ?_⟩, fun _ _ => trivial, fun _ => trivial, ?_⟩
  · exact ⟨fun q hq => ⟨kind, hk, hq⟩, fun _ _ => trivial, fun _ _ => trivial, fun _ _ => trivial⟩
  · have hmem : kind ∈ s.workspace.kinds := by simpa using hk.1
    refine ⟨fun _ h => ho.fits hmem h, fun v h => ?_⟩
    by_cases hb : blind
    · exact Or.inl (hv hb kind hmem v h)
    · exact Or.inr ⟨hb, fun _ => trivial⟩
  · rintro name ⟨kind, hk, hout⟩
    exact not_outputs_of_length (hk.isDiskName ht).toIsPlainName (by simp) hout
  · exact fun rs hrs r hr names hsel => ⟨names, ⟨o, rs, hoverride, hrs, r, hr, hsel⟩, rfl⟩

theorem changing_confined (hn : IsPlainName s.name) {d : Disk} (ht : d.IsTree)
    (ho : ∀ o, s.overrideOn d = .ok o → o.IsNormal s.workspace.kinds) :
    Confined (s.changing d False) (· = d) s.generate fun _ d' => Stands d.home s.directory d' := by
  refine generate_confined (K := s.HasDevice d) hn ?_ (fun _ _ => trivial) (fun _ => trivial) ?_ ?_
  · rintro d rfl
    exact ⟨ht, rfl⟩
  · rintro _ kind rfl hk
    exact hk
  · rintro _ o rfl hoverride
    exact siteScope_changing ht hoverride (ho o hoverride) False.elim

/-! ## A small site -/

/-- A site in a workspace with one kind of device. -/
def small : Site := ⟨"a", ⟨Path.ofText "w", ["twins"]⟩⟩

/-- A disk with a small site: it has an empty override file and one device, and the root variant has one
fixture. -/
def smallDisk : Disk :=
  [(["w"], Entry.directory), (["w", "config"], .directory), (["w", "config", "a"], .directory),
    (["w", "config", "a", "twins"], .directory),
    (["w", "config", "a", FilesetReplacement.overrideName], .file "\n".toUTF8),
    (["w", "twins_variants"], .directory), (["w", "twins_variants", "root"], .directory),
    (["w", "twins_variants", "root", "tests"], .directory),
    (["w", "twins_variants", "root", "tests", "t.json"], .file "[1]".toUTF8)].foldl
    (fun d (q, e) => d.insert q e) ⟨∅, []⟩

theorem overrideOn_small : small.overrideOn smallDisk = .ok .empty :=
  overrideOn_of_text (@readText_of_readBytes _ _ "\n" rfl) rfl

/-! ## Its override file -/

/-- A text in quotes. -/
def quoted (text : String) : Yaml.WrittenNode := .scalar ⟨none, none⟩ text false

/-- A template with two files. -/
def twoFiles : Yaml :=
  .mapping [(.string "path", .string "f"),
    (.string "filename_pattern", .mapping [(.string "type", .string "list"),
      (.string "filename_template", .string "\x7b\x7btarget\x7d\x7d"),
      (.string "list", .sequence [.string "1", .string "2"])])]

def twoFilesLines : List String :=
  ["\x7b'path': 'f', 'filename_pattern': \x7b'type': 'list', ",
    "'filename_template': '\x7b\x7btarget\x7d\x7d', 'list': ['1', '2']\x7d\x7d"]

def twoFilesTokens : List Yaml.Token :=
  [.openMapping, .key, .scalar "path" false, .value, .scalar "f" false, .comma,
    .key, .scalar "filename_pattern" false, .value, .openMapping,
    .key, .scalar "type" false, .value, .scalar "list" false, .comma,
    .key, .scalar "filename_template" false, .value, .scalar "\x7b\x7btarget\x7d\x7d" false, .comma,
    .key, .scalar "list" false, .value,
    .openSequence, .scalar "1" false, .comma, .scalar "2" false, .closeSequence, .closeMapping, .closeMapping]

def twoFilesNode : Yaml.WrittenNode :=
  .mapping ⟨none, none⟩ [(quoted "path", quoted "f"),
    (quoted "filename_pattern", .mapping ⟨none, none⟩ [(quoted "type", quoted "list"),
      (quoted "filename_template", quoted "\x7b\x7btarget\x7d\x7d"),
      (quoted "list", .sequence ⟨none, none⟩ [quoted "1", quoted "2"])])]

/-- A replacement in the files of the tests. -/
def inTests : Yaml :=
  .mapping [(.string "target", .string "n"), (.string "value", .string "2"),
    (.string "include", .sequence [.string "*/tests/*"])]

/-- This replacement, as it is read. -/
def twoForN : FilesetReplacement := ⟨"n", .text "2", some ["*/tests/*"], none⟩

theorem apply_twoForN : twoForN.apply = twoForN.applyBy (Target.mk "n").substituted := by
  have hliteral : (Target.mk "n").IsLiteral := .inr (by simp [Regex.operators])
  rw [← hliteral.replaceAll_eq]
  rfl

def inTestsLines : List String := ["\x7b'target': 'n', 'value': '2', 'include': ['*/tests/*']\x7d"]

def inTestsTokens : List Yaml.Token :=
  [.openMapping, .key, .scalar "target" false, .value, .scalar "n" false, .comma,
    .key, .scalar "value" false, .value, .scalar "2" false, .comma,
    .key, .scalar "include" false, .value, .openSequence, .scalar "*/tests/*" false, .closeSequence,
    .closeMapping]

def inTestsNode : Yaml.WrittenNode :=
  .mapping ⟨none, none⟩ [(quoted "target", quoted "n"), (quoted "value", quoted "2"),
    (quoted "include", .sequence ⟨none, none⟩ [quoted "*/tests/*"])]

/-- An override file that chooses a variant, with one template and one replacement. -/
def chosen : Override :=
  ⟨[(.string "twins_variant", .string "v"), (.string "twins_templates", .sequence [twoFiles]),
    (.string "replacements", .sequence [inTests])]⟩

def chosenLines : List String :=
  ["'twins_variant': 'v'\n", "'twins_templates': ["] ++ twoFilesLines ++ ["]\n", "'replacements': ["] ++
    inTestsLines ++ ["]\n"]

theorem ofText_chosen : Override.ofText (String.join chosenLines) = .ok chosen := by
  refine @Override.ofText_eq _ ([.blockMapping, .key, .scalar "twins_variant" false, .value,
      .scalar "v" false, .key, .scalar "twins_templates" false, .value, .openSequence] ++ twoFilesTokens ++
      [.closeSequence, .key, .scalar "replacements" false, .value, .openSequence] ++ inTestsTokens ++
      [.closeSequence, .blockEnd, .streamEnd])
    (.mapping ⟨none, none⟩ [(quoted "twins_variant", quoted "v"),
      (quoted "twins_templates", .sequence ⟨none, none⟩ [twoFilesNode]),
      (quoted "replacements", .sequence ⟨none, none⟩ [inTestsNode])])
    (.mapping chosen.settings) _ (by decide +kernel) (by decide +kernel) rfl ?_ rfl
  simp [quoted, chosen, twoFiles, twoFilesNode, inTests, inTestsNode, Yaml.ofDocument, Yaml.Node.link?,
    Yaml.Node.linkEntries?, Yaml.Node.linkItems?, Yaml.Anchors.define, Yaml.Anchors.empty, Yaml.orMalformed,
    Yaml.value, Yaml.entryValues, Yaml.itemValues, Yaml.Repeats.follow, Yaml.depthLimit,
    Yaml.Node.applicationTag?, Yaml.scalarValue, Yaml.wrap, bind, Except.bind, Yaml.same]

theorem templates_chosen : chosen.templates "twins" =
    .ok (some [⟨⟨["f"]⟩, .list "\x7b\x7btarget\x7d\x7d" [.text "1", .text "2"], []⟩]) := rfl

theorem replacements_chosen : chosen.replacements = .ok [twoForN] := rfl

theorem variant_chosen : chosen.variant "twins" = .ok (some "v") := rfl

/-- The small site with this override file. The variant has the file of the template, and one more fixture. -/
def chosenDisk : Disk :=
  [(["w", "config", "a", FilesetReplacement.overrideName], .file (String.join chosenLines).toUTF8),
    (["w", "twins_variants", "v"], Entry.directory), (["w", "twins_variants", "v", "f"], .file "n".toUTF8),
    (["w", "twins_variants", "v", "tests"], .directory),
    (["w", "twins_variants", "v", "tests", "u.json"], .file "[\"n*3\"]".toUTF8)].foldl
    (fun d (q, e) => d.insert q e) smallDisk

theorem overrideOn_chosen : small.overrideOn chosenDisk = .ok chosen :=
  overrideOn_of_text (readText_of_readBytes rfl) ofText_chosen

theorem isNormal_chosen : chosen.IsNormal small.workspace.kinds := by
  intro kind hkind templates h t ht
  obtain rfl := List.mem_singleton.mp hkind
  obtain rfl := Option.some.inj (Except.ok.inj (templates_chosen.symm.trans h))
  obtain rfl := List.mem_singleton.mp ht
  have hparts : ∀ v ∈ [Scalar.text "1", .text "2"],
      (Path.ofText (FilenamePattern.filenameFor (.list "\x7b\x7btarget\x7d\x7d" []) v)).parts =
        [.name v.written] := by
    decide +kernel
  refine ⟨fun part hpart => ⟨"f", List.mem_singleton.mp hpart⟩, fun v hv part hpart => ⟨v.written, ?_⟩⟩
  exact List.mem_singleton.mp (hparts v hv ▸ hpart)

theorem hasPlainVariants_chosen : chosen.HasPlainVariants small.workspace.kinds := by
  intro kind hkind variant h
  obtain rfl := List.mem_singleton.mp hkind
  obtain rfl := Option.some.inj (Except.ok.inj (variant_chosen.symm.trans h))
  decide

theorem selected_chosen : small.Selected chosenDisk ["twins", "tests", "u.json"] :=
  ⟨chosen, _, overrideOn_chosen, replacements_chosen, _, List.mem_singleton_self _, by decide +kernel⟩

/-! ## The frame -/

/-- **The frame of a site**. However generating it ends, nothing outside its directory changes, nor its
override file; in its directory, only the outputs of devices change, and files that a replacement
selects. -/
theorem generate_frame (s : Site) (w : World) (hn : IsPlainName s.name) (ht : w.disk.IsTree)
    (ho : ∀ o, s.overrideOn w.disk = .ok o → o.IsNormal s.workspace.kinds) :
    let d := w.disk
    let d' := (s.generate.on w).2.disk
    let place := s.directory.place d.home
    (∀ q, ¬place <+: q → d'.find? q = d.find? q) ∧
    d'.find? (place ++ [FilesetReplacement.overrideName]) =
      d.find? (place ++ [FilesetReplacement.overrideName]) ∧
    ∀ names, d'.find? (place ++ names) ≠ d.find? (place ++ names) →
      (∃ kind, s.HasDevice d kind ∧
        ([kind, configName] <+: names ∨ [kind, testsName] <+: names)) ∨
      s.Selected d names ∧ (d.find? (place ++ names)).any (·.isFile) = true ∧
        (d'.find? (place ++ names)).any (·.isFile) = true := by
  intro d d' place
  have hwithin := (changing_confined hn ht ho).within w rfl
  have hchange : ∀ q, d'.find? q = d.find? q ∨ ∃ names, q = place ++ names ∧
      ((∃ kind, s.HasDevice d kind ∧
        ([kind, configName] <+: names ∨ [kind, testsName] <+: names)) ∨
      s.Selected d names ∧ (d.find? q).any (·.isFile) = true ∧
        (d'.find? q).any (·.isFile) = true) := by
    intro q
    rcases hwithin.find? q with h | ⟨kind, hk, hout⟩ | ⟨⟨names, hsel, hq⟩, hfiles⟩
    · exact Or.inl h
    · obtain ⟨names, hq, hnames⟩ := (outputs_iff (hk.isDiskName ht).toIsPlainName).mp hout
      exact Or.inr ⟨names, hq, Or.inl ⟨kind, hk, hnames⟩⟩
    · exact Or.inr ⟨names, hq, Or.inr ⟨hsel, hfiles⟩⟩
  refine ⟨fun q hq => ?_, ?_, fun names hne => ?_⟩
  · rcases hchange q with h | ⟨names, rfl, -⟩
    · exact h
    · exact absurd (List.prefix_append _ _) hq
  · rcases hchange (place ++ [FilesetReplacement.overrideName]) with h | ⟨names, hq, hcase⟩
    · exact h
    · obtain rfl := List.append_cancel_left hq
      rcases hcase with ⟨kind, -, hm | hm⟩ | ⟨⟨o, rs, -, -, r, -, hsel⟩, -⟩
      · simpa using hm.length_le
      · simpa using hm.length_le
      · exact absurd hsel r.not_selects_override
  · rcases hchange (place ++ names) with h | ⟨names', hq, hcase⟩
    · exact absurd h hne
    · obtain rfl := List.append_cancel_left hq
      exact hcase

theorem generate_frame_small : chosenDisk.IsTree ∧ small.Selected chosenDisk ["twins", "tests", "u.json"] ∧
    let d := (small.generate.on ⟨chosenDisk, []⟩).2.disk
    (∀ q, ¬["w", "config", "a"] <+: q → d.find? q = chosenDisk.find? q) ∧
    d.find? ["w", "config", "a", "variance.yml"] = chosenDisk.find? ["w", "config", "a", "variance.yml"] ∧
    ∀ names, d.find? (["w", "config", "a"] ++ names) ≠ chosenDisk.find? (["w", "config", "a"] ++ names) →
      (∃ kind, small.HasDevice chosenDisk kind ∧
        ([kind, configName] <+: names ∨ [kind, testsName] <+: names)) ∨
      small.Selected chosenDisk names ∧
        (chosenDisk.find? (["w", "config", "a"] ++ names)).any (·.isFile) = true ∧
        (d.find? (["w", "config", "a"] ++ names)).any (·.isFile) = true := by
  have ht : chosenDisk.IsTree := by decide +kernel
  refine ⟨ht, selected_chosen, generate_frame small ⟨chosenDisk, []⟩ (by decide) ht fun o h => ?_⟩
  obtain rfl := Except.ok.inj (overrideOn_chosen.symm.trans h)
  exact isNormal_chosen

end Site

end SiteGen
