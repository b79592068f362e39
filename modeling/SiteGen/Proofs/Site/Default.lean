import SiteGen.Proofs.Site.Override

/-!
# Replacements without globs

Without globs a replacement is about the configuration in the directory that it is carried out in. In the
directory of a site that is not the configuration of a device, which is one level further down.

* `FilesetReplacement.selects_default`: what a replacement without globs selects.
* `FilesetReplacement.resolve_default`: what it resolves to in the directory of a site.
-/

namespace SiteGen

open Disk SiteGen.Path Run

namespace FilesetReplacement

variable {home : Place} {p : Path} {d : Disk} {r : FilesetReplacement} {names : List String}

/-- The ending of the files that the default glob is about. -/
def defaultEnding : String := ".json"

/-- Whether names lead **into the configuration of a directory** to a name with the default ending. -/
def InConfiguration (names : List String) : Prop := ∃ mid stem, names = configName :: (mid ++ [stem ++ defaultEnding])

/-- Whether a replacement is given **no globs**. -/
structure Globless (r : FilesetReplacement) : Prop where
  includes : r.includes = none
  excludes : r.excludes.getD [] = []

theorem exists_resolved (h : Stands home p d) (hp : p.Accepted)
    (hshort : ∀ names, ¬d.LongBelow (p.place home) p names) {includes excludes : List Glob}
    (hi : Glob.ofPatterns (r.includes.getD [defaultInclude]) = .ok includes)
    (he : Glob.ofPatterns (r.excludes.getD [] ++ [overrideName]) = .ok excludes) :
    ∃ paths, r.resolved d p = .ok paths := by
  rw [resolved, select_of_stands h hp, hi, he, walked_of_short h.tree.nested hshort]
  exact ⟨_, rfl⟩

theorem accepts_default : ∃ g, Glob.ofPatterns [defaultInclude] = .ok [g] ∧
    ∀ text, g.accepts text = true ↔ ∃ y, text.toList = configName.toList ++ '/' :: (y ++ defaultEnding.toList) := by
  have hpattern : defaultInclude = String.ofList
      (configName.toList ++ '/' :: '*' :: '*' :: '/' :: '*' :: defaultEnding.toList) := by decide +kernel
  have hread := @Glob.ofPattern_below configName.toList defaultEnding.toList (by simp [configName, Glob.special])
    (by simp [defaultEnding, Glob.special]) (by decide +kernel)
  refine ⟨_, ?_, fun text => Glob.accepts_below (by decide +kernel) (by simp [defaultEnding])⟩
  rw [hpattern, Glob.ofPatterns, List.mapM_cons, hread]
  rfl

theorem Globless.exists_resolved (hr : r.Globless) (h : Stands home p d) (hp : p.Accepted)
    (hshort : ∀ names, ¬d.LongBelow (p.place home) p names) : ∃ paths, r.resolved d p = .ok paths := by
  obtain ⟨g, hg, -⟩ := accepts_default
  obtain ⟨e, he, -⟩ := accepts_override
  have hexcludes : Glob.ofPatterns (r.excludes.getD [] ++ [overrideName]) = .ok [e] := by
    rw [hr.excludes]
    exact (ofPatterns_concat he).mpr ⟨[], rfl, rfl⟩
  exact FilesetReplacement.exists_resolved h hp hshort (by rw [hr.includes]; exact hg) hexcludes

/-- **What a replacement without globs selects**: the files with the default ending below the configuration of
the directory that it is carried out in. -/
theorem selects_default (hr : r.Globless) (hne : names ≠ []) (h : ∀ n ∈ names, '/' ∉ n.toList) :
    r.Selects names ↔ InConfiguration names := by
  obtain ⟨g, hg, haccepts⟩ := accepts_default
  have hpicks : r.Picks names ↔ g.accepts (Path.mk names).text = true := by
    have hselects : selects [g] [] (Path.mk names).text = g.accepts (Path.mk names).text := by
      simp [selects, Glob.anyAccepts]
    constructor
    · rintro ⟨includes, excludes, hi, he, hsel⟩
      rw [hr.includes, Option.getD_none, hg] at hi
      rw [hr.excludes] at he
      obtain rfl := Except.ok.inj hi
      obtain rfl : [] = excludes := Except.ok.inj he
      rwa [hselects] at hsel
    · exact fun hsel => ⟨[g], [], by rw [hr.includes]; exact hg, by rw [hr.excludes]; rfl, hselects.trans hsel⟩
  rw [r.selects_iff hne h, hpicks, haccepts, text_below (by decide) (by decide) hne h]
  constructor
  · exact And.right
  · rintro ⟨mid, stem, rfl⟩
    exact ⟨by simp [configName, overrideName], mid, stem, rfl⟩

theorem inConfiguration_cons {kind : String} (h : InConfiguration names) :
    InConfiguration (kind :: names) ↔ kind = configName := by
  obtain ⟨mid, stem, rfl⟩ := h
  constructor
  · rintro ⟨mid', stem', heq⟩
    exact (List.cons.inj heq).1
  · rintro rfl
    exact ⟨configName :: mid, stem, rfl⟩

/-- What a replacement without globs resolves to in the directory of a site: **the files with the default
ending below the directory `config`** of the site itself. So it reaches the configuration of a device only if the
device is called `config`, and leaves all other devices as they are. It is resolved unless the path of a directory is
too long. -/
theorem resolve_default (s : Site) (r : FilesetReplacement) (w : World) (ht : w.disk.IsTree)
    (hs : w.disk.hasDirectory s.directory = true) (hr : r.Globless) :
    let place := s.directory.place w.disk.home
    ((∀ names, ¬w.disk.LongBelow place s.directory names) → ∃ paths, (r.resolve s.directory).on w = (.ok paths, w)) ∧
    (∀ paths, (r.resolve s.directory).on w = (.ok paths, w) →
      (∀ names, names ≠ [] → (w.disk.find? (place ++ names)).isSome = true →
        (s.directory.join ⟨names⟩ ∈ paths ↔ InConfiguration names)) ∧
      ∀ kind mid stem,
        (w.disk.find? (place ++ kind :: configName :: (mid ++ [stem ++ defaultEnding]))).isSome = true →
        ((Device.ofSite kind s.directory).config.join ⟨mid ++ [stem ++ defaultEnding]⟩ ∈ paths ↔ kind = configName)) ∧
    ∀ kind rest, kind ≠ configName → (w.disk.find? (place ++ kind :: rest)).isSome = true →
      ((s.replaceAll [r]).on w).2.disk.find? (place ++ kind :: rest) = w.disk.find? (place ++ kind :: rest) := by
  intro place
  obtain ⟨hleads, hp⟩ := leads_of_hasDirectory ht.noLink hs
  have hstands : Stands w.disk.home s.directory w.disk := ⟨ht, rfl, hleads⟩
  have hplain : ∀ {names : List String}, (w.disk.find? (place ++ names)).isSome = true →
      ∀ n ∈ names, IsPlainName n := fun hsome n hn =>
    (ht.isDiskName_of_mem hsome (List.mem_append_right _ hn)).toIsPlainName
  have hmem : ∀ {paths}, r.resolved w.disk s.directory = .ok paths → ∀ names, names ≠ [] →
      (w.disk.find? (place ++ names)).isSome = true → (s.directory.join ⟨names⟩ ∈ paths ↔ InConfiguration names) :=
    fun hresolved names hnames hsome => by
      rw [mem_resolved hstands hp hresolved hnames hsome,
        selects_default hr hnames fun n hn => (hplain hsome n hn).no_slash]
  rw [resolve_on]
  refine ⟨fun hshort => ?_, fun paths hresolve => ?_, fun kind rest hkind hsome => ?_⟩
  · obtain ⟨paths, hresolved⟩ := hr.exists_resolved hstands hp hshort
    exact ⟨paths, by rw [hresolved]⟩
  · have hresolved := (Prod.mk.inj hresolve).1
    refine ⟨hmem hresolved, fun kind mid stem hsome => ?_⟩
    have hk : IsPlainName kind := hplain hsome kind List.mem_cons_self
    have hrest : ∀ n ∈ mid ++ [stem ++ defaultEnding], IsPlainName n := fun n hn =>
      hplain hsome n (List.mem_cons_of_mem _ (List.mem_cons_of_mem _ hn))
    have hjoin : (Device.ofSite kind s.directory).config.join ⟨mid ++ [stem ++ defaultEnding]⟩ =
        s.directory.join ⟨kind :: configName :: (mid ++ [stem ++ defaultEnding])⟩ := by
      rw [Device.config, Device.ofSite, hk.ofText,
        join_join (continues_single kind) (by simpa using hk.ne_empty) (continues_single configName)]
      have hdevice : ∀ n ∈ [kind, configName], IsPlainName n :=
        List.forall_mem_cons.mpr ⟨hk, List.forall_mem_singleton.mpr (by decide)⟩
      exact join_join (continues_names (by simp) hdevice) (by simp [configName]) (continues_names (by simp) hrest)
    rw [hjoin, hmem hresolved _ (List.cons_ne_nil _ _) hsome, inConfiguration_cons ⟨mid, stem, rfl⟩]
  · refine Site.find?_replaceAll s [r] w ht hs fun r' hr' names hsel hq => ?_
    obtain rfl := List.mem_singleton.mp hr'
    obtain rfl := List.append_cancel_left hq
    obtain ⟨mid, stem, heq⟩ :=
      (selects_default hr (List.cons_ne_nil _ _) fun n hn => (hplain hsome n hn).no_slash).mp hsel
    exact hkind (List.cons.inj heq).1

/-- A replacement without globs. -/
def globless : FilesetReplacement := ⟨"a", .text "b", none, none⟩

/-- A site with the configuration of a device, and a file in a directory `config` of its own. -/
def configDisk : Disk :=
  [(["w"], Entry.directory), (["w", "config"], .directory), (["w", "config", "s"], .directory),
    (["w", "config", "s", "config"], .directory), (["w", "config", "s", "config", "b.json"], .file "a".toUTF8),
    (["w", "config", "s", "twins"], .directory), (["w", "config", "s", "twins", "config"], .directory),
    (["w", "config", "s", "twins", "config", "a.json"], .file "a".toUTF8)].foldl (fun d (q, e) => d.insert q e) ⟨∅, []⟩

theorem resolve_default_small : configDisk.IsTree ∧ globless.Globless ∧
    ∃ paths, (globless.resolve Site.chainSite.directory).on ⟨configDisk, []⟩ = (.ok paths, ⟨configDisk, []⟩) ∧
      Site.chainSite.directory.join ⟨["config", "b.json"]⟩ ∈ paths ∧
      (Device.ofSite "twins" Site.chainSite.directory).config.join ⟨["a.json"]⟩ ∉ paths ∧
      ((Site.chainSite.replaceAll [globless]).on ⟨configDisk, []⟩).2.disk.find?
        ["w", "config", "s", "twins", "config", "a.json"] = some (.file "a".toUTF8) := by
  have ht : configDisk.IsTree := by decide +kernel
  have hs : configDisk.hasDirectory Site.chainSite.directory = true := by decide +kernel
  have hr : globless.Globless := ⟨rfl, rfl⟩
  obtain ⟨hresolves, hmem, hsame⟩ := resolve_default Site.chainSite globless ⟨configDisk, []⟩ ht hs hr
  obtain ⟨paths, hresolve⟩ := hresolves (not_longBelow (by decide) (by decide +kernel))
  obtain ⟨hmem, hdevice⟩ := hmem paths hresolve
  refine ⟨ht, hr, paths, hresolve, ?_, ?_, ?_⟩
  · exact (hmem ["config", "b.json"] (by decide) (by decide +kernel)).mpr ⟨[], "b", by decide +kernel⟩
  · intro h
    have hkind := (hdevice "twins" [] "a" (by decide +kernel)).mp h
    exact absurd hkind (by decide)
  · have h := hsame "twins" ["config", "a.json"] (by decide) (by decide +kernel)
    exact h.trans (by decide +kernel)

/-- The configuration of a device is **not reached**. -/
theorem resolve_default_misses : configDisk.IsTree ∧ globless.Globless ∧
    configDisk.find? ["w", "config", "s", "twins", "config", "a.json"] = some (.file "a".toUTF8) ∧
    (globless.resolve Site.chainSite.directory).on ⟨configDisk, []⟩ =
      (.ok [⟨["w", "config", "s", "config", "b.json"]⟩], ⟨configDisk, []⟩) := by
  have hresolved : (globless.resolved configDisk Site.chainSite.directory).toOption =
      some [⟨["w", "config", "s", "config", "b.json"]⟩] := by decide +kernel
  refine ⟨by decide +kernel, ⟨rfl, rfl⟩, by decide +kernel, ?_⟩
  exact (resolve_on globless Site.chainSite.directory ⟨configDisk, []⟩).trans (by rw [eq_ok_of_toOption hresolved])

end FilesetReplacement

end SiteGen
