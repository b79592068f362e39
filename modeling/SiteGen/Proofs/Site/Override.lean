import SiteGen.Proofs.Replacement.Fold
import SiteGen.Proofs.Site.Generate

/-!
# The override file of a site

* `FilesetReplacement.mem_resolved`: what a replacement resolves to below a directory.
* `Site.find?_replaceAll`: what no replacement selects stays as it is.
* `Site.replaceAll_override`: replacements stay away from the override file, and from no other file of its name.
-/

namespace SiteGen

open Disk SiteGen.Path Run FilesetReplacement

namespace FilesetReplacement

variable {home : Place} {p : Path} {d : Disk} {r : FilesetReplacement} {paths : List Path}

/-- What a replacement resolves to: **whatever is below** the directory and is selected. -/
theorem mem_resolved (h : Stands home p d) (hp : p.Accepted) (hresolved : r.resolved d p = .ok paths)
    {names : List String} (hnames : names ≠ []) (hsome : (d.find? (p.place home ++ names)).isSome = true) :
    p.join ⟨names⟩ ∈ paths ↔ r.Selects names := by
  obtain ⟨list, rfl, -, hlist, hall⟩ := select_names h hp r hresolved
  have hplain : ∀ n ∈ names, IsPlainName n := fun n hn =>
    (h.tree.isDiskName_of_mem hsome (List.mem_append_right _ hn)).toIsPlainName
  constructor
  · intro hmem
    obtain ⟨m, hm, hjoin⟩ := List.mem_map.mp hmem
    obtain ⟨hmne, hdisk, hsel⟩ := hlist m hm
    -- paths of plain names are told apart by the places that they lead to
    have hplace : (p.join ⟨m⟩).place home = (p.join ⟨names⟩).place home := by rw [hjoin]
    rw [place_names home hmne fun n hn => (hdisk n hn).toIsPlainName, place_names home hnames hplain] at hplace
    rwa [← List.append_cancel_left hplace]
  · exact fun hsel => List.mem_map_of_mem (hall names hnames hsome hsel)

theorem place_ne_override (h : Stands home p d) (hp : p.Accepted) (hresolved : r.resolved d p = .ok paths)
    {path : Path} (hpath : path ∈ paths) : path.place home ≠ p.place home ++ [overrideName] := by
  obtain ⟨list, rfl, -, hlist, -⟩ := select_names h hp r hresolved
  obtain ⟨m, hm, rfl⟩ := List.mem_map.mp hpath
  obtain ⟨hmne, hdisk, hsel⟩ := hlist m hm
  rw [place_names home hmne fun n hn => (hdisk n hn).toIsPlainName]
  intro hplace
  rw [List.append_cancel_left hplace] at hsel
  exact r.not_selects_override hsel

end FilesetReplacement

namespace Site

/-- The scope of replacements in the directory of a site. -/
def replacing (s : Site) (home : Place) (rs : List FilesetReplacement) : Scope where
  writes _ := False
  rewrites q := ∃ r ∈ rs, ∃ names, r.Selects names ∧ q = s.directory.place home ++ names
  reads _ := True
  blind := False

/-- What no replacement selects **stays as it is**, however carrying them out ends. -/
theorem find?_replaceAll (s : Site) (rs : List FilesetReplacement) (w : World) (ht : w.disk.IsTree)
    (hs : w.disk.hasDirectory s.directory = true) {q : Place}
    (hq : ∀ r ∈ rs, ∀ names, r.Selects names → q ≠ s.directory.place w.disk.home ++ names) :
    ((s.replaceAll rs).on w).2.disk.find? q = w.disk.find? q := by
  obtain ⟨hleads, hp⟩ := leads_of_hasDirectory ht.noLink hs
  have hserves : Serves (s.replacing w.disk.home rs) w.disk.home s.directory rs :=
    ⟨hp, fun _ _ => trivial, fun _ => trivial, fun r hr m hm => ⟨r, hr, m, hm, rfl⟩⟩
  have hwithin := (replaceAll_confined hserves fun _ h => h).within w ⟨ht, rfl, hleads⟩
  rcases hwithin.find? q with h | h | ⟨⟨r, hr, names, hsel, hplace⟩, -⟩
  · exact h
  · exact h.elim
  · exact absurd hplace (hq r hr names hsel)

/-- **The override file is out of reach of replacements**. However carrying them out ends, it stays as it is, and
none of them resolves to a path that leads to it. Of all else in the directory, also of files of its name further
down, a replacement resolves to exactly what its own globs select. -/
theorem replaceAll_override (s : Site) (rs : List FilesetReplacement) (w : World) (ht : w.disk.IsTree)
    (hs : w.disk.hasDirectory s.directory = true) :
    let place := s.directory.place w.disk.home
    ((s.replaceAll rs).on w).2.disk.find? (place ++ [overrideName]) = w.disk.find? (place ++ [overrideName]) ∧
    ∀ (r : FilesetReplacement) (paths : List Path), (r.resolve s.directory).on w = (.ok paths, w) →
      (∀ path ∈ paths, path.place w.disk.home ≠ place ++ [overrideName]) ∧
      ∀ names, names ≠ [] → (w.disk.find? (place ++ names)).isSome = true →
        (s.directory.join ⟨names⟩ ∈ paths ↔ names ≠ [overrideName] ∧ r.Picks names) := by
  intro place
  obtain ⟨hleads, hp⟩ := leads_of_hasDirectory ht.noLink hs
  have hstands : Stands w.disk.home s.directory w.disk := ⟨ht, rfl, hleads⟩
  refine ⟨find?_replaceAll s rs w ht hs fun r _ names hsel hplace => ?_, fun r paths hresolve => ?_⟩
  · obtain rfl := List.append_cancel_left hplace
    exact r.not_selects_override hsel
  · rw [resolve_on] at hresolve
    have hresolved := (Prod.mk.inj hresolve).1
    refine ⟨fun path hpath => place_ne_override hstands hp hresolved hpath, fun names hnames hsome => ?_⟩
    have hslash : ∀ n ∈ names, '/' ∉ n.toList := fun n hn =>
      (ht.isDiskName_of_mem hsome (List.mem_append_right _ hn)).no_slash
    rw [mem_resolved hstands hp hresolved hnames hsome, r.selects_iff hnames hslash]

/-- A replacement in all files of a site. -/
def everywhere : FilesetReplacement := ⟨"a", .text "b", some ["**"], none⟩

/-- A site with an override file and a file of its name further down. -/
def twofoldDisk : Disk :=
  [(["w"], Entry.directory), (["w", "config"], .directory), (["w", "config", "s"], .directory),
    (["w", "config", "s", "variance.yml"], .file "a".toUTF8), (["w", "config", "s", "k"], .directory),
    (["w", "config", "s", "k", "variance.yml"], .file "a".toUTF8)].foldl (fun d (q, e) => d.insert q e) ⟨∅, []⟩

theorem replaceAll_override_small : twofoldDisk.IsTree ∧
    ((chainSite.replaceAll [everywhere]).on ⟨twofoldDisk, []⟩).2.disk.find? ["w", "config", "s", "variance.yml"] =
      some (.file "a".toUTF8) ∧
    everywhere.Picks ["k", "variance.yml"] := by
  have ht : twofoldDisk.IsTree := by decide +kernel
  have hs : twofoldDisk.hasDirectory chainSite.directory = true := by decide +kernel
  obtain ⟨hsame, hpicks⟩ := replaceAll_override chainSite [everywhere] ⟨twofoldDisk, []⟩ ht hs
  have hresolved : (everywhere.resolved twofoldDisk chainSite.directory).toOption =
      some [⟨["w", "config", "s", "k"]⟩, ⟨["w", "config", "s", "k", "variance.yml"]⟩] := by decide +kernel
  have hresolve := (resolve_on everywhere chainSite.directory ⟨twofoldDisk, []⟩).trans
    (by rw [eq_ok_of_toOption hresolved])
  obtain ⟨-, hmem⟩ := hpicks everywhere _ hresolve
  have hbelow := (hmem ["k", "variance.yml"] (by decide) (by decide +kernel)).mp (by decide +kernel)
  refine ⟨ht, ?_, hbelow.2⟩
  rw [show ["w", "config", "s", "variance.yml"] = chainSite.directory.place [] ++ [overrideName] by decide +kernel]
  exact hsame.trans (by decide +kernel)

end Site

end SiteGen
