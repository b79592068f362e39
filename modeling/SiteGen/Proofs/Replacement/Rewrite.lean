import SiteGen.Proofs.Replacement.Fold

/-!
# Replacements by the names of files

What replacements make of a file does not depend on the disk, but on the names on the way to the file and on
its content.

* `FilesetReplacement.rewrite`, `rewriteAll`: what replacements make of the content of a file of a name.
* `FilesetReplacement.reaches_iff`: a replacement reaches a file if it selects its names.
* `FilesetReplacement.foldIn_eq_rewriteAll`: what they make of a file by its place is what they make of it by
  its names.
* `Site.replaceAll_rewrites`: carrying out the replacements of a site.
-/

namespace SiteGen

open Disk SiteGen.Path Run

namespace FilesetReplacement

/-- What a replacement makes of the content of a file, called by **the names on the way to it**: it is
reworked if the replacement selects it. -/
def rewrite (r : FilesetReplacement) (names : List String) (content : ByteArray) : ByteArray :=
  if r.Selects names then r.rework content else content

/-- What replacements make of the content of a file, **one after the other**. -/
def rewriteAll (rs : List FilesetReplacement) (names : List String) (content : ByteArray) : ByteArray :=
  rs.foldl (fun content r => r.rewrite names content) content

variable {home : Place} {p : Path} {d : Disk} {r : FilesetReplacement} {paths : List Path} {m : List String}
  {content : ByteArray}

/-- A replacement **reaches** the files whose names it selects. -/
theorem reaches_iff (h : Stands home p d) (hp : p.Accepted) (hresolved : r.resolved d p = .ok paths)
    (hf : Called home p m content d) : Reaches home paths (p.place home ++ m) ↔ r.Selects m := by
  obtain ⟨list, rfl, -, hlist, hall⟩ := select_names h hp r hresolved
  have hsome : (d.find? (p.place home ++ m)).isSome = true := by rw [hf.file]; rfl
  have hplace : ∀ l : List String, l ≠ [] → (∀ n ∈ l, IsDiskName n) →
      (p.join ⟨l⟩).place home = p.place home ++ l := fun l hne hl =>
    place_names home hne fun n hn => (hl n hn).toIsPlainName
  constructor
  · rintro ⟨path, hpath, -, heq⟩
    obtain ⟨l, hl, rfl⟩ := List.mem_map.mp hpath
    obtain ⟨hne, hnames, hsel⟩ := hlist l hl
    rw [hplace l hne hnames, List.append_cancel_left_eq] at heq
    exact heq ▸ hsel
  · intro hsel
    have hne := hf.ne_nil h
    refine ⟨_, List.mem_map_of_mem (hall m hne hsome hsel), hf.short, hplace m hne fun n hn => ?_⟩
    exact h.tree.isDiskName_of_mem hsome (List.mem_append_right _ hn)

/-- What replacements make of a file is told **by its names**. -/
theorem foldIn_eq_rewriteAll (h : Stands home p d) (hp : p.Accepted) (hf : Called home p m content d) :
    ∀ {entries : List (FilesetReplacement × List Path)},
      (∀ entry ∈ entries, entry.1.resolved d p = .ok entry.2) → ∀ content : ByteArray,
      foldIn home entries (p.place home ++ m) content = rewriteAll (entries.map (·.1)) m content
  | [], _, _ => rfl
  | entry :: entries, hresolved, content => by
    have hentry := reaches_iff h hp (hresolved entry List.mem_cons_self) hf
    rw [foldIn_cons, Function.comp_apply,
      foldIn_eq_rewriteAll h hp hf fun e he => hresolved e (List.mem_cons_of_mem _ he), List.map_cons,
      rewriteAll, rewriteAll, List.foldl_cons, reworkIn, rewrite, if_congr hentry rfl rfl]

end FilesetReplacement

namespace Site

open FilesetReplacement

variable {s : Site} {home : Place}

/-- **Carrying out replacements** reworks the files of the site, each as its names tell. -/
theorem replaceAll_rewrites (hp : s.directory.Accepted) {rs : List FilesetReplacement} {d₀ : Disk}
    (h : Stands home s.directory d₀) : Ends (· = d₀) (s.replaceAll rs) fun _ d =>
      ∃ f, Reworked f d₀ d ∧ ∀ m content, Called home s.directory m content d₀ →
        d.find? (s.directory.place home ++ m) = some (.file (rewriteAll rs m content)) := by
  refine (replaceAll_folded hp h).post fun n d hd => ?_
  obtain ⟨entries, rfl, hresolved, hfolded⟩ := hd
  refine ⟨_, hfolded.reworked, fun m content hf => ?_⟩
  rw [hfolded.reworked.find?, hf.file, Option.map_some, Entry.map,
    foldIn_eq_rewriteAll h hp hf hresolved]

end Site

end SiteGen
