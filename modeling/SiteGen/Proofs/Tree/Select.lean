import SiteGen.Proofs.Disk.Visits
import SiteGen.Proofs.Glob.Pattern
import SiteGen.Tree.Select

/-!
# What patterns select

Patterns select what is below a directory: all that an including pattern matches and no excluding one does.

* `Disk.select_of_look`, `Disk.exists_selected`: the selection on a disk, and the names of what is in it.
* `Disk.select_refused`: nothing is selected if a pattern is refused.
* `selectPaths_exactly`: what is selected, in which order, and when patterns are refused.
-/

namespace SiteGen

namespace Disk

variable {d : Disk} {root : Path} {place : Place}

theorem select_of_look (hd : d.IsNested) (h : d.look root = .ok (place, .directory))
    (includes excludes : List String) :
    d.select root includes excludes = (do
      let includes ← (Glob.ofPatterns includes).mapError Error.glob
      let excludes ← (Glob.ofPatterns excludes).mapError Error.glob
      let visits ← (walked (visits d d.depthBound place root [])).mapError fun (path, fault) =>
        Error.walk path fault
      .ok (selectVisits includes excludes visits)) := by
  unfold select
  rw [walk_of_look hd h]

/-- What globs select is called by **the names of all that is below** and is selected, in order. -/
theorem exists_selected (hd : d.IsNested) (place : Place) (root : Path) (includes excludes : List Glob) :
    ∃ list : List (List String),
      selectVisits includes excludes (visits d d.depthBound place root []) =
        list.map (fun names => root.join ⟨names⟩) ∧
      list.Pairwise (· < ·) ∧
      ∀ names, names ∈ list ↔ names ≠ [] ∧ (d.find? (place ++ names)).isSome ∧
        selects includes excludes (Path.mk names).text = true := by
  have hvisit : ∀ v ∈ visits d d.depthBound place root [], v.names ≠ [] ∧
      d.find? (place ++ v.names) = some v.entry ∧ v.path = root.join ⟨v.names⟩ := by
    intro v hv
    obtain ⟨m, hne, -, hf, hnames, hpath⟩ := mem_visits hd _ hv
    rw [List.nil_append] at hnames
    subst hnames
    exact ⟨hne, hf, hpath⟩
  have hrelative : ∀ v : Visit, v.names ≠ [] → v.relative = ⟨v.names⟩ := fun v hne => by
    rw [Visit.relative]
    simp [hne]
  refine ⟨((visits d d.depthBound place root []).filter fun v =>
    selects includes excludes v.relative.text).map (·.names), ?_, ?_, fun names => ⟨fun hm => ?_, ?_⟩⟩
  · rw [selectVisits, List.map_map]
    exact List.map_congr_left fun v hv => (hvisit v (List.mem_filter.mp hv).1).2.2
  · exact (visits_sorted hd _ _ _ _).sublist (List.filter_sublist.map _)
  · obtain ⟨v, hv, rfl⟩ := List.mem_map.mp hm
    obtain ⟨hv, hsel⟩ := List.mem_filter.mp hv
    obtain ⟨hne, hf, -⟩ := hvisit v hv
    exact ⟨hne, by rw [hf]; rfl, by rwa [hrelative v hne] at hsel⟩
  · rintro ⟨hne, hf, hsel⟩
    obtain ⟨e, he⟩ := Option.isSome_iff_exists.mp hf
    have hv := @exists_mem_visits _ hd d.depthBound place root [] names e
      (by simp only [depthBound, pathLimit]; omega) hne he
    refine List.mem_map.mpr ⟨_, List.mem_filter.mpr ⟨hv, ?_⟩, rfl⟩
    rw [hrelative _ hne]
    exact hsel

/-- If a pattern is refused, **nothing is selected**, and the first such pattern is what is wrong. -/
theorem select_refused {includes excludes : List String} {n : Nat} {e : GlobError}
    (h : FirstRefused Glob.ofPattern (includes ++ excludes) n e) (d : Disk) (root : Path) :
    d.select root includes excludes = .error (.glob e) := by
  have hall := h.mapM_eq
  rw [List.mapM_append] at hall
  unfold select Glob.ofPatterns
  cases hin : includes.mapM Glob.ofPattern with
  | error e' =>
    rw [hin] at hall
    rw [Except.error.inj hall]
    rfl
  | ok globs =>
    cases hex : excludes.mapM Glob.ofPattern with
    | error e' =>
      rw [hin, hex] at hall
      rw [Except.error.inj hall]
      rfl
    | ok others =>
      rw [hin, hex] at hall
      cases hall

end Disk

/-- Selecting looks at the disk and **leaves it as it is**. -/
theorem selectPaths_on (root : Path) (includes excludes : List String) (w : World) :
    (selectPaths root includes excludes).on w = (w.disk.select root includes excludes, w) := by
  unfold selectPaths
  rw [Run.bind_of_ok (x := Run.inspect _) rfl]
  cases w.disk.select root includes excludes <;> rfl

/-- **What patterns select** below a directory is all that is there, links among it, and that an including pattern
matches and no excluding one, each thing once. The names on the way to it increase from one to the next: a
directory comes before what is in it, and things in one directory come by their names. Where the path of a directory is
too long, the walk fails at the first one. A pattern that denotes no glob, wherever it is among the patterns, is refused
as such. -/
theorem selectPaths_exactly (root : Path) (includes excludes : List String) (w : World) :
    ((∀ pattern ∈ includes ++ excludes, ∃ g, Glob.Denotes pattern g) →
      w.disk.IsNested → ∀ place, w.disk.look root = .ok (place, .directory) →
      ((∀ names, ¬w.disk.LongBelow place root names) → ∃ list : List (List String),
        (selectPaths root includes excludes).on w = (.ok (list.map fun names => root.join ⟨names⟩), w) ∧
        list.Pairwise (· < ·) ∧
        ∀ names, names ∈ list ↔ names ≠ [] ∧ (w.disk.find? (place ++ names)).isSome ∧
          (∃ pattern ∈ includes, Glob.Matches pattern names) ∧ ¬∃ pattern ∈ excludes, Glob.Matches pattern names) ∧
      ((∃ names, w.disk.LongBelow place root names) → ∃ names, w.disk.LongBelow place root names ∧
        (∀ other, w.disk.LongBelow place root other → ¬other < names) ∧
        (selectPaths root includes excludes).on w = (.error (.walk (root.join ⟨names⟩) .nameTooLong), w))) ∧
    ((∃ pattern ∈ includes ++ excludes, ¬∃ g, Glob.Denotes pattern g) →
      ∃ pattern ∈ includes ++ excludes, ∃ e, Glob.ofPattern pattern = .error e ∧
        (selectPaths root includes excludes).on w = (.error (.glob e), w)) := by
  rw [selectPaths_on]
  constructor
  · intro hdenotes hd place hlook
    obtain ⟨inGlobs, hin, hincludes⟩ := Glob.exists_ofPatterns fun pattern hp =>
      hdenotes pattern (List.mem_append_left _ hp)
    obtain ⟨exGlobs, hex, hexcludes⟩ := Glob.exists_ofPatterns fun pattern hp =>
      hdenotes pattern (List.mem_append_right _ hp)
    rw [Disk.select_of_look hd hlook, hin, hex]
    constructor
    · intro hshort
      obtain ⟨list, hlist, hsorted, hmem⟩ := Disk.exists_selected hd place root inGlobs exGlobs
      refine ⟨list, ?_, hsorted, fun names => ?_⟩
      · rw [Disk.walked_of_short hd hshort, ← hlist]
        rfl
      · rw [hmem, selects, Bool.and_eq_true, Bool.not_eq_true', ← Bool.not_eq_true, hincludes, hexcludes]
    · intro hlong
      obtain ⟨names, hnames, hfirst, hwalked⟩ := Disk.walked_of_long hd hlong
      refine ⟨names, hnames, hfirst, ?_⟩
      rw [hwalked]
      rfl
  · intro h
    obtain ⟨n, e, hrefused⟩ := Glob.exists_firstRefused h
    obtain ⟨pattern, hp, he⟩ := hrefused.exists_mem
    exact ⟨pattern, hp, e, he, by rw [Disk.select_refused hrefused]⟩

/-- A disk with **a link** beside the directory that it leads to. -/
def linkedDisk : Disk :=
  [(["w"], Entry.directory), (["w", "a"], .directory), (["w", "a", "b"], .file .empty), (["w", "a-b"], .file .empty),
    (["w", "l"], .link ⟨["a"]⟩)].foldl (fun d (q, e) => d.insert q e) ⟨∅, []⟩

theorem longBelow_linked : linkedDisk.LongBelow [] (Disk.dots 2048) ["w"] :=
  ⟨by simp, by decide +kernel, (Disk.isLong_dots (Path.continues_single "w")).trans (by decide +kernel)⟩

theorem selectPaths_exactly_small :
    (∃ list : List (List String),
      (selectPaths ⟨["w"]⟩ ["./*", "*/b"] ["a"]).on ⟨linkedDisk, []⟩ =
        (.ok (list.map fun names => (Path.mk ["w"]).join ⟨names⟩), ⟨linkedDisk, []⟩) ∧
      list.Pairwise (· < ·) ∧
      ∀ names, names ∈ list ↔ names ≠ [] ∧ (linkedDisk.find? (["w"] ++ names)).isSome ∧
        (∃ pattern ∈ ["./*", "*/b"], Glob.Matches pattern names) ∧ ¬∃ pattern ∈ ["a"], Glob.Matches pattern names) ∧
    (∃ names, linkedDisk.LongBelow [] (Disk.dots 2048) names ∧
      (∀ other, linkedDisk.LongBelow [] (Disk.dots 2048) other → ¬other < names) ∧
      (selectPaths (Disk.dots 2048) ["./*", "*/b"] ["a"]).on ⟨linkedDisk, []⟩ =
        (.error (.walk ((Disk.dots 2048).join ⟨names⟩) .nameTooLong), ⟨linkedDisk, []⟩)) ∧
    ∃ pattern ∈ ["l", "["], ∃ e, Glob.ofPattern pattern = .error e ∧
      (selectPaths ⟨["w"]⟩ ["l"] ["["]).on ⟨linkedDisk, []⟩ = (.error (.glob e), ⟨linkedDisk, []⟩) := by
  have hread : Glob.ofPattern "./*" = .ok ⟨[.anyName]⟩ ∧
      Glob.ofPattern "*/b" = .ok ⟨[.anyName, .literal (Glob.bytesOf '/'), .literal (Glob.bytesOf 'b')]⟩ ∧
      Glob.ofPattern "a" = .ok ⟨[.literal (Glob.bytesOf 'a')]⟩ := by
    simp [Glob.ofPattern, Glob.trimHere, Glob.read, Glob.readPieces, Glob.Open.push, Glob.Open.inBraces]
  have hdenotes : ∀ pattern ∈ ["./*", "*/b"] ++ ["a"], ∃ g, Glob.Denotes pattern g := by
    simp only [List.cons_append, List.nil_append, List.mem_cons, List.not_mem_nil, or_false]
    rintro pattern (rfl | rfl | rfl)
    · exact ⟨_, Glob.denotes_iff.mpr hread.1⟩
    · exact ⟨_, Glob.denotes_iff.mpr hread.2.1⟩
    · exact ⟨_, Glob.denotes_iff.mpr hread.2.2⟩
  have hd : linkedDisk.IsNested := by decide +kernel
  refine ⟨?_, ?_, ?_⟩
  · exact ((selectPaths_exactly _ _ _ ⟨linkedDisk, []⟩).1 hdenotes hd ["w"]
      (eq_ok_of_toOption (by decide +kernel))).1 (Disk.not_longBelow (by simp) (by decide +kernel))
  · have hlook : linkedDisk.look (Disk.dots 2048) = .ok ([], .directory) := by
      have hfound := @Disk.lookFor_of_leads _ .use _ (Disk.leads_dots rfl : linkedDisk.Leads (Disk.dots 2048))
        (Disk.accepted_dots (n := 2047) (by decide))
      rwa [show linkedDisk.home = [] from rfl, Disk.place_dots] at hfound
    exact ((selectPaths_exactly _ _ _ ⟨linkedDisk, []⟩).1 hdenotes hd [] hlook).2 ⟨_, longBelow_linked⟩
  · refine (selectPaths_exactly _ ["l"] ["["] ⟨linkedDisk, []⟩).2 ⟨"[", by simp, ?_⟩
    rintro ⟨g, hg⟩
    have hread : Glob.ofPattern "[" = .error ⟨"[", .unclosedClass⟩ := by
      simp [Glob.ofPattern, Glob.trimHere, Glob.read, Glob.readPieces, Glob.readClass, Glob.takeNegation,
        Glob.readRanges]
    cases hread.symm.trans (Glob.denotes_iff.mp hg)

end SiteGen
