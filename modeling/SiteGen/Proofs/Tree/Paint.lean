import SiteGen.Proofs.Run.Texts
import SiteGen.Proofs.Tree.Copy

/-!
# What copying a tree paints

A **picture** says what is at the ends of names that go down from a directory, as far as it shows
anything.

* `Disk.Painted`: a disk on which only what a picture shows is new.
* `Disk.Paintable`: a disk on which a picture can be painted.
* `Run.makeDirectories_paints`, `copyFile_paints`: what single steps paint.
* `Run.Shows`: a picture that shows a tree in another place.
* `Run.copyTree_paints`: copying a tree apart from the goal paints it there, and nothing else.
* `Run.copyTree_succeeds`: it succeeds where the picture can be painted and no path is too long.
-/

namespace SiteGen

/-- What is at the ends of names, as far as it is **shown**. -/
abbrev Picture := List String → Option Entry

namespace Disk

/-- Whether a disk is **painted** from another one: it differs only in what a picture shows below a
path, which covers what was there. -/
structure Painted (P : Picture) (home : Place) (base : Path) (d d' : Disk) : Prop where
  home_eq : d'.home = d.home
  find? : ∀ q, d'.find? q = d.find? q ∨ ∃ m e, q = base.place home ++ m ∧ P m = some e ∧
    d'.find? q = some e ∧ Covers m e (d.find? q)

/-- Whether a picture **can be painted** on a disk: all that it shows covers what is there. -/
def Paintable (P : Picture) (home : Place) (base : Path) (d : Disk) : Prop :=
  ∀ m e, P m = some e → Covers m e (d.find? (base.place home ++ m))

namespace Painted

variable {P : Picture} {home : Place} {base : Path} {d d₁ d₂ d₃ : Disk} {m : List String}

theorem refl (P : Picture) (home : Place) (base : Path) (d : Disk) : Painted P home base d d :=
  ⟨rfl, fun _ => Or.inl rfl⟩

theorem trans (h : Painted P home base d₁ d₂) (h' : Painted P home base d₂ d₃) :
    Painted P home base d₁ d₃ := by
  refine ⟨h'.home_eq.trans h.home_eq, fun q => ?_⟩
  rcases h'.find? q with h₁ | ⟨m, e, hq, hP, hf, hcovers⟩
  · rw [h₁]
    exact h.find? q
  · refine Or.inr ⟨m, e, hq, hP, hf, ?_⟩
    rcases h.find? q with h₂ | ⟨m', e', hq', hP', -, hcovers'⟩
    · rwa [← h₂]
    · obtain rfl := List.append_cancel_left (hq.symm.trans hq')
      obtain rfl := Option.some.inj (hP.symm.trans hP')
      exact hcovers'

theorem keeps (h : Painted P home base d₁ d₂) (hm : d₁.find? (base.place home ++ m) = P m) :
    d₂.find? (base.place home ++ m) = P m := by
  rcases h.find? (base.place home ++ m) with h' | ⟨m', e, hq, hP, h', -⟩
  · rw [h', hm]
  · rw [h', ← hP, List.append_cancel_left hq]

theorem outside (h : Painted P home base d₁ d₂) (hm : P m = none) :
    d₂.find? (base.place home ++ m) = d₁.find? (base.place home ++ m) := by
  rcases h.find? (base.place home ++ m) with h' | ⟨m', e, hq, hP, -⟩
  · exact h'
  · rw [← List.append_cancel_left hq, hm] at hP
    cases hP

theorem covers (h : Painted P home base d₁ d₂) {e : Entry} (hm : P m = some e)
    (hf : d₂.find? (base.place home ++ m) = some e) :
    Covers m e (d₁.find? (base.place home ++ m)) := by
  rcases h.find? (base.place home ++ m) with h' | ⟨m', e', hq, hP, -, hcovers⟩
  · rw [← h', hf]
    rfl
  · obtain rfl := List.append_cancel_left hq
    obtain rfl := Option.some.inj (hm.symm.trans hP)
    exact hcovers

theorem paintable (h : Painted P home base d₁ d₂) (hP : Paintable P home base d₁) :
    Paintable P home base d₂ := by
  intro m e hm
  rcases h.find? (base.place home ++ m) with h' | ⟨m', e', hq, hm', hf, -⟩
  · rw [h']
    exact hP m e hm
  · obtain rfl := List.append_cancel_left hq
    obtain rfl := Option.some.inj (hm.symm.trans hm')
    rw [hf]
    rfl

end Painted

end Disk

namespace Run

open Disk SiteGen.Path

variable {home : Place} {base goal source : Path} {top : String} {P : Picture} {d₀ d₁ : Disk}

/-! ## Single steps -/

/-- **Making directories** that are shown. -/
theorem makeDirectories_paints {names : List String} (hg : IsGoal base names goal)
    (hP : ∀ m, m ≠ [] → m <+: names → P m = some .directory) :
    Ends (fun d => Stands home base d ∧ Painted P home base d₁ d) (makeDirectories goal)
      fun _ d => (Stands home base d ∧ Painted P home base d₁ d) ∧
        d.find? (base.place home ++ names) = some .directory ∧ goal.isLong = false := by
  refine .tryChange fun d hd hnone => ?_
  have hlong := not_long_of_makeDirectories hnone
  obtain ⟨⟨ht, rfl, hp⟩, hpaint⟩ := hd
  rw [makeDirectories_join ht hp hg, hlong, if_neg Bool.false_ne_true] at hnone ⊢
  obtain ⟨ht', hgrows, hall⟩ := pave_grows names ht hp.place hg.name
  refine ⟨⟨⟨ht', hgrows.home, hgrows.leads hp⟩, hpaint.trans ⟨hgrows.home, fun q => ?_⟩⟩,
    hall hnone names (List.prefix_refl _), rfl⟩
  rcases hgrows.find? q with h | ⟨⟨m, hne, hm, rfl, hroom⟩, hmissing, h⟩
  · exact Or.inl h
  · refine Or.inr ⟨m, _, rfl, hP m hne hm, h, ?_⟩
    rw [hmissing]
    exact hroom

/-- Making directories **succeeds** where they can be painted, if the path is not too long. -/
theorem makeDirectories_succeeds {names : List String} (hg : IsGoal base names goal) (hlong : goal.isLong = false)
    (hP : ∀ m, m ≠ [] → m <+: names → P m = some .directory) (hpaintable : Paintable P home base d₁) :
    Succeeds (fun d => Stands home base d ∧ Painted P home base d₁ d) (makeDirectories goal) := by
  refine .tryChange fun d hd => ?_
  obtain ⟨⟨ht, rfl, hp⟩, hpaint⟩ := hd
  have hcovers := fun m hne hm => covers_directory (ht.noLink _)
    (hpaint.paintable hpaintable m _ (hP m hne hm))
  rw [makeDirectories_join ht hp hg, hlong, if_neg Bool.false_ne_true]
  refine pave_eq_none fun m name hm => ?_
  rw [List.append_assoc]
  simpa using hcovers (m ++ [name]) (by simp) hm

variable {init : List String} {last : String}

theorem join_concat (hinit : init ≠ []) (hn : ∀ n ∈ init ++ [last], IsDiskName n) :
    base.join ⟨init ++ [last]⟩ = (base.join ⟨init⟩).join ⟨[last]⟩ := by
  have hplain : ∀ n ∈ init, IsPlainName n := fun n hm => (hn n (List.mem_append_left _ hm)).toIsPlainName
  exact (join_join (continues_names hinit hplain)
    (fun hl => (hplain "" (List.mem_of_getLast? hl)).ne_empty rfl) (continues_single last)).symm

/-- Copying a file into a directory, by the names on the way to the copy. -/
theorem copyFile_names {d : Disk} (h : Stands home base d) (hinit : init ≠ [])
    (hn : ∀ n ∈ init ++ [last], IsDiskName n)
    (hdir : d.find? (base.place home ++ init) = some .directory) {s : Place} {content : ByteArray}
    (hl : d.look source = .ok (s, .file content)) (hs : s ≠ base.place home ++ (init ++ [last])) :
    d.copyFile source (base.join ⟨init ++ [last]⟩) =
      let q := base.place home ++ (init ++ [last])
      if (base.join ⟨init ++ [last]⟩).isLong then .error .nameTooLong
      else if d.find? q = some .directory then .error .isDirectory
      else if (d.find? q).isSome || missing last == .notFound then
        .ok ((d.insert q (.file ByteArray.empty)).insert q (.file content))
      else .error (missing last) := by
  have hi : ∀ n ∈ init, IsDiskName n := fun n hm => hn n (List.mem_append_left _ hm)
  obtain ⟨ht, rfl, hp⟩ := h
  have hleads := hp.names ht hinit hi hdir
  have hplace : (base.join ⟨init⟩).place d.home = base.place d.home ++ init :=
    place_names d.home hinit fun n hm => (hi n hm).toIsPlainName
  rw [join_concat hinit hn, copyFile_child ht hleads (hn last (by simp)) hl (by
    rwa [hplace, List.append_assoc]), hplace, List.append_assoc]

/-- A file that is copied **covers** what was there, and both paths are not too long. -/
theorem covers_of_copyFile {d d' : Disk} (hs : Stands home base d) (hinit : init ≠ [])
    (hn : ∀ n ∈ init ++ [last], IsDiskName n)
    (hdir : d.find? (base.place home ++ init) = some .directory)
    (hne : source.place home ≠ base.place home ++ (init ++ [last]))
    (h : d.copyFile source (base.join ⟨init ++ [last]⟩) = .ok d') :
    (∀ content, Covers (init ++ [last]) (.file content) (d.find? (base.place home ++ (init ++ [last])))) ∧
      (base.join ⟨init ++ [last]⟩).isLong = false ∧ source.isLong = false := by
  obtain ⟨s, content', hl⟩ := look_of_copyFile h
  have hsource := (accepted_of_lookFor hl).not_long
  obtain ⟨rfl, -⟩ := find?_of_lookFor hs.tree.noLink hl
  rw [hs.home_eq] at hl
  rw [copyFile_names hs hinit hn hdir hl hne] at h
  simp only at h
  split at h
  · cases h
  next hlong =>
  split at h
  · cases h
  next hnot =>
  split at h
  · next hroom =>
    refine ⟨fun content => ?_, by simpa using hlong, hsource⟩
    cases hf : d.find? (base.place home ++ (init ++ [last])) with
    | none => simpa [hf, Covers] using hroom
    | some e => cases e with
      | directory => exact absurd hf hnot
      | file old => rfl
      | link target => exact absurd hf (hs.tree.noLink _ _)
  · cases h

/-- **Copying a file** that is shown. -/
theorem copyFile_paints (hinit : init ≠ []) (hn : ∀ n ∈ init ++ [last], IsDiskName n)
    {I : Disk → Prop} {content : ByteArray}
    (hI : ∀ d, I d → (Stands home base d ∧ Painted P home base d₁ d) ∧
      d.find? (source.place home) = some (.file content) ∧
      d.find? (base.place home ++ init) = some .directory)
    (hne : source.place home ≠ base.place home ++ (init ++ [last]))
    (hP : P (init ++ [last]) = some (.file content)) :
    Ends I (Run.change (·.copyFile source (base.join ⟨init ++ [last]⟩))) fun _ d =>
      (Stands home base d ∧ Painted P home base d₁ d) ∧
        d.find? (base.place home ++ (init ++ [last])) = some (.file content) ∧
          (base.join ⟨init ++ [last]⟩).isLong = false ∧ source.isLong = false := by
  have hplain : ∀ n ∈ init ++ [last], IsPlainName n := fun n hm => (hn n hm).toIsPlainName
  refine .change fun d d' hd h => ?_
  obtain ⟨⟨hs, hpaint⟩, hsource, hdir⟩ := hI d hd
  obtain ⟨hcovers, hlong⟩ := covers_of_copyFile hs hinit hn hdir hne h
  obtain ⟨hs', -, content', hfind, hread⟩ := hs.copyFile (descends_names (by simp) hplain) h
  rw [place_names home (by simp) hplain] at hfind hread
  obtain rfl : content' = content := by simpa using (hread hne).symm.trans hsource
  refine ⟨⟨hs', hpaint.trans ⟨hs'.home_eq.trans hs.home_eq.symm, fun y => ?_⟩⟩,
    by rw [hfind, if_pos rfl], hlong⟩
  rw [hfind]
  split
  · next hy =>
    subst hy
    exact Or.inr ⟨_, _, rfl, hP, rfl, hcovers content'⟩
  · exact Or.inl rfl

/-- Copying a file **succeeds** where it can be painted. -/
theorem copyFile_succeeds (hinit : init ≠ []) (hn : ∀ n ∈ init ++ [last], IsDiskName n)
    {I : Disk → Prop} {content : ByteArray}
    (hI : ∀ d, I d → (Stands home base d ∧ Painted P home base d₁ d) ∧
      d.look source = .ok (source.place home, .file content) ∧
      d.find? (base.place home ++ init) = some .directory)
    (hne : source.place home ≠ base.place home ++ (init ++ [last]))
    (hP : P (init ++ [last]) = some (.file content)) (hpaintable : Paintable P home base d₁)
    (hlong : (base.join ⟨init ++ [last]⟩).isLong = false) :
    Succeeds I (Run.change (·.copyFile source (base.join ⟨init ++ [last]⟩))) := by
  refine .change fun d hd => ?_
  obtain ⟨⟨hs, hpaint⟩, hl, hdir⟩ := hI d hd
  obtain ⟨hnot, hroom⟩ := covers_file (hpaint.paintable hpaintable _ _ hP)
  have hcopy := copyFile_names hs hinit hn hdir hl hne
  simp only at hcopy
  rw [hlong, if_neg Bool.false_ne_true, if_neg hnot, if_pos] at hcopy
  · exact ⟨_, hcopy⟩
  · cases hf : d.find? (base.place home ++ (init ++ [last])) with
    | none => simpa using hroom hf
    | some e => rfl

/-! ## Copying one thing -/

/-- Whether a picture **shows** what is at and below a place, at the end of names. -/
structure Shows (P : Picture) (d : Disk) (place : Place) (names : List String) : Prop where
  way : ∀ m, m ≠ [] → m <+: names → P m = some .directory
  tree : ∀ m, (d.find? (place ++ m)).isSome = true → P (names ++ m) = d.find? (place ++ m)

theorem Shows.above {names m : List String} {place : Place} (h : Shows P d₀ place names)
    (ht : d₀.IsTree) (hm : (d₀.find? (place ++ m)).isSome = true) {l : List String} (hne : l ≠ [])
    (hl : l <+: names ++ m) (hlt : l ≠ names ++ m) : P l = some .directory := by
  rcases List.prefix_or_prefix_of_prefix hl (List.prefix_append names m) with hl' | ⟨k, rfl⟩
  · exact h.way l hne hl'
  · have hk := (List.prefix_append_right_inj _).mp hl
    have hd : d₀.find? (place ++ k) = some .directory :=
      ht.find?_prefix hm ((List.prefix_append_right_inj _).mpr hk) (by simpa using hlt)
    rw [h.tree k (by rw [hd]; rfl), hd]

/-- What a walk from a directory **meets**. -/
structure Met (d : Disk) (home : Place) (source : Path) (v : Visit) : Prop where
  names : ∀ n ∈ v.names, IsDiskName n
  start : v.names = [] → v.entry = .directory
  find? : d.find? (source.place home ++ v.names) = some v.entry
  path : v.path = called source v.names

theorem Met.directories {v : Visit} (hv : Met d₀ home source v) {names l : List String}
    (hP : Shows P d₀ (source.place home) names) (ht : d₀.IsTree) (hl : l <+: names ++ v.names)
    (he : l = names ++ v.names → v.entry = .directory) {m : List String} (hne : m ≠ []) (hm : m <+: l) :
    P m = some .directory := by
  have hsome : (d₀.find? (source.place home ++ v.names)).isSome = true := by rw [hv.find?]; rfl
  by_cases heq : m = names ++ v.names
  · subst heq
    rw [hP.tree v.names hsome, hv.find?, he (hl.eq_of_length_le hm.length_le)]
  · exact hP.above ht hsome hne (hm.trans hl) heq

theorem Met.shown {v : Visit} (hv : Met d₀ home source v) {names : List String}
    (hP : Shows P d₀ (source.place home) names) : P (names ++ v.names) = some v.entry := by
  rw [hP.tree v.names (by rw [hv.find?]; rfl), hv.find?]

theorem Met.place {v : Visit} (hv : Met d₀ home source v) (hne : v.names ≠ []) :
    v.path.place home = source.place home ++ v.names := by
  rw [hv.path, called_of_ne hne, place_names home hne fun n hn => (hv.names n hn).toIsPlainName]

theorem Met.place_ne {v : Visit} (hv : Met d₀ home source v) (hapart : Apart home base top source)
    (hne : v.names ≠ []) (others : List String) :
    v.path.place home ≠ base.place home ++ (top :: others ++ v.names) := by
  rw [hv.place hne]
  exact fun h => hapart.below v.names (h ▸ under_of_below (by simp) (List.prefix_refl _))

/-- What holds while a tree is copied: the source is as it was, and only what is shown is new. -/
structure Copying (P : Picture) (home : Place) (base source : Path) (d₀ d₁ d : Disk) : Prop where
  stands : Stands home base d
  same : SameOn (Seen home source) d d₀
  painted : Painted P home base d₁ d

/-- **Making directories** for a copy. -/
theorem makeShown (hapart : Apart home base top source) {names : List String} {target : Path}
    (hg : IsGoal base (top :: names) target)
    (hP : ∀ m, m ≠ [] → m <+: top :: names → P m = some .directory) :
    Ends (Copying P home base source d₀ d₁) (makeDirectories target) fun _ d =>
      Copying P home base source d₀ d₁ d ∧
        d.find? (base.place home ++ top :: names) = some .directory ∧ target.isLong = false := by
  have hkeep := (@makeDirectories_confined (copying home base top) home base _ _ hg
    (fun m hne hm => under_of_below hne hm) fun _ _ _ => trivial).post fun _ _ hd => hd.1
  intro w a w' hw hon
  obtain ⟨hstands, hsame⟩ := hapart.keeps hkeep ⟨hw.stands, hw.same⟩ hon
  obtain ⟨⟨-, hpainted⟩, hf⟩ := makeDirectories_paints hg hP w a w' ⟨hw.stands, hw.painted⟩ hon
  exact ⟨⟨hstands, hsame, hpainted⟩, hf⟩

section Visit

variable {others : List String} (ho : ∀ n ∈ top :: others, IsDiskName n)
  (hapart : Apart home base top source) (ht₀ : d₀.IsTree)
  (hP : Shows P d₀ (source.place home) (top :: others)) {v : Visit} (hv : Met d₀ home source v)

section File

variable {content : ByteArray} (hentry : v.entry = .file content)
  (hlast : v.names = init ++ [last])

include ho hv hlast

theorem Met.isGoal_above :
    IsGoal base (top :: (others ++ init)) (base.join ⟨top :: others ++ init⟩) := by
  refine ⟨by simp, fun n hn => ?_, Or.inl rfl⟩
  rw [← List.cons_append, List.mem_append] at hn
  refine hn.elim (ho n) fun hn => hv.names n ?_
  rw [hlast]
  exact List.mem_append_left _ hn

omit ho in
include ht₀ hP in
theorem Met.directories_above {m : List String} (hne : m ≠ []) (hm : m <+: top :: (others ++ init)) :
    P m = some .directory := by
  rw [← List.cons_append] at hm
  refine hv.directories hP ht₀ ?_ (fun h => ?_) hne hm
  · rw [hlast, ← List.append_assoc]
    exact List.prefix_append _ _
  · simp [hlast] at h

include hapart hP hentry

/-- Copying **a file** that is shown paints it in a directory that is there. -/
theorem copyShown_paints :
    Ends (fun d => Copying P home base source d₀ d₁ d ∧
        d.find? (base.place home ++ (top :: others ++ init)) = some .directory)
      (Run.change (·.copyFile v.path (base.join ⟨top :: others ++ v.names⟩))) fun _ d =>
      (Stands home base d ∧ Painted P home base d₁ d) ∧
        d.find? (base.place home ++ (top :: others ++ v.names)) = some (.file content) ∧
          (base.join ⟨top :: others ++ v.names⟩).isLong = false ∧ v.path.isLong = false := by
  have hnil : v.names ≠ [] := by simp [hlast]
  have hshown := hv.shown hP
  have hnot := hv.place_ne hapart hnil others
  have hall := List.forall_mem_append.mpr ⟨ho, hv.names⟩
  rw [hlast, ← List.append_assoc (top :: others)] at hnot hshown hall ⊢
  refine copyFile_paints (by simp) hall (fun d hd => ⟨⟨hd.1.stands, hd.1.painted⟩, ?_, hd.2⟩) hnot
    (hentry ▸ hshown)
  rw [hv.place hnil, hd.1.same.find? _ (Or.inr (List.prefix_append _ _)), hv.find?, hentry]

/-- Copying a file that is shown **succeeds** where it can be painted. -/
theorem copyShown_succeeds (hleads : d₀.Leads source) (hhome : d₀.home = home)
    (hpaintable : Paintable P home base d₁) (hpath : v.path.isLong = false)
    (hlong : (base.join ⟨top :: others ++ v.names⟩).isLong = false) :
    Succeeds (fun d => Copying P home base source d₀ d₁ d ∧
        d.find? (base.place home ++ (top :: others ++ init)) = some .directory)
      (Run.change (·.copyFile v.path (base.join ⟨top :: others ++ v.names⟩))) := by
  have hnil : v.names ≠ [] := by simp [hlast]
  have hshown := hv.shown hP
  have hnot := hv.place_ne hapart hnil others
  have hall := List.forall_mem_append.mpr ⟨ho, hv.names⟩
  rw [hlast, ← List.append_assoc (top :: others)] at hnot hshown hall hlong ⊢
  refine copyFile_succeeds (by simp) hall (fun d hd => ⟨⟨hd.1.stands, hd.1.painted⟩, ?_, hd.2⟩) hnot
    (hentry ▸ hshown) hpaintable hlong
  have hd' : d.Leads source := hd.1.same.symm.leads (fun x hx => Or.inl (hhome ▸ hx)) hleads
  have hfound : d.find? (source.place d.home ++ v.names) = some (.file content) := by
    rw [hd.1.stands.home_eq, hd.1.same.find? _ (Or.inr (List.prefix_append _ _)), hv.find?, hentry]
  rw [hv.path, called_of_ne hnil] at hpath
  rw [hv.place hnil, hv.path, called_of_ne hnil, look,
    lookFor_names hd.1.stands.tree hd' hnil hv.names hpath hfound, hd.1.stands.home_eq]

end File

omit hapart ht₀ hP in
include ho hv in
theorem Met.beneath_eq (hne : v.names ≠ []) :
    beneath (base.join ⟨top :: others⟩) v.names = base.join ⟨top :: others ++ v.names⟩ := by
  have hplain : ∀ n ∈ top :: others, IsPlainName n := fun n hn => (ho n hn).toIsPlainName
  rw [beneath_of_ne hne, join_join (continues_names (by simp) hplain)
    (fun hl => (hplain "" (List.mem_of_getLast? hl)).ne_empty rfl)
    (continues_names hne fun n hn => (hv.names n hn).toIsPlainName)]

include ho hapart ht₀ hP hv

/-- **Copying one thing** paints it. -/
theorem copyVisit_paints :
    Ends (Copying P home base source d₀ d₁) (copyVisit (base.join ⟨top :: others⟩) v) fun _ d =>
      Copying P home base source d₀ d₁ d ∧
        d.find? (base.place home ++ (top :: others ++ v.names)) = some v.entry ∧
          (beneath (base.join ⟨top :: others⟩) v.names).isLong = false ∧
            (v.entry.isDirectory = false → v.path.isLong = false) := by
  by_cases hnil : v.names = []
  · have hdirectory := hv.start hnil
    rw [copyVisit_start hnil (by rw [hdirectory]; rfl), hnil, List.append_nil, hdirectory]
    exact (makeShown hapart (isGoal_slash ho) fun _ => hP.way _).post fun _ _ hmade =>
      ⟨hmade.1, hmade.2.1, hmade.2.2, fun h => by cases h⟩
  · obtain ⟨init, last, hlast, heq⟩ := @copyVisit_eq base _ _ ho _ hnil hv.names
    have hkeep := @copying_copyVisit home base (base.join ⟨top :: others⟩) top ⟨others, ho, rfl⟩ v
      hv.names fun h => absurd h hnil
    rw [hv.beneath_eq ho hnil]
    rw [heq] at hkeep ⊢
    cases hentry : v.entry with
    | directory =>
      simp only [Entry.isDirectory, if_true]
      refine (makeShown hapart ⟨by simp, List.forall_mem_append.mpr ⟨ho, hv.names⟩, Or.inl rfl⟩ fun m =>
        hv.directories hP ht₀ (List.prefix_refl _) fun _ => hentry).post fun _ _ hmade => ?_
      exact ⟨hmade.1, hmade.2.1, hmade.2.2, fun h => by cases h⟩
    | link target => exact absurd (hentry ▸ hv.find?) (ht₀.noLink _ _)
    | file content =>
      simp only [hentry, Entry.isDirectory] at hkeep ⊢
      have hmake := @makeShown home base source top P d₀ d₁ hapart (others ++ init) _
        (hv.isGoal_above ho hlast) fun m hne hm => hv.directories_above ht₀ hP hlast hne hm
      intro w a w' hw hon
      obtain ⟨hstands, hsame⟩ := hapart.keeps hkeep ⟨hw.stands, hw.same⟩ hon
      obtain ⟨⟨-, hpainted⟩, hf, hlong, hpath⟩ := (hmake.post fun _ _ hmade => ⟨hmade.1, hmade.2.1⟩).seq
        (fun _ => copyShown_paints ho hapart hP hv hentry hlast) w a w' hw hon
      exact ⟨⟨hstands, hsame, hpainted⟩, hf, hlong, fun _ => hpath⟩

theorem copyVisit_succeeds (hleads : d₀.Leads source) (hhome : d₀.home = home)
    (hpaintable : Paintable P home base d₁) (hpath : v.path.isLong = false)
    (hlong : (beneath (base.join ⟨top :: others⟩) v.names).isLong = false) :
    Succeeds (Copying P home base source d₀ d₁) (copyVisit (base.join ⟨top :: others⟩) v) := by
  have make : ∀ {names : List String} {target : Path}, IsGoal base (top :: names) target →
      target.isLong = false → (∀ m, m ≠ [] → m <+: top :: names → P m = some .directory) →
      Succeeds (Copying P home base source d₀ d₁) (makeDirectories target) := fun hg hlong hshown =>
    (makeDirectories_succeeds hg hlong hshown hpaintable).pre fun d hd => ⟨hd.stands, hd.painted⟩
  by_cases hnil : v.names = []
  · rw [hnil, beneath_nil] at hlong
    rw [copyVisit_start hnil (by rw [hv.start hnil]; rfl)]
    exact make (isGoal_slash ho) hlong fun _ => hP.way _
  · obtain ⟨init, last, hlast, heq⟩ := @copyVisit_eq base _ _ ho _ hnil hv.names
    rw [hv.beneath_eq ho hnil] at hlong
    have hall : IsGoal base (top :: others ++ v.names) _ :=
      ⟨by simp, List.forall_mem_append.mpr ⟨ho, hv.names⟩, Or.inl rfl⟩
    rw [heq]
    cases hentry : v.entry with
    | directory =>
      simp only [Entry.isDirectory, if_true]
      exact make hall hlong fun m => hv.directories hP ht₀ (List.prefix_refl _) fun _ => hentry
    | link target => exact absurd (hentry ▸ hv.find?) (ht₀.noLink _ _)
    | file content =>
      have hg : IsGoal base (top :: (others ++ init)) _ := hv.isGoal_above ho hlast
      have hshown := fun m (hne : m ≠ []) hm => hv.directories_above (m := m) ht₀ hP hlast hne hm
      have habove : (base.join ⟨top :: others ++ init⟩).isLong = false := by
        rw [hlast, ← List.append_assoc] at hall
        rw [hlast, ← List.append_assoc] at hlong
        exact hall.isLong_left (by simp) hlong
      simp only [Entry.isDirectory]
      exact (make hg habove hshown).seq ((makeShown hapart hg hshown).post fun _ _ hmade => ⟨hmade.1, hmade.2.1⟩)
        fun _ => copyShown_succeeds ho hapart hP hv hentry hlast hleads hhome hpaintable hpath hlong

/-- Copying one thing that **a walk meets** paints it, and shows that its paths are not too long. -/
theorem copyMet_paints :
    Ends (Copying P home base source d₀ d₁) (copyMet (base.join ⟨top :: others⟩) v) fun _ d =>
      Copying P home base source d₀ d₁ d ∧
        d.find? (base.place home ++ (top :: others ++ v.names)) = some v.entry ∧
          (called source v.names).isLong = false ∧
            (beneath (base.join ⟨top :: others⟩) v.names).isLong = false := by
  refine (copyVisit_paints ho hapart ht₀ hP hv).seq fun _ => .ite (fun _ => .fail _) fun hshort => ?_
  refine .pure fun d ⟨hd, hf, hlong, hfile⟩ => ⟨hd, hf, ?_, hlong⟩
  rw [← hv.path]
  cases hdir : v.entry.isDirectory with
  | true => simpa [Visit.isLongDirectory, hdir] using hshort
  | false => exact hfile hdir

theorem copyMet_succeeds (hleads : d₀.Leads source) (hhome : d₀.home = home)
    (hpaintable : Paintable P home base d₁) (hpath : (called source v.names).isLong = false)
    (hlong : (beneath (base.join ⟨top :: others⟩) v.names).isLong = false) :
    Succeeds (Copying P home base source d₀ d₁) (copyMet (base.join ⟨top :: others⟩) v) := by
  rw [← hv.path] at hpath
  rw [copyMet_of_short (by simp [Visit.isLongDirectory, hpath])]
  exact copyVisit_succeeds ho hapart ht₀ hP hv hleads hhome hpaintable hpath hlong

end Visit

/-! ## Copying a tree -/

theorem met_of_mem {w : Disk} (ht : w.IsTree) (hsame : SameOn (Seen home source) w d₀)
    (hdir : d₀.find? (source.place home) = some .directory) {n : Nat} {v : Visit}
    (hv : v ∈ ⟨source, [], .directory⟩ :: visits w n (source.place home) source []) :
    Met d₀ home source v := by
  rcases List.mem_cons.mp hv with rfl | hv
  · exact ⟨by simp, fun _ => rfl, by simpa using hdir, rfl⟩
  · obtain ⟨m, hne, hm, hf, hnames, hpath⟩ := mem_visits ht.nested _ hv
    rw [List.nil_append] at hnames
    subst hnames
    refine ⟨hm, fun h => absurd h hne, ?_, hpath.trans (called_of_ne hne).symm⟩
    rw [← hsame.find? _ (Or.inr (List.prefix_append _ _)), hf]

section Tree

variable {others : List String} (ho : ∀ n ∈ top :: others, IsDiskName n)
  (hapart : Apart home base top source) (ht₀ : d₀.IsTree)
  (hP : Shows P d₀ (source.place home) (top :: others))

include ho hapart ht₀ hP

/-- **Copying a tree** paints it. -/
theorem copyTree_paints :
    Ends (fun d => Copying P home base source d₀ d₁ d ∧ d.Leads source)
      (copyTree source (base.join ⟨top :: others⟩)) fun _ d =>
        Copying P home base source d₀ d₁ d ∧
          (∀ m, (d₀.find? (source.place home ++ m)).isSome = true →
            d.find? (base.place home ++ (top :: others ++ m)) = d₀.find? (source.place home ++ m)) ∧
          Short d₀ source (base.join ⟨top :: others⟩) (source.place home) := by
  intro w a w' hw hon
  obtain ⟨hw, hleads⟩ := hw
  have hg : Goal base top (base.join ⟨top :: others⟩) := ⟨others, ho, rfl⟩
  have ht := hw.stands.tree
  have hsource : ∀ m, w.disk.find? (source.place home ++ m) = d₀.find? (source.place home ++ m) :=
    fun m => hw.same.find? _ (Or.inr (List.prefix_append _ _))
  have hdirectory : d₀.find? (source.place home) = some .directory := by
    rw [← hw.same.find? _ (Or.inl List.mem_cons_self), ← hw.stands.home_eq]
    exact hleads.place
  rw [copyTree_eq hg hapart hw.stands hleads] at hon
  -- what has been copied stays until the end
  have hdone : Copying P home base source d₀ d₁ w'.disk ∧
      ∀ v ∈ ⟨source, [], .directory⟩ ::
        visits w.disk w.disk.depthBound (source.place home) source [],
        w'.disk.find? (base.place home ++ (top :: others ++ v.names)) = some v.entry ∧
          (called source v.names).isLong = false ∧
            (beneath (base.join ⟨top :: others⟩) v.names).isLong = false := by
    refine @Ends.forM Visit (copyMet (base.join ⟨top :: others⟩)) (fun done d =>
      Copying P home base source d₀ d₁ d ∧ ∀ v ∈ done,
        d.find? (base.place home ++ (top :: others ++ v.names)) = some v.entry ∧
          (called source v.names).isLong = false ∧
            (beneath (base.join ⟨top :: others⟩) v.names).isLong = false) [] _ ?_ w a w'
      ⟨hw, by simp⟩ hon
    intro done v rest heq w₁ a w₂ hw₁ hon
    obtain ⟨hw₁, hdone⟩ := hw₁
    rw [List.nil_append] at heq
    have hmet : ∀ u ∈ done ++ [v], Met d₀ home source u := fun u hu =>
      met_of_mem ht hw.same hdirectory (by rw [heq]; simp at hu ⊢; tauto)
    obtain ⟨hcopying, hf⟩ := copyMet_paints ho hapart ht₀ hP (hmet v (by simp)) w₁ a w₂
      ⟨hw₁.stands, hw₁.same, Painted.refl ..⟩ hon
    refine ⟨⟨hcopying.stands, hcopying.same, hw₁.painted.trans hcopying.painted⟩, fun u hu => ?_⟩
    rcases List.mem_append.mp hu with hu' | hu'
    · have hshown : P (top :: others ++ u.names) = some u.entry := by
        have hfu := (hmet u hu).find?
        rw [hP.tree u.names (by rw [hfu]; rfl), hfu]
      obtain ⟨hu, hlong⟩ := hdone u hu'
      rw [hcopying.painted.keeps (hu.trans hshown.symm), hshown]
      exact ⟨rfl, hlong⟩
    · rw [List.mem_singleton.mp hu']
      exact hf
  have hall : ∀ m e, d₀.find? (source.place home ++ m) = some e →
      w'.disk.find? (base.place home ++ (top :: others ++ m)) = some e ∧ (called source m).isLong = false ∧
        (beneath (base.join ⟨top :: others⟩) m).isLong = false := by
    intro m e he
    by_cases hnil : m = []
    · subst hnil
      rw [List.append_nil, hdirectory] at he
      rw [← Option.some.inj he]
      exact hdone.2 _ List.mem_cons_self
    · have hvisit := @exists_mem_visits _ ht.nested w.disk.depthBound _ source [] _ _
        (by simp only [depthBound, pathLimit]; omega) hnil ((hsource m).trans he)
      exact hdone.2 _ (List.mem_cons_of_mem _ hvisit)
  refine ⟨hdone.1, fun m hm => ?_, fun m hm => ?_⟩
  all_goals obtain ⟨e, he⟩ := Option.isSome_iff_exists.mp hm
  · rw [he, (hall m e he).1]
  · exact (hall m e he).2

/-- Copying a tree **succeeds** where it can be painted, if no path is too long. -/
theorem copyTree_succeeds (hleads : d₀.Leads source) (hhome : d₀.home = home)
    (hpaintable : Paintable P home base d₁)
    (hshort : Short d₀ source (base.join ⟨top :: others⟩) (source.place home)) :
    Succeeds (Copying P home base source d₀ d₁) (copyTree source (base.join ⟨top :: others⟩)) := by
  intro w hw
  have hg : Goal base top (base.join ⟨top :: others⟩) := ⟨others, ho, rfl⟩
  have hdirectory : d₀.find? (source.place home) = some .directory := hhome ▸ hleads.place
  have hmet := fun v => @met_of_mem home source d₀ w.disk hw.stands.tree hw.same hdirectory
    w.disk.depthBound v
  rw [copyTree_eq hg hapart hw.stands (hw.same.symm.leads (fun x hx => Or.inl (hhome ▸ hx)) hleads)]
  refine Succeeds.forM (fun v hv => ?_) (fun v hv =>
    (copyMet_paints ho hapart ht₀ hP (hmet v hv)).post fun _ _ hd => hd.1) w hw
  obtain ⟨hpath, hlong⟩ := hshort v.names (by rw [(hmet v hv).find?]; rfl)
  exact copyMet_succeeds ho hapart ht₀ hP (hmet v hv) hleads hhome hpaintable hpath hlong

end Tree

end Run

end SiteGen
