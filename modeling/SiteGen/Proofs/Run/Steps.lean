import SiteGen.Proofs.Run.Confined
import SiteGen.Tree.Copy

/-!
# Steps of runs

The single steps that a run takes on a disk, confined to the place of their path.

* `Run.makeDirectories_confined`, `putText_confined`, `copyFile_confined`, `removeFile_confined`: steps
  that write at the end of a path which goes down from a directory.
* `Run.removeAll_confined`, `rename_confined`: steps that remove or move all that is below a name.
* `Run.fileText_confined`, `inspect_congr`, `listing_confined`: steps that read.
-/

namespace SiteGen

namespace Disk

open SiteGen.Path

variable {d d₁ d₂ : Disk} {R : Place → Prop} {p : Path}

theorem look_congr (h₁ : d₁.Linkless) (h : SameOn R d₁ d₂) (hp : ∀ q ∈ p.trail d₁.home, R q) :
    d₁.look p = d₂.look p := lookFor_congr h₁ h hp

theorem hasAny_congr (h₁ : d₁.Linkless) (h : SameOn R d₁ d₂) (hp : ∀ q ∈ p.trail d₁.home, R q) :
    d₁.hasAny p = d₂.hasAny p := by
  rw [hasAny, hasAny, look_congr h₁ h hp]

theorem hasFile_congr (h₁ : d₁.Linkless) (h : SameOn R d₁ d₂) (hp : ∀ q ∈ p.trail d₁.home, R q) :
    d₁.hasFile p = d₂.hasFile p := by
  rw [hasFile, hasFile, look_congr h₁ h hp]

theorem hasDirectory_congr (h₁ : d₁.Linkless) (h : SameOn R d₁ d₂)
    (hp : ∀ q ∈ p.trail d₁.home, R q) : d₁.hasDirectory p = d₂.hasDirectory p := by
  rw [hasDirectory, hasDirectory, look_congr h₁ h hp]

theorem isFile_of_hasFile (hd : d.Linkless) (h : d.hasFile p = true) :
    (d.find? (p.place d.home)).any (·.isFile) = true := by
  unfold hasFile at h
  cases hl : d.look p with
  | error fault => simp [hl, Except.toOption] at h
  | ok r =>
    obtain ⟨q, e⟩ := r
    obtain ⟨rfl, hf⟩ := find?_of_lookFor hd hl
    simp only [hl, Except.toOption, Option.any_some] at h
    rw [hf]
    exact h

theorem dirsStay_insert_file {q : Place} (hq : q ≠ []) (hnot : d.find? q ≠ some .directory)
    (content : ByteArray) : DirsStay d (d.insert q (.file content)) := by
  intro x hx
  rw [find?_insert _ _ _ _ hq, if_neg]
  · exact hx
  · rintro rfl
    exact hnot hx

theorem dirsStay_insert_insert {q : Place} (hq : q ≠ []) (hnot : d.find? q ≠ some .directory)
    (old new : ByteArray) : DirsStay d ((d.insert q (.file old)).insert q (.file new)) := by
  intro x hx
  rw [find?_insert_insert hq, if_neg]
  · exact hx
  · rintro rfl
    exact hnot hx

theorem within_insert_file {W V : Place → Prop} {q : Place} (hq : q ≠ []) {content : ByteArray}
    (h : W q ∨ V q ∧ (d.find? q).any (·.isFile) = true) :
    Within W V d (d.insert q (.file content)) := by
  refine ⟨rfl, fun x => ?_⟩
  rw [find?_insert _ _ _ _ hq]
  split
  · next hx =>
    subst hx
    rcases h with hW | ⟨hV, hf⟩
    · exact Or.inr (Or.inl hW)
    · exact Or.inr (Or.inr ⟨hV, hf, rfl⟩)
  · exact Or.inl rfl

end Disk

namespace Run

open Disk SiteGen.Path

variable {S : Scope} {home : Place} {p : Path} {I : Disk → Prop}

/-! ## Writing -/

/-- Making directories is confined to the places that are gone down to. -/
theorem makeDirectories_confined {names : List String} {goal : Path} (hg : IsGoal p names goal)
    (hW : ∀ m, m ≠ [] → m <+: names → S.writes (p.place home ++ m))
    (hR : ∀ m, m ≠ [] → m <+: names → S.reads (p.place home ++ m)) :
    Confined S (Stands home p) (makeDirectories goal)
      fun _ d => Stands home p d ∧ d.Leads goal := by
  refine .tryChange (fun d hd => ?_) (fun _ d₁ d₂ h₁ h₂ hS => ?_)
  · obtain ⟨ht, rfl, hp⟩ := hd
    rw [makeDirectories_join ht hp hg]
    split
    · exact ⟨Within.refl _ _ d, fun hnone => by cases hnone⟩
    obtain ⟨ht', hgrows, hall⟩ := pave_grows names ht hp.place hg.name
    refine ⟨⟨hgrows.home, fun q => ?_⟩, fun hnone => ⟨⟨ht', hgrows.home, hgrows.leads hp⟩, ?_⟩⟩
    · rcases hgrows.find? q with h | ⟨⟨m, hne, hm, rfl, -⟩, -⟩
      · exact Or.inl h
      · exact Or.inr (Or.inl (hW m hne hm))
    · refine hg.leads (hgrows.leads hp) ((reaches_names hg.plain).mpr fun m _ hm => ?_)
      rw [hgrows.home]
      exact hall hnone m hm
  · obtain ⟨ht₁, rfl, hp₁⟩ := h₁
    obtain ⟨ht₂, hhome, hp₂⟩ := h₂
    rw [makeDirectories_join ht₁ hp₁ hg, makeDirectories_join ht₂ hp₂ hg, hhome]
    split
    · exact ⟨rfl, hS⟩
    obtain ⟨hd, hf⟩ := pave_congr names hS hR
    exact ⟨hf, hd⟩

variable {q : Path}

/-- Writing a text is confined to the place of its path. -/
theorem putText_confined (hq : Descends q) (hI : ∀ d, I d → Stands home p d)
    (hW : ∀ d, I d → S.writes ((p.join q).place home) ∨
      S.rewrites ((p.join q).place home) ∧
        (d.find? ((p.join q).place home)).any (·.isFile) = true)
    (hR : ∀ x ∈ (p.join q).trail home, S.reads x) (text : String) :
    Confined S I (putText (p.join q) text) fun _ d => Stands home p d := by
  refine .change (fun d d' hd h => ?_) (fun _ d₁ d₂ h₁ _ hS => ?_)
  · have hp := hI d hd
    obtain ⟨x, hcalls, hnot, rfl⟩ :=
      writeBytes_cases hp.tree (hp.leads.grounded_join hq.toContinues) h
    have hx := hcalls.place_eq
    rw [hp.home_eq] at hx
    subst hx
    refine ⟨within_insert_file hcalls.ne_nil (hW d hd), hp.of_dirsStay ?_ rfl
      (dirsStay_insert_file hcalls.ne_nil hnot _)⟩
    exact hcalls.insert hp.tree (hp.leads.admits hq) (by simp) fun hdir => absurd hdir hnot
  · have hp := hI d₁ h₁
    exact writeBytes_congr hp.tree.noLink hS (by rwa [hp.home_eq]) _

/-- Copying a file is confined to the place of the copy. -/
theorem copyFile_confined (hq : Descends q) (hI : ∀ d, I d → Stands home p d) {source : Path}
    (hW : S.writes ((p.join q).place home))
    (hsource : S.blind → ∀ x ∈ source.trail home, S.reads x)
    (hR : ∀ x ∈ (p.join q).trail home, S.reads x) :
    Confined S I (Run.change (·.copyFile source (p.join q))) fun _ d => Stands home p d := by
  refine .change (fun d d' hd h => ?_) (fun hb d₁ d₂ h₁ _ hS => ?_)
  · have hp := hI d hd
    obtain ⟨x, content, hcalls, hnot, ht', rfl, -⟩ := copyFile_cases hp.tree
      (hp.leads.grounded_join hq.toContinues) (hp.leads.admits hq) h
    have hx := hcalls.place_eq
    rw [hp.home_eq] at hx
    subst hx
    have hne := hcalls.ne_nil
    exact ⟨(within_insert_file hne (Or.inl hW)).trans (within_insert_file hne (Or.inl hW)),
      hp.of_dirsStay ht' rfl (dirsStay_insert_insert hne hnot _ _)⟩
  · have hp := hI d₁ h₁
    exact copyFile_congr hp.tree.noLink hS (by rw [hp.home_eq]; exact hsource hb)
      (by rwa [hp.home_eq])

/-- Removing a file is confined to its place. -/
theorem removeFile_confined (hq : Descends q) (hI : ∀ d, I d → Stands home p d)
    (hW : S.writes ((p.join q).place home)) (hR : ∀ x ∈ (p.join q).trail home, S.reads x) :
    Confined S I (Run.change (·.removeFile (p.join q))) fun _ d => Stands home p d := by
  refine .change (fun d d' hd h => ?_) (fun _ d₁ d₂ h₁ _ hS => ?_)
  · have hp := hI d hd
    obtain ⟨x, hcalls, ⟨content, hf⟩, rfl⟩ :=
      removeFile_cases hp.tree (hp.leads.grounded_join hq.toContinues) h
    have hx := hcalls.place_eq
    rw [hp.home_eq] at hx
    subst hx
    have hne := hcalls.ne_nil
    refine ⟨⟨rfl, fun y => ?_⟩, hp.of_dirsStay (hp.tree.erase hne (by rw [hf]; simp)) rfl ?_⟩
    · rw [find?_erase _ _ _ hne]
      split
      · next hy =>
        subst hy
        exact Or.inr (Or.inl hW)
      · exact Or.inl rfl
    · intro y hy
      rw [find?_erase _ _ _ hne, if_neg]
      · exact hy
      · rintro rfl
        rw [hf] at hy
        cases hy
  · have hp := hI d₁ h₁
    exact removeFile_congr hp.tree hS (by rwa [hp.home_eq])

/-! ## Removing and moving -/

variable {base : Path}

theorem stands_eraseBelow {d : Disk} (h : Stands home base d) {q : Place}
    (hout : ∀ x ∈ base.trail home, ¬q <+: x) : Stands home base (d.eraseBelow q) := by
  refine ⟨h.tree.eraseBelow q, h.home_eq, h.leads.noNull, fun x hx => ?_⟩
  rw [home_eraseBelow] at hx
  have hd := h.leads.onTrail x hx
  rw [h.home_eq] at hx
  by_cases hne : x = []
  · rw [hne, find?_nil]
  · rw [find?_eraseBelow _ _ _ hne, if_neg (hout x hx), hd]

theorem within_eraseBelow {W V : Place → Prop} {q : Place} (hW : ∀ x, q <+: x → W x) (d : Disk) :
    Within W V d (d.eraseBelow q) := by
  refine ⟨rfl, fun x => ?_⟩
  by_cases hne : x = []
  · rw [hne, find?_nil, find?_nil]
    exact Or.inl rfl
  · rw [find?_eraseBelow _ _ _ hne]
    split
    · next h => exact Or.inr (Or.inl (hW x h))
    · exact Or.inl rfl

/-- Removing a directory is confined to what is at and below it. -/
theorem removeAll_confined {name : String} (hn : IsDiskName name)
    (hI : ∀ d, I d → Stands home base d ∧ d.Leads p ∧
      d.find? (p.place home ++ [name]) = some .directory)
    (hW : ∀ x, p.place home ++ [name] <+: x → S.writes x)
    (hout : ∀ x ∈ base.trail home, ¬p.place home ++ [name] <+: x) :
    Confined S I (Run.tryChange (·.removeAll (p.join ⟨[name]⟩))) fun _ d => Stands home base d := by
  have hremove : ∀ d, I d → d.removeAll (p.join ⟨[name]⟩) =
      if (p.join ⟨[name]⟩).isLong then (d, some .nameTooLong)
      else (d.eraseBelow (p.place home ++ [name]), none) := fun d hd => by
    obtain ⟨hs, hp, hf⟩ := hI d hd
    obtain ⟨ht, rfl, -⟩ := hs
    by_cases hlong : (p.join ⟨[name]⟩).isLong = true
    · rw [if_pos hlong, removeAll_of_isLong hp hn hlong]
    · rw [if_neg hlong, removeAll_child ht hp hn (by simpa using hlong) hf]
      rfl
  refine .tryChange (fun d hd => ?_) (fun _ d₁ d₂ h₁ h₂ hS => ?_)
  · rw [hremove d hd]
    split
    · exact ⟨Within.refl _ _ d, fun hnone => by cases hnone⟩
    · exact ⟨within_eraseBelow hW d, fun _ => stands_eraseBelow (hI d hd).1 hout⟩
  · rw [hremove d₁ h₁, hremove d₂ h₂]
    split
    · exact ⟨rfl, hS⟩
    · exact ⟨rfl, hS.eraseBelow _⟩

/-- Moving a directory to where nothing is, is confined to what is at and below both places. -/
theorem rename_confined {p₁ p₂ : Path} {a b : String} (ha : IsDiskName a) (hb : IsDiskName b)
    (hI : ∀ d, I d → Stands home base d ∧ d.Leads p₁ ∧ d.Leads p₂ ∧
      d.find? (p₁.place home ++ [a]) = some .directory ∧ d.find? (p₂.place home ++ [b]) = none)
    (hnot : ¬p₁.place home ++ [a] <+: p₂.place home ++ [b])
    (hW₁ : ∀ x, p₁.place home ++ [a] <+: x → S.writes x)
    (hW₂ : ∀ x, p₂.place home ++ [b] <+: x → S.writes x)
    (hR : ∀ x, p₁.place home ++ [a] <+: x → S.reads x)
    (hout₁ : ∀ x ∈ base.trail home, ¬p₁.place home ++ [a] <+: x)
    (hout₂ : ∀ x ∈ base.trail home, ¬p₂.place home ++ [b] <+: x) :
    Confined S I (Run.change (·.rename (p₁.join ⟨[a]⟩) (p₂.join ⟨[b]⟩)))
      fun _ d => Stands home base d := by
  have hrename : ∀ d, I d → d.rename (p₁.join ⟨[a]⟩) (p₂.join ⟨[b]⟩) =
      if (p₁.join ⟨[a]⟩).isLong || (p₂.join ⟨[b]⟩).isLong then .error .nameTooLong
      else if missing b = .notFound then
        .ok (d.moveBelow (p₁.place home ++ [a]) (p₂.place home ++ [b]))
      else .error (missing b) :=
    fun d hd => by
      obtain ⟨⟨ht, rfl, -⟩, h₁, h₂, hsource, hgoal⟩ := hI d hd
      exact rename_child ht h₁ h₂ ha hb hsource hgoal hnot
  have hne₁ := concat_ne_nil (p₁.place home) a
  have hne₂ := concat_ne_nil (p₂.place home) b
  refine .change (fun d d' hd h => ?_) (fun _ d₁ d₂ h₁ h₂ hS => ?_)
  · rw [hrename d hd] at h
    split at h
    · cases h
    split at h
    · obtain rfl := Except.ok.inj h
      obtain ⟨hs, -, h₂, -, -⟩ := hI d hd
      have hplace := h₂.place
      rw [hs.home_eq] at hplace
      refine ⟨⟨home_moveBelow .., fun x => ?_⟩, ?_, by rw [home_moveBelow]; exact hs.home_eq,
        hs.leads.noNull, fun x hx => ?_⟩
      · rw [find?_moveBelow _ hne₁ hne₂]
        split
        · next h => exact Or.inr (Or.inl (hW₂ x h))
        · split
          · next h => exact Or.inr (Or.inl (hW₁ x h))
          · exact Or.inl rfl
      · exact hs.tree.moveBelow hne₁ hplace hb fun h => hnot (h.trans (List.prefix_append _ _))
      · rw [home_moveBelow] at hx
        have hd := hs.leads.onTrail x hx
        rw [hs.home_eq] at hx
        rw [find?_moveBelow _ hne₁ hne₂, if_neg (hout₂ x hx), if_neg (hout₁ x hx), hd]
    · cases h
  · rw [hrename d₁ h₁, hrename d₂ h₂]
    split
    · rfl
    split
    · refine ⟨?_, fun x hx => ?_⟩
      · rw [home_moveBelow, home_moveBelow, hS.home]
      · rw [find?_moveBelow _ hne₁ hne₂, find?_moveBelow _ hne₁ hne₂,
          hS.find? _ (hR _ (List.prefix_append _ _)), hS.find? x hx]
    · rfl

/-! ## Reading -/

theorem inspect_congr {α : Type} {f : Disk → α} {q : Path} (hI : ∀ d, I d → d.IsTree ∧ d.home = home)
    (hR : ∀ x ∈ q.trail home, S.reads x)
    (hf : ∀ d₁ d₂, d₁.Linkless → SameOn S.reads d₁ d₂ → (∀ x ∈ q.trail d₁.home, S.reads x) →
      f d₁ = f d₂) :
    Confined S I (Run.inspect f) fun a d => I d ∧ f d = a :=
  .inspect fun _ d₁ d₂ h₁ _ hS => hf d₁ d₂ (hI d₁ h₁).1.noLink hS (by rwa [(hI d₁ h₁).2])

/-- Reading a file is confined to the trail of its path. -/
theorem fileText_confined {q : Path} (hI : ∀ d, I d → d.IsTree ∧ d.home = home)
    (hR : ∀ x ∈ q.trail home, S.reads x) :
    Confined S I (fileText q) fun text d => I d ∧ d.readText q = .ok text := by
  unfold fileText
  refine (inspect_congr hI hR fun d₁ d₂ h hS hx => hasFile_congr h hS hx).bind fun b => ?_
  refine .ite (fun _ => ?_) (fun _ => .fail _)
  refine (Confined.query (I := I) fun _ d₁ d₂ h₁ _ hS => ?_).pre fun d hd => hd.1
  exact readText_congr (hI d₁ h₁).1.noLink hS (by rwa [(hI d₁ h₁).2])

/-- Listing a directory is confined to the trail of its path and what is in it. -/
theorem listing_confined {q : Path} (hI : ∀ d, I d → d.IsTree ∧ d.home = home)
    (hR : ∀ x ∈ q.trail home, S.reads x) (hbelow : ∀ name, S.reads (q.place home ++ [name])) :
    Confined S I (Run.query (·.listing q)) fun children d => I d ∧ d.listing q = .ok children :=
  .query fun _ d₁ d₂ h₁ _ hS => listing_congr (hI d₁ h₁).1.noLink hS (by rwa [(hI d₁ h₁).2])
    (by rwa [(hI d₁ h₁).2])

end Run

end SiteGen
