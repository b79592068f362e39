import SiteGen.Proofs.Tree.Merge

/-!
# Moving trees

A tree is moved by giving it another name, or by copying it into a directory that is there and then removing it.
Either way the goal afterwards has what was there, with what was in the tree put over it, and the tree is gone; if it
cannot be put there, the tree stays complete.

* `Run.Movable`, `Run.Destination`: what can be moved, and where to.
* `Run.Agree`, `Run.Room`, `Run.Fits`: when this succeeds.
* `Run.Moved`, `Run.Spared`: what comes of it, and what if it fails.
* `Run.moveTree_free`, `Run.copyTree_removeAll`: the two ways of moving a tree.
* `Run.moveTree_made`: both ways come to the same.
* `Run.moveTree_outcome`: moving succeeds just then, and this comes of it, whichever way it goes.
* `Run.moveTree_exceptions`: where links, dots and long paths are in the way of that.
-/

namespace SiteGen.Run

open Disk SiteGen.Path

/-! ## Trees that can be moved -/

/-- When a path calls a **tree that can be moved**: its last part is the name of a directory, and there are no links in
that. -/
structure Movable (d : Disk) (source : Path) (S : Place) : Prop where
  place : d.locateName source = .ok S
  not_dots : endsInDots source = false
  directory : d.find? S = some .directory
  noLink : ∀ m target, d.find? (S ++ m) ≠ some (.link target)

/-- Where a tree **can be moved to**: a name that is still free in a directory, or a directory in which no names that
are in the tree are those of links. -/
inductive Destination (d : Disk) (goal : Path) (S : Place) : Place → Prop
  /-- A name that is still free. -/
  | free {above : Place} {name : String} (place : d.locateName goal = .ok (above ++ [name]))
    (not_dots : endsInDots goal = false) (up : d.find? above = some .directory) (plain : IsDiskName name)
    (missing : d.find? (above ++ [name]) = none) : Destination d goal S (above ++ [name])
  /-- A directory that is there. -/
  | taken {D : Place} (look : d.look goal = .ok (D, .directory))
    (noLink : ∀ m e target, d.find? (S ++ m) = some e → d.find? (D ++ m) ≠ some (.link target)) :
    Destination d goal S D

/-- Whether two trees **agree**: nothing is a directory in one of them and something else in the other. -/
def Agree (d : Disk) (S D : Place) : Prop :=
  ∀ m e old, d.find? (S ++ m) = some e → d.find? (D ++ m) = some old → e.isDirectory = old.isDirectory

/-- Whether there is **room** for a tree in a directory: no path by which something is read or put there is too long,
nor the name of something that is not there yet. -/
structure Room (d : Disk) (source goal : Path) (S D : Place) : Prop where
  short : Short d source goal S
  names : ∀ m e, m ≠ [] → d.find? (S ++ m) = some e → d.find? (D ++ m) = none →
    missing (m.getLast?.getD "") = .notFound

/-- When a tree **has been moved**: at the goal there is what was in the tree, or else what was there before; the tree
is gone, and nothing else has changed. -/
structure Moved (S D : Place) (d d' : Disk) : Prop where
  home : d'.home = d.home
  source : ∀ m, d'.find? (S ++ m) = none
  goal : ∀ m, d'.find? (D ++ m) = (d.find? (S ++ m)).or (d.find? (D ++ m))
  elsewhere : ∀ q, ¬S <+: q → ¬D <+: q → d'.find? q = d.find? q

/-- When **nothing but the goal** has changed. -/
structure Spared (S D : Place) (d d' : Disk) : Prop where
  home : d'.home = d.home
  source : ∀ m, d'.find? (S ++ m) = d.find? (S ++ m)
  elsewhere : ∀ q, ¬D <+: q → d'.find? q = d.find? q

variable {d : Disk} {source goal : Path} {S D : Place} {w : World}

theorem moveTree_on (source goal : Path) (w : World) : (moveTree source goal).on w =
    if w.disk.hasAny goal then (copyTree source goal >>= fun _ => Run.tryChange (·.removeAll source)).on w
    else (Run.change (·.rename source goal)).on w := by
  unfold moveTree
  rw [bind_of_ok (inspect_on _ _)]
  split <;> rfl

/-! ## A name that is free -/

/-- **Giving a tree another name**. -/
theorem moveTree_free (hd : w.disk.IsNested) (hs : Movable w.disk source S) {above : Place} {name : String}
    (hplace : w.disk.locateName goal = .ok (above ++ [name])) (hdots : endsInDots goal = false)
    (hnone : w.disk.find? (above ++ [name]) = none) (hS : ¬S <+: above ++ [name]) (hD : ¬above ++ [name] <+: S) :
    ∃ d, (moveTree source goal).on w = (.ok (), { w with disk := d }) ∧ Moved S (above ++ [name]) w.disk d := by
  have hSne : S ≠ [] := fun hnil => hS (hnil ▸ List.nil_prefix)
  have hne : S ≠ above ++ [name] := fun heq => hS (heq ▸ List.prefix_refl _)
  have hrename : w.disk.rename source goal = .ok (w.disk.moveBelow S (above ++ [name])) := by
    unfold rename
    rw [hs.place, hplace]
    simp [bind, Except.bind, hs.not_dots, hdots, hs.directory, hnone, Entry.isDirectory, hne, hS, hD]
  refine ⟨w.disk.moveBelow S (above ++ [name]), ?_, home_moveBelow .., fun m => ?_, fun m => ?_, fun q hqS hqD => ?_⟩
  · rw [moveTree_on, hasAny_of_locateName hplace hnone, if_neg (by simp), change_on_ok hrename]
  · rw [find?_moveBelow _ hSne (by simp), if_neg, if_pos (List.prefix_append _ _)]
    exact fun hpre => (List.prefix_or_prefix_of_prefix hpre (List.prefix_append S m)).elim hD hS
  · rw [find?_moveBelow _ hSne (by simp), if_pos (List.prefix_append _ _), List.drop_left, hd.find?_below hnone,
      Option.or_none]
  · rw [find?_moveBelow _ hSne (by simp), if_neg hqD, if_neg hqS]

/-! ## A directory that is there -/

theorem Movable.merging (hd : d.IsNested) (hs : Movable d source S) (hlook : d.look goal = .ok (D, .directory))
    (hlink : ∀ m e target, d.find? (S ++ m) = some e → d.find? (D ++ m) ≠ some (.link target))
    (hS : ¬S <+: D) (hD : ¬D <+: S) : Merging d source goal S D :=
  ⟨hd, lookFor_of_locateName hs.place hs.directory, lookFor_of_locateName hs.place hs.directory, hlook, hS, hD,
    hs.noLink, hlink⟩

theorem Merging.mergeable_iff (h : Merging d source goal S D) :
    Mergeable d source goal S D ↔ Agree d S D ∧ Room d source goal S D := by
  constructor
  · intro hall
    refine ⟨fun m e old he hold => ((takes_of_some hold).mp (hall m e he).2).2, fun m hm => ?_,
      fun m e _ he hnone => ((takes_of_none hnone).mp (hall m e he).2).2⟩
    obtain ⟨e, he⟩ := Option.isSome_iff_exists.mp hm
    exact ⟨(hall m e he).1, (hall m e he).2.1⟩
  · rintro ⟨hagree, hroom⟩ m e he
    obtain ⟨hread, hwrite⟩ := hroom.short m (by rw [he]; rfl)
    refine ⟨hread, ?_⟩
    cases hold : d.find? (D ++ m) with
    | some old => exact (takes_of_some hold).mpr ⟨hwrite, hagree m e old he hold⟩
    | none =>
      refine (takes_of_none hold).mpr ⟨hwrite, hroom.names m e ?_ he hold⟩
      rintro rfl
      rw [List.append_nil, (lookFor_eq_ok.mp h.goal).2] at hold
      cases hold

/-- Removing a tree after it **has been copied**. -/
theorem Merging.moved (h : Merging d source goal S D) {d' : Disk} (hd : Merges d goal S D d d')
    (hplaced : ∀ m, Placed d source goal S D d' m) : Moved S D d (d'.eraseBelow S) := by
  have hSne : S ≠ [] := fun hnil => h.not_above (hnil ▸ List.nil_prefix)
  refine ⟨hd.home, fun m => ?_, fun m => ?_, fun q hqS hqD => ?_⟩
  · rw [find?_eraseBelow _ _ _ (by simp [hSne]), if_pos (List.prefix_append _ _)]
  · rw [find?_eraseBelow _ _ _ (by simp [h.ne_nil]), if_neg]
    · cases he : d.find? (S ++ m) with
      | some e => exact (hplaced m e he).1
      | none =>
        rcases hd.find? (D ++ m) with heq | ⟨m', e, hq, he', -⟩
        · exact heq
        · rw [← List.append_cancel_left hq, he] at he'
          cases he'
    · rintro ⟨m', heq⟩
      exact h.apart m' m heq
  · by_cases hq : q = []
    · rw [hq, find?_nil, find?_nil]
    · rw [find?_eraseBelow _ _ _ hq, if_neg hqS]
      rcases hd.find? q with heq | ⟨m, e, rfl, -⟩
      · exact heq
      · exact absurd (List.prefix_append D m) hqD

theorem Merging.spared (h : Merging d source goal S D) {d' : Disk} (hd : Merges d goal S D d d') :
    Spared S D d d' := by
  refine ⟨hd.home, h.find?_source hd, fun q hq => ?_⟩
  rcases hd.find? q with heq | ⟨m, e, rfl, -⟩
  · exact heq
  · exact absurd (List.prefix_append D m) hq

/-- **Copying a tree into a directory** and removing it. -/
theorem copyTree_removeAll (h : Merging w.disk source goal S D) (hdots : endsInDots source = false) : ∃ d,
    (Mergeable w.disk source goal S D ∧ Moved S D w.disk d ∧
        (do copyTree source goal; Run.tryChange (·.removeAll source)).on w = (.ok (), { w with disk := d })) ∨
      (¬Mergeable w.disk source goal S D ∧ Spared S D w.disk d ∧ ∃ e,
        (do copyTree source goal; Run.tryChange (·.removeAll source)).on w = (.error e, { w with disk := d })) := by
  obtain ⟨d, hd, ⟨hall, hcopy, hplaced⟩ | ⟨hno, e, hcopy⟩⟩ := copyTree_merges h
  · have hat : d.lookAt source = .ok (S, .directory) :=
      (h.retains hd).lookFor h.start ((h.retains hd).find? _ _ h.directory rfl)
    have hremove : d.removeAll source = (d.eraseBelow S, none) := by
      have hlast : lastSegment source ≠ "" ∧ lastSegment source ≠ "." ∧ lastSegment source ≠ ".." := by
        simpa [endsInDots] using hdots
      unfold removeAll
      rw [hat]
      simp [hlast]
    refine ⟨d.eraseBelow S, Or.inl ⟨hall, h.moved hd hplaced, ?_⟩⟩
    rw [bind_of_ok hcopy, tryChange_on, hremove]
    rfl
  · exact ⟨d, Or.inr ⟨hno, h.spared hd, e, bind_of_error hcopy⟩⟩

/-! ## Both ways -/

/-- When a tree **can be moved** to a place: the two agree, and in a directory that is there there is room for it. -/
def Fits (d : Disk) (source goal : Path) (S D : Place) : Prop :=
  Agree d S D ∧ (d.find? D = some .directory → Room d source goal S D)

theorem fits_of_free (hd : d.IsNested) (hnone : d.find? D = none) : Fits d source goal S D := by
  refine ⟨fun m e old _ hold => ?_, fun hdir => ?_⟩
  · rw [hd.find?_below hnone] at hold
    cases hold
  · rw [hnone] at hdir
    cases hdir

theorem Merging.fits_iff (h : Merging d source goal S D) : Fits d source goal S D ↔ Mergeable d source goal S D := by
  rw [h.mergeable_iff, Fits]
  exact and_congr_right fun _ => imp_iff_right (lookFor_eq_ok.mp h.goal).2

theorem moveTree_cases (hd : w.disk.IsNested) (hs : Movable w.disk source S) (hg : Destination w.disk goal S D)
    (hS : ¬S <+: D) (hD : ¬D <+: S) : ∃ d,
    (Fits w.disk source goal S D ∧ Moved S D w.disk d ∧ (moveTree source goal).on w = (.ok (), { w with disk := d })) ∨
      (¬Fits w.disk source goal S D ∧ Spared S D w.disk d ∧
        ∃ e, (moveTree source goal).on w = (.error e, { w with disk := d })) := by
  cases hg with
  | free hplace hdots _ _ hnone =>
    obtain ⟨d, hon, hmoved⟩ := moveTree_free hd hs hplace hdots hnone hS hD
    exact ⟨d, Or.inl ⟨fits_of_free hd hnone, hmoved, hon⟩⟩
  | taken hlook hlink =>
    have hmerging := hs.merging hd hlook hlink hS hD
    have hany : w.disk.hasAny goal = true := by
      rw [hasAny, hlook]
      rfl
    rw [moveTree_on, if_pos hany, hmerging.fits_iff]
    exact copyTree_removeAll hmerging hs.not_dots

/-! ## Free names and empty directories -/

theorem Destination.merging (hd : d.IsNested) (hs : Movable d source S) (hg : Destination d goal S D) (hS : ¬S <+: D)
    (hD : ¬D <+: S) (hnone : d.find? D = none) : Merging (d.insert D .directory) source goal S D := by
  cases hg with
  | taken hlook =>
    rw [(lookFor_eq_ok.mp hlook).2] at hnone
    cases hnone
  | @free above name hplace hdots hup hname _ =>
    have hfind := fun q => find?_insert d (above ++ [name]) q .directory (concat_ne_nil above name)
    have hretains : Retains d (d.insert (above ++ [name]) .directory) :=
      retains_insert (concat_ne_nil above name) (fun e he => by rw [hnone] at he; cases he) _
    have hdirectory := hretains.find? _ _ hs.directory rfl
    have hsource := hretains.locateName (Or.inl (hdirectory.trans hs.directory.symm)) hs.place
    have hgoal : (d.insert (above ++ [name]) .directory).find? (above ++ [name]) = some .directory := by
      rw [hfind, if_pos rfl]
    have hplace' := hretains.locateName (Or.inr ⟨.directory, hgoal, by simp⟩) hplace
    refine Movable.merging (hd.insert hup hname fun _ => rfl) ⟨hsource, hs.not_dots, hdirectory, fun m target => ?_⟩
      (lookFor_of_locateName hplace' hgoal) (fun m e target _ => ?_) hS hD
    · have hne : above ++ [name] ≠ S ++ m := fun heq => hS (heq ▸ List.prefix_append S m)
      rw [hfind, if_neg hne]
      exact hs.noLink m target
    · rw [hfind, hd.find?_below hnone]
      split <;> simp

/-- **Moving to a name that is free** comes to the same as copying into an empty directory made there, and removing. -/
theorem moveTree_made (hd : w.disk.IsNested) (hs : Movable w.disk source S) (hg : Destination w.disk goal S D)
    (hS : ¬S <+: D) (hD : ¬D <+: S) (hnone : w.disk.find? D = none) (hroom : Room w.disk source goal S D) :
    ∃ w₁ w₂, (moveTree source goal).on w = (.ok (), w₁) ∧
      (do copyTree source goal; Run.tryChange (·.removeAll source)).on
        { w with disk := w.disk.insert D .directory } = (.ok (), w₂) ∧
      SameOn (fun _ => True) w₁.disk w₂.disk := by
  have hDne : D ≠ [] := fun hnil => hD (hnil ▸ List.nil_prefix)
  have hfind := fun q => find?_insert w.disk D q .directory hDne
  have hsource : ∀ m, (w.disk.insert D .directory).find? (S ++ m) = w.disk.find? (S ++ m) := fun m => by
    have hne : D ≠ S ++ m := fun heq => hS (heq ▸ List.prefix_append S m)
    rw [hfind, if_neg hne]
  -- in the empty directory there is nothing but itself
  have hgoal : ∀ m, (w.disk.insert D .directory).find? (D ++ m) = if m = [] then some .directory else none := by
    intro m
    rw [hfind, hd.find?_below hnone]
    simp
  have hmerging := hg.merging hd hs hS hD hnone
  have hmergeable : Mergeable (w.disk.insert D .directory) source goal S D := by
    refine hmerging.mergeable_iff.mpr ⟨fun m e old he hold => ?_, fun m hm => hroom.short m (hsource m ▸ hm),
      fun m e hm he _ => hroom.names m e hm (hsource m ▸ he) (hd.find?_below hnone m)⟩
    rw [hgoal] at hold
    split at hold
    · next hm =>
      rw [hm, List.append_nil, hmerging.directory] at he
      rw [← Option.some.inj he, ← Option.some.inj hold]
    · cases hold
  obtain ⟨d₁, ⟨-, h₁, hon₁⟩ | ⟨hno, -⟩⟩ := moveTree_cases hd hs hg hS hD
  · obtain ⟨d₂, ⟨-, h₂, hon₂⟩ | ⟨hno, -⟩⟩ :=
      @copyTree_removeAll source goal S D { w with disk := w.disk.insert D .directory } hmerging hs.not_dots
    · refine ⟨_, _, hon₁, hon₂, h₁.home.trans h₂.home.symm, fun q _ => ?_⟩
      by_cases hqS : S <+: q
      · obtain ⟨m, rfl⟩ := hqS
        rw [h₁.source, h₂.source]
      by_cases hqD : D <+: q
      · obtain ⟨m, rfl⟩ := hqD
        rw [h₁.goal, h₂.goal, hsource, hgoal, hd.find?_below hnone]
        split
        · next hm =>
          rw [hm, List.append_nil, hs.directory]
          rfl
        · rfl
      · have hne : D ≠ q := fun heq => hqD (heq ▸ List.prefix_refl D)
        rw [h₁.elsewhere q hqS hqD, h₂.elsewhere q hqS hqD, hfind, if_neg hne]
    · exact absurd hmergeable hno
  · exact absurd (fits_of_free hd hnone) hno

/-! ## What can be checked of a disk -/

theorem ne_link {o : Option Entry} (h : o.all fun e => e.isDirectory || e.isFile) (target : Path) :
    o ≠ some (.link target) := by
  rintro rfl
  cases h

theorem noLink_below (hS : S ≠ []) (h : ∀ x ∈ d.toList, S <+: x.1 → (x.2.isDirectory || x.2.isFile) = true)
    (m : List String) (target : Path) : d.find? (S ++ m) ≠ some (.link target) := fun hlink => by
  have hall := (forall_below_iff (P := fun _ e => (e.isDirectory || e.isFile) = true) hS).mpr h m _ hlink
  cases hall

theorem noLink_beside (hS : S ≠ []) (h : ∀ x ∈ d.toList, S <+: x.1 →
    (d.find? (D ++ x.1.drop S.length)).all fun e => e.isDirectory || e.isFile) (m : List String) (e : Entry)
    (target : Path) (he : d.find? (S ++ m) = some e) : d.find? (D ++ m) ≠ some (.link target) :=
  ne_link ((forall_below_iff (P := fun m _ => (d.find? (D ++ m)).all fun e => e.isDirectory || e.isFile) hS).mpr
    h m e he) target

theorem agree_of_toList (hS : S ≠ []) (h : ∀ x ∈ d.toList, S <+: x.1 →
    (d.find? (D ++ x.1.drop S.length)).all fun old => x.2.isDirectory == old.isDirectory) : Agree d S D :=
  fun m e old he hold => by
    have := (forall_below_iff (P := fun m e => (d.find? (D ++ m)).all fun old => e.isDirectory == old.isDirectory)
      hS).mpr h m e he
    simpa [hold] using this

/-! ## What comes of moving a tree -/

/-- **What comes of moving a tree.** It succeeds just when nothing is a directory in one of the tree and the goal and
something else in the other, and, if the goal is a directory that is there, there is room in it: no path by which
something is read in the tree or put there is too long.
Then the goal has what was in the tree, or else what it had before; the tree is gone, and all else is the same. If it
fails, nothing but the goal has changed, and the tree is complete. A tree that is moved to a name that is free has been
moved as if it had been copied into an empty directory there, and then removed. -/
theorem moveTree_outcome (hd : w.disk.IsNested) (hs : Movable w.disk source S) (hg : Destination w.disk goal S D)
    (hS : ¬S <+: D) (hD : ¬D <+: S) :
    ((∃ w', (moveTree source goal).on w = (.ok (), w')) ↔ Fits w.disk source goal S D) ∧
    (∀ w', (moveTree source goal).on w = (.ok (), w') → Moved S D w.disk w'.disk ∧ w'.warnings = w.warnings) ∧
    (∀ e w', (moveTree source goal).on w = (.error e, w') → Spared S D w.disk w'.disk ∧ w'.warnings = w.warnings) ∧
    (w.disk.find? D = none → Room w.disk source goal S D → ∃ w₁ w₂, (moveTree source goal).on w = (.ok (), w₁) ∧
      (do copyTree source goal; Run.tryChange (·.removeAll source)).on
        { w with disk := w.disk.insert D .directory } = (.ok (), w₂) ∧
      SameOn (fun _ => True) w₁.disk w₂.disk) := by
  obtain ⟨d, hcases⟩ := moveTree_cases hd hs hg hS hD
  refine ⟨?_, fun w' hw' => ?_, fun e w' hw' => ?_, fun hnone hroom => ?_⟩
  · rcases hcases with ⟨hfits, -, hon⟩ | ⟨hfits, -, e, hon⟩
    · exact iff_of_true ⟨_, hon⟩ hfits
    · refine iff_of_false ?_ hfits
      rintro ⟨w', hw'⟩
      rw [hon] at hw'
      cases hw'
  · rcases hcases with ⟨-, hmoved, hon⟩ | ⟨-, -, e, hon⟩
    · obtain ⟨-, rfl⟩ := Prod.mk.inj (hon.symm.trans hw')
      exact ⟨hmoved, rfl⟩
    · rw [hon] at hw'
      cases hw'
  · rcases hcases with ⟨-, -, hon⟩ | ⟨-, hspared, e, hon⟩
    · rw [hon] at hw'
      cases hw'
    · obtain ⟨-, rfl⟩ := Prod.mk.inj (hon.symm.trans hw')
      exact ⟨hspared, rfl⟩
  · exact moveTree_made hd hs hg hS hD hnone hroom

/-- A world with a tree `x`, a directory `y` with a link in it, a link to that directory, and a directory `z` with
which the tree does not agree. -/
def sampleTrees : World :=
  ⟨[(["x"], Entry.directory), (["x", "a"], .file "1".toUTF8), (["x", "e"], .directory), (["y"], .directory),
    (["y", "a"], .file "2".toUTF8), (["y", "b"], .file "3".toUTF8), (["y", "c"], .link ⟨["..", "f"]⟩),
    (["l"], .link ⟨["y"]⟩), (["z"], .directory), (["z", "a"], .directory)].foldl (fun d (q, e) => d.insert q e)
    ⟨∅, []⟩, []⟩

theorem movable_sample : Movable sampleTrees.disk ⟨["x"]⟩ ["x"] :=
  ⟨eq_ok_of_toOption (by decide +kernel), by decide +kernel, by decide +kernel,
    noLink_below (by simp) (by decide +kernel)⟩

/-- In the sample, the tree is moved over a link into a directory, it stays where it does not agree, and it is moved to
a name that is free. -/
theorem moveTree_outcome_sample :
    (∃ w', (moveTree ⟨["x"]⟩ ⟨["l"]⟩).on sampleTrees = (.ok (), w') ∧ Moved ["x"] ["y"] sampleTrees.disk w'.disk) ∧
    (∃ e w', (moveTree ⟨["x"]⟩ ⟨["z"]⟩).on sampleTrees = (.error e, w') ∧
      Spared ["x"] ["z"] sampleTrees.disk w'.disk) ∧
    ∃ w₁ w₂, (moveTree ⟨["x"]⟩ ⟨["n"]⟩).on sampleTrees = (.ok (), w₁) ∧
      (do copyTree ⟨["x"]⟩ ⟨["n"]⟩; Run.tryChange (·.removeAll ⟨["x"]⟩)).on
        { sampleTrees with disk := sampleTrees.disk.insert ["n"] .directory } = (.ok (), w₂) ∧
      SameOn (fun _ => True) w₁.disk w₂.disk := by
  have hd : sampleTrees.disk.IsNested := by decide +kernel
  refine ⟨?_, ?_, ?_⟩
  · have hok : ((moveTree ⟨["x"]⟩ ⟨["l"]⟩).on sampleTrees).1 = .ok () := eq_ok_of_toOption (by decide +kernel)
    have hgoal : Destination sampleTrees.disk ⟨["l"]⟩ ["x"] ["y"] :=
      .taken (eq_ok_of_toOption (by decide +kernel)) (noLink_beside (by simp) (by decide +kernel))
    obtain ⟨-, hmoved, -⟩ := moveTree_outcome hd movable_sample hgoal (by decide) (by decide)
    exact ⟨_, Prod.ext hok rfl, (hmoved _ (Prod.ext hok rfl)).1⟩
  · have hnone : ((moveTree ⟨["x"]⟩ ⟨["z"]⟩).on sampleTrees).1.toOption.isSome = false := by decide +kernel
    have hgoal : Destination sampleTrees.disk ⟨["z"]⟩ ["x"] ["z"] :=
      .taken (eq_ok_of_toOption (by decide +kernel)) (noLink_beside (by simp) (by decide +kernel))
    obtain ⟨-, -, hspared, -⟩ := moveTree_outcome hd movable_sample hgoal (by decide) (by decide)
    cases hfails : ((moveTree ⟨["x"]⟩ ⟨["z"]⟩).on sampleTrees).1 with
    | ok _ => rw [hfails] at hnone; cases hnone
    | error e => exact ⟨e, _, Prod.ext hfails rfl, (hspared e _ (Prod.ext hfails rfl)).1⟩
  · have hgoal : Destination sampleTrees.disk ⟨["n"]⟩ ["x"] ([] ++ ["n"]) :=
      .free (eq_ok_of_toOption (by decide +kernel)) (by decide +kernel) (by decide +kernel) (by decide)
        (by decide +kernel)
    have hall : ∀ m e, sampleTrees.disk.find? (["x"] ++ m) = some e → (called ⟨["x"]⟩ m).isLong = false ∧
        (beneath ⟨["n"]⟩ m).isLong = false ∧ missing (m.getLast?.getD "") = .notFound :=
      (forall_below_iff (P := fun m _ => (called ⟨["x"]⟩ m).isLong = false ∧
        (beneath ⟨["n"]⟩ m).isLong = false ∧ missing (m.getLast?.getD "") = .notFound) (by simp)).mpr
          (by decide +kernel)
    have hroom : Room sampleTrees.disk ⟨["x"]⟩ ⟨["n"]⟩ ["x"] ["n"] := by
      refine ⟨fun m hm => ?_, fun m e _ he _ => (hall m e he).2.2⟩
      obtain ⟨e, he⟩ := Option.isSome_iff_exists.mp hm
      exact ⟨(hall m e he).1, (hall m e he).2.1⟩
    obtain ⟨-, -, -, hsame⟩ := moveTree_outcome hd movable_sample hgoal (by decide) (by decide)
    exact hsame (by decide +kernel) hroom

/-! ## Where it turns out otherwise -/

/-- A world with a tree `x`, and a directory `y` in which there is a link at the name of a file in the tree. -/
def linkedTrees : World :=
  ⟨[(["x"], Entry.directory), (["x", "a"], .file "1".toUTF8), (["y"], .directory), (["y", "a"], .link ⟨["..", "f"]⟩),
    (["f"], .file "2".toUTF8)].foldl (fun d (q, e) => d.insert q e) ⟨∅, []⟩, []⟩

/-- A world with a tree `x` and an empty directory `y`. -/
def plainTrees : World :=
  ⟨[(["x"], Entry.directory), (["x", "a"], .file "1".toUTF8), (["y"], .directory)].foldl
    (fun d (q, e) => d.insert q e) ⟨∅, []⟩, []⟩

theorem isTree_plain : plainTrees.disk.IsTree := by decide +kernel

theorem movable_plain : Movable plainTrees.disk ⟨["x"]⟩ ["x"] :=
  ⟨eq_ok_of_toOption (by decide +kernel), by decide +kernel, by decide +kernel, fun _ => isTree_plain.noLink _⟩

theorem moveTree_dots : plainTrees.disk.look ((dots 2047).join ⟨["y"]⟩) = .ok (["y"], .directory) ∧
    ((moveTree ⟨["x"]⟩ ((dots 2047).join ⟨["y"]⟩)).on plainTrees).1 ≠ .ok () := by
  have hshort : ((dots 2047).join ⟨["y"]⟩).isLong = false :=
    (isLong_dots (continues_single "y")).trans (by decide +kernel)
  have hlook : plainTrees.disk.look ((dots 2047).join ⟨["y"]⟩) = .ok (["y"], .directory) := by
    have hfound := @lookFor_child _ .use isTree_plain _ (leads_dots rfl : plainTrees.disk.Leads (dots 2047)) "y"
      (by decide) hshort .directory
    rw [show plainTrees.disk.home = [] from rfl, place_dots] at hfound
    exact hfound (by decide +kernel)
  have hgoal : Destination plainTrees.disk ((dots 2047).join ⟨["y"]⟩) ["x"] ["y"] :=
    .taken hlook fun _ _ _ _ => isTree_plain.noLink _ _
  refine ⟨hlook, fun hok => ?_⟩
  obtain ⟨d, ⟨hfits, -⟩ | ⟨-, -, e, hon⟩⟩ :=
    moveTree_cases isTree_plain.nested movable_plain hgoal (by decide) (by decide)
  · -- the slash after the directory is too much
    have hslash := ((hfits.2 (by decide +kernel)).short [] (by decide +kernel)).2
    have hc : Continues ⟨["y", ""]⟩ := (descends_slash (by simp : ["y"] ≠ []) (by decide)).toContinues
    rw [beneath_nil, join_join (continues_single "y") (by simp) (continues_single ""), List.singleton_append,
      (isLong_dots hc).trans (by decide +kernel : _ = true)] at hslash
    cases hslash
  · rw [hon] at hok
    cases hok

theorem moveTree_dots_free : plainTrees.disk.hasAny ((dots 2048).join ⟨["n"]⟩) = false ∧
    ((moveTree ⟨["x"]⟩ ((dots 2048).join ⟨["n"]⟩)).on plainTrees).1 ≠ .ok () := by
  have hx : IsDiskName "x" := by decide
  have hn : IsDiskName "n" := by decide
  have hhome : plainTrees.disk.home = [] := rfl
  have hleads : ∀ k, plainTrees.disk.Leads (dots k) := fun k => leads_dots rfl
  have hnone : plainTrees.disk.find? ([] ++ ["n"]) = none := by decide +kernel
  have hlong : ((dots 2048).join ⟨["n"]⟩).isLong = true :=
    (isLong_dots (continues_single "n")).trans (by decide +kernel)
  have hany := hasAny_child isTree_plain (hleads 2048) hn
  rw [hlong] at hany
  have hrename := rename_child isTree_plain (hleads 0) (hleads 2048) hx hn
  rw [hhome, place_dots, place_dots, hlong, Bool.or_true, if_pos rfl] at hrename
  have hon : (Run.change (·.rename ⟨["x"]⟩ ((dots 2048).join ⟨["n"]⟩))).on plainTrees = _ :=
    change_on_error (hrename (by decide +kernel) hnone (by decide))
  refine ⟨hany, ?_⟩
  rw [moveTree_on, hany, if_neg (by simp), hon]
  simp

/-- A tree **is not moved as it would be merged**

* into a directory with a link at a name that is in the tree: what the link leads to is overwritten, and the link stays;
* by a path that ends in dots: it is copied, but neither removed nor given another name;
* by paths that are too long. -/
theorem moveTree_exceptions :
    (linkedTrees.disk.look ⟨["y"]⟩ = .ok (["y"], .directory) ∧ Movable linkedTrees.disk ⟨["x"]⟩ ["x"] ∧
      Agree linkedTrees.disk ["x"] ["y"] ∧ ((moveTree ⟨["x"]⟩ ⟨["y"]⟩).on linkedTrees).1 = .ok () ∧
      ((moveTree ⟨["x"]⟩ ⟨["y"]⟩).on linkedTrees).2.disk.find? ["y", "a"] ≠ linkedTrees.disk.find? ["x", "a"] ∧
      ((moveTree ⟨["x"]⟩ ⟨["y"]⟩).on linkedTrees).2.disk.find? ["f"] ≠ linkedTrees.disk.find? ["f"]) ∧
    (plainTrees.disk.IsTree ∧ Agree plainTrees.disk ["x"] ["y"] ∧
      plainTrees.disk.look ⟨["x", "."]⟩ = .ok (["x"], .directory) ∧ plainTrees.disk.hasAny ⟨["n"]⟩ = false ∧
      ((moveTree ⟨["x", "."]⟩ ⟨["n"]⟩).on plainTrees).1 ≠ .ok () ∧
      ((moveTree ⟨["x", "."]⟩ ⟨["y"]⟩).on plainTrees).1 ≠ .ok () ∧
      ((moveTree ⟨["x", "."]⟩ ⟨["y"]⟩).on plainTrees).2.disk.find? ["x", "a"] = none) ∧
    (plainTrees.disk.hasAny ⟨["n", "."]⟩ = false ∧ ((moveTree ⟨["x"]⟩ ⟨["n", "."]⟩).on plainTrees).1 ≠ .ok ()) ∧
    (plainTrees.disk.look ((dots 2047).join ⟨["y"]⟩) = .ok (["y"], .directory) ∧
      ((moveTree ⟨["x"]⟩ ((dots 2047).join ⟨["y"]⟩)).on plainTrees).1 ≠ .ok ()) ∧
    plainTrees.disk.hasAny ((dots 2048).join ⟨["n"]⟩) = false ∧
      ((moveTree ⟨["x"]⟩ ((dots 2048).join ⟨["n"]⟩)).on plainTrees).1 ≠ .ok () := by
  have hlinked : Movable linkedTrees.disk ⟨["x"]⟩ ["x"] :=
    ⟨eq_ok_of_toOption (by decide +kernel), by decide +kernel, by decide +kernel,
      noLink_below (by simp) (by decide +kernel)⟩
  refine ⟨⟨eq_ok_of_toOption (by decide +kernel), hlinked, agree_of_toList (by simp) (by decide +kernel),
      eq_ok_of_toOption (by decide +kernel), by decide +kernel, by decide +kernel⟩,
    ⟨isTree_plain, agree_of_toList (by simp) (by decide +kernel), eq_ok_of_toOption (by decide +kernel),
      by decide +kernel, ?_, ?_, by decide +kernel⟩, ⟨by decide +kernel, ?_⟩, moveTree_dots, moveTree_dots_free⟩
  all_goals exact ne_ok_of_toOption (by decide +kernel) _

end SiteGen.Run
