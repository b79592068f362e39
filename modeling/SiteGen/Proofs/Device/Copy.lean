import SiteGen.Proofs.Device.Variants
import SiteGen.Proofs.Disk.Make

/-!
# Copying the files of a device

The directory of a device may be there, or it may have to be made together with those above it.

* `Device.make`: making the directory of the configuration, which is the first thing that is done.
* `Device.copyAll_on_make`: copying the files is copying them after that.
* `Device.Copyable`, `Device.Assembled`: when the files can be copied, and what comes of it.
* `Device.copyAll_assembles`: copying succeeds just then, and this comes of it.
-/

namespace SiteGen

open Disk SiteGen.Path Run

namespace Device

variable {home : Place} {d : Disk} {device : Device} {library : Path}

/-! ## Making the directory of the configuration -/

/-- The disk on which the directory of the configuration **has been made**, as far as it can be. -/
def make (device : Device) (d : Disk) : Disk × Option Fault :=
  d.makeDirectories (device.config.join ⟨[""]⟩)

/-- Whether copying the files of a device **may make** something at a place: it is among the outputs of
the device, or missing on the way to it. -/
def Fresh (d : Disk) (base : Path) (q : Place) : Prop :=
  Outputs d.home base q ∨ Passes d.home base q ∧ d.find? q = none

/-- Whether the way to a device is **straight**: what is missing on it is above the device. -/
def Straight (d : Disk) (base : Path) : Prop :=
  ∀ q, Passes d.home base q → d.find? q = none → q <+: base.place d.home

instance (home : Place) (base : Path) (q : Place) : Decidable (Passes home base q) :=
  inferInstanceAs (Decidable (q ∈ _))

instance (home : Place) (base : Path) (q : Place) : Decidable (Outputs home base q) :=
  inferInstanceAs (Decidable (_ ∨ _))

instance (d : Disk) (base : Path) (q : Place) : Decidable (Fresh d base q) :=
  inferInstanceAs (Decidable (_ ∨ _))

instance (d : Disk) (base : Path) : Decidable (Straight d base) :=
  decidable_of_iff (∀ q ∈ passed (base.start d.home) base.segments, d.find? q = none →
    q <+: base.place d.home) Iff.rfl

variable {base : Path}

theorem config_slash (device : Device) :
    device.config.join ⟨[""]⟩ = device.directory.join ⟨[configName, ""]⟩ :=
  join_join (continues_single configName) (by simp [configName]) (continues_single "")

theorem descends_config : Descends ⟨[configName, ""]⟩ :=
  @descends_slash [configName] (by simp) (by simpa using isDiskName_config.toIsPlainName)

theorem passed_config (place : Place) : passed place [configName, ""] = [place ++ [configName]] := by
  rw [passed, if_neg (by decide), if_neg (by decide), passed_idle (by simp [isIdle])]

theorem passes_config {q : Place} :
    Passes home (device.config.join ⟨[""]⟩) q ↔
      Passes home device.directory q ∨ q = device.directory.place home ++ [configName] := by
  rw [config_slash, Passes, passed_join home descends_config.toContinues, passed_config,
    List.mem_append, List.mem_singleton]
  exact Iff.rfl

theorem not_outputs_place : ¬Outputs home base (base.place home) := by
  rintro (h | h) <;>
  · have := h.length_le
    simp at this

theorem away_of_straight (hstraight : Straight d base)
    (hgone : ∀ x, Outputs d.home base x → d.find? x = none) : Away d.home base := by
  intro x hx hout
  rcases List.mem_cons.mp hx with rfl | hx
  · exact not_outputs_place hout
  · have habove := (hstraight x hx (hgone x hout)).length_le
    rcases hout with hunder | hunder <;>
    · have := hunder.length_le
      simp only [List.length_append, List.length_singleton] at this
      omega

theorem gone_of_none (ht : d.IsTree) (hconfig : d.find? (base.place home ++ [configName]) = none)
    (htests : d.find? (base.place home ++ [testsName]) = none) :
    ∀ x, Outputs home base x → d.find? x = none := by
  rintro x (hx | hx)
  · exact ht.find?_none hconfig hx
  · exact ht.find?_none htests hx

section Make

variable (ht : d.IsTree) (hhome : d.find? d.home = some .directory)
  (hslash : ∀ s ∈ device.directory.segments, '/' ∉ s.toList) (hmake : (device.make d).2 = none)

include ht hhome hslash hmake

theorem stands_make :
    Stands d.home device.directory (device.make d).1 ∧
      (device.make d).1.find? (device.directory.place d.home ++ [configName]) = some .directory ∧
      Grows (fun q => Passes d.home device.directory q ∨
        q = device.directory.place d.home ++ [configName]) d (device.make d).1 := by
  obtain ⟨l, hl, hp⟩ := segments_join (p := device.directory) descends_config.toContinues
  obtain ⟨htree, hgrows, hleads⟩ := @makeDirectories_grows d (device.config.join ⟨[""]⟩) ht hhome
    (fun s hs => by
      rw [config_slash, hl, List.mem_append] at hs
      rcases hs with hs | hs
      · exact hslash s (by rcases hp with hp | hp <;> rw [hp] <;> simp [hs])
      · exact descends_config.noSlash s hs)
    (by rw [config_slash, isEmpty, hl]; simp [List.append_eq_singleton_iff, configName])
  have hsteps : (Path.mk [configName, ""]).steps = [configName] := by decide
  have hleads' : (device.make d).1.Leads (device.directory.join ⟨[configName, ""]⟩) := by
    rw [← config_slash]
    exact hleads hmake
  have hplace := hleads'.place
  rw [place_down _ descends_config, hsteps] at hplace
  exact ⟨⟨htree, hgrows.home, hleads'.of_join htree descends_config⟩, hgrows.home ▸ hplace,
    hgrows.mono fun q => passes_config.mp⟩

theorem sameOn_make : SameOn (fun q => ¬Fresh d device.directory q) (device.make d).1 d := by
  obtain ⟨-, -, hgrows⟩ := stands_make ht hhome hslash hmake
  refine ⟨hgrows.home, fun q hq => ?_⟩
  rcases hgrows.find? q with h | ⟨hpasses | rfl, hnone, -⟩
  · exact h
  · exact absurd (Or.inr ⟨hpasses, hnone⟩) hq
  · exact absurd (Or.inl (Or.inl (List.prefix_refl _))) hq

theorem bare_make (haway : Away d.home device.directory)
    (hgone : ∀ x, Outputs d.home device.directory x → d.find? x = none) :
    Bare d.home device.directory (device.make d).1 := by
  obtain ⟨-, hconfig, hgrows⟩ := stands_make ht hhome hslash hmake
  have hstill : ∀ x, Outputs d.home device.directory x →
      x ≠ device.directory.place d.home ++ [configName] → (device.make d).1.find? x = none := by
    intro x hx hne
    rcases hgrows.find? x with h | ⟨hpasses | rfl, -, -⟩
    · rw [h, hgone x hx]
    · exact absurd hx (haway x (List.mem_cons_of_mem _ hpasses))
    · exact absurd rfl hne
  refine ⟨Or.inr hconfig, fun m hne => hstill _ (Or.inl ⟨m, by simp⟩) ?_,
    fun m => hstill _ (Or.inr ⟨m, by simp⟩) ?_⟩
  · intro h
    exact hne (List.cons.inj (List.append_cancel_left h)).2
  · intro h
    exact absurd (List.cons.inj (List.append_cancel_left h)).1 (by decide)

theorem none_of_absent (hstraight : Straight d device.directory) {name : String} (hn : IsDiskName name)
    (hlong : (device.directory.join ⟨[name]⟩).isLong = false)
    (habsent : d.hasAny (device.directory.join ⟨[name]⟩) = false) :
    d.find? (device.directory.place d.home ++ [name]) = none := by
  obtain ⟨hstands, -, hgrows⟩ := stands_make ht hhome hslash hmake
  by_contra hsome
  have hsome' := Option.isSome_iff_ne_none.mpr hsome
  have hplace : d.find? (device.directory.place d.home) = some .directory := ht.parent _ _ hsome'
  have hleads : d.Leads device.directory := by
    refine ⟨hstands.leads.noNull, fun x hx => ?_⟩
    have hmade := hstands.leads.onTrail x (by rwa [hstands.home_eq])
    rcases hgrows.find? x with h | ⟨-, hnone, -⟩
    · rw [← h, hmade]
    · -- whatever is missing is above the device, which is there
      rcases List.mem_cons.mp hx with rfl | hx
      · exact hplace
      · rw [ht.find?_none hnone (hstraight x hx hnone)] at hplace
        cases hplace
  rw [hasAny_child ht hleads hn, hsome', hlong] at habsent
  cases habsent

end Make

/-- Whether two paths lead **beside each other**: neither leads to where the other one does, or below. -/
def Beside (home : Place) (p q : Path) : Prop :=
  ¬p.place home <+: q.place home ∧ ¬q.place home <+: p.place home

instance (home : Place) (p q : Path) : Decidable (Beside home p q) :=
  inferInstanceAs (Decidable (_ ∧ _))

theorem Beside.not_outputs {p : Path} (h : Beside home p base) {x : Place} (hx : p.place home <+: x) :
    ¬Outputs home base x := by
  intro hout
  have hbelow : base.place home <+: x := by
    rcases hout with h | h
    · exact (List.prefix_append _ _).trans h
    · exact (List.prefix_append _ _).trans h
  exact (List.prefix_or_prefix_of_prefix hx hbelow).elim h.1 h.2

theorem Beside.source {p : Path} (h : Beside home p base)
    (htrail : ∀ x ∈ p.trail home, ¬Outputs home base x) : Source (own home base) home base p :=
  ⟨fun _ _ => trivial, fun _ x hx => hx.elim (htrail x) h.not_outputs⟩

theorem Beside.not_fresh {p : Path} (h : Beside d.home p base) (hstraight : Straight d base)
    (htrail : ∀ x ∈ p.trail d.home, ¬Fresh d base x) {x : Place} (hx : Seen d.home p x) :
    ¬Fresh d base x := by
  rcases hx with hx | hx
  · exact htrail x hx
  · rintro (hout | ⟨hpasses, hnone⟩)
    · exact h.not_outputs hx hout
    · exact h.1 (hx.trans (hstraight x hpasses hnone))

theorem not_fresh_of_leads {p : Path} (h : d.Leads p)
    (hgone : ∀ x, Outputs d.home base x → d.find? x = none) :
    ∀ x ∈ p.trail d.home, ¬Fresh d base x := by
  rintro x hx (hout | ⟨-, hnone⟩)
  · have := h.onTrail x hx
    rw [hgone x hout] at this
    cases this
  · have := h.onTrail x hx
    rw [hnone] at this
    cases this

/-- Whether the files of a device **can be copied**: both variants are there, the directory of the
configuration can be made, there is room for the root variant, the chosen one can be laid over it, and no path by
which its files are read or written is too long. -/
structure Copyable (d : Disk) (device : Device) (library : Path) : Prop where
  root : d.hasDirectory (device.rootDirectory library) = true
  variant : d.hasDirectory (device.variantDirectory library) = true
  make : (device.make d).2 = none
  room : HasRoomFor d (device.rootDirectory library) device.config ((device.rootDirectory library).place d.home)
  lies : LiesOver d ((device.variantDirectory library).place d.home) ((device.rootDirectory library).place d.home)
  short : device.variant ≠ rootVariant →
    ShortParts d device (device.variantDirectory library) ((device.variantDirectory library).place d.home)

/-- What holds when the files of a device **have been copied**: it is filled with those of the chosen
variant over those of the root variant; no directory in the configuration is called like the tests; no
tests are there if neither variant has any; and nothing else is new. -/
structure Assembled (d₀ : Disk) (device : Device) (library : Path) (d : Disk) : Prop where
  filled : Filled (overlay d₀ ((device.variantDirectory library).place d₀.home)
    ((device.rootDirectory library).place d₀.home)) d₀.home device.directory d
  noTests : d.find? (device.directory.place d₀.home ++ [configName, testsName]) ≠ some .directory
  absent : d₀.find? ((device.rootDirectory library).place d₀.home ++ [testsName]) ≠ some .directory →
    d₀.find? ((device.variantDirectory library).place d₀.home ++ [testsName]) ≠ some .directory →
    ∀ m, d.find? (device.directory.place d₀.home ++ testsName :: m) = none
  frame : SameOn (fun q => ¬Fresh d₀ device.directory q) d d₀

theorem overlay_noTests (d : Disk) (variant root : Place) :
    overlay d variant root [configName, testsName] ≠ some .directory := by
  have hpart : ∀ place : Place, configOf d place [testsName] ≠ some .directory := fun place => by
    rw [configOf]
    split
    · simp
    · next h => simpa using h
  rw [overlay, picture_config, picture_config, ne_eq, Option.or_eq_some_iff, not_or]
  exact ⟨hpart _, fun h => hpart _ h.2⟩

theorem assembled_of_filled {d₀ : Disk}
    (h : Filled (overlay d₀ ((device.variantDirectory library).place d₀.home)
      ((device.rootDirectory library).place d₀.home)) d₀.home device.directory d)
    (hframe : SameOn (fun q => ¬Fresh d₀ device.directory q) d d₀) : Assembled d₀ device library d := by
  refine ⟨h, ?_, fun hroot hvariant m => ?_, hframe⟩
  · rw [h configName (by simp) [testsName]]
    exact overlay_noTests _ _ _
  · rw [h testsName (by simp) m, overlay, picture_tests, picture_tests, testsOf, testsOf, if_neg hroot,
      if_neg hvariant]
    rfl

theorem copyAll_of_copyRoot {w : World} {e : Error} (h : ((device.copyRoot library).on w).1 = .error e) :
    ((device.copyAll library).on w).1 = .error e := by
  rcases hon : (device.copyRoot library).on w with ⟨r, w'⟩
  rw [hon] at h
  obtain rfl : r = .error e := h
  rw [copyAll, bind_of_error hon]

theorem copyAll_fails {w : World} (hd : w.disk.Linkless)
    (h : w.disk.hasDirectory (device.rootDirectory library) = true → (device.make w.disk).2 ≠ none) :
    ((device.copyAll library).on w).1 ≠ .ok () := by
  have hfails : ∃ e, ((device.copyRoot library).on w).1 = .error e := by
    unfold copyRoot
    rw [bind_of_ok (inspect_on _ _)]
    cases hr : w.disk.hasDirectory (device.rootDirectory library) with
    | false =>
      rw [if_pos (by rw [← rootDirectory, hr]; rfl)]
      exact ⟨_, rfl⟩
    | true =>
      obtain ⟨hleads, haccepted⟩ := leads_of_hasDirectory hd hr
      obtain ⟨fault, hfault⟩ := Option.ne_none_iff_exists'.mp (h hr)
      have hcopy := copyTree_unmade hleads haccepted hfault
      rw [if_neg (by rw [← rootDirectory, hr]; simp)]
      exact ⟨_, congrArg Prod.fst (bind_of_error hcopy)⟩
  obtain ⟨e, he⟩ := hfails
  rw [copyAll_of_copyRoot he]
  simp

section Copy

variable {w : World} (ht : w.disk.IsTree) (hhome : w.disk.find? w.disk.home = some .directory)
  (hslash : ∀ s ∈ device.directory.segments, '/' ∉ s.toList)
  (hmake : (device.make w.disk).2 = none) (hstraight : Straight w.disk device.directory)
  (hgone : ∀ x, Outputs w.disk.home device.directory x → w.disk.find? x = none)
  (hroot : Beside w.disk.home (device.rootDirectory library) device.directory)
  (hleads : w.disk.Leads (device.rootDirectory library))
  (haccepted : (device.rootDirectory library).Accepted)

include ht hhome hslash hmake hstraight hgone hroot hleads haccepted

/-- Copying all files is copying them **after the directory of the configuration has been made**. -/
theorem copyAll_on_make :
    (device.copyAll library).on w =
      (device.copyAll library).on { w with disk := (device.make w.disk).1 } := by
  obtain ⟨hstands, hconfig, -⟩ := stands_make ht hhome hslash hmake
  have htrail := not_fresh_of_leads hleads hgone
  have hsame : SameOn (Seen w.disk.home (device.rootDirectory library)) (device.make w.disk).1 w.disk :=
    (sameOn_make ht hhome hslash hmake).mono fun _ hx => hroot.not_fresh hstraight htrail hx
  have hleads₁ := hsame.symm.leads (fun _ hx => Or.inl hx) hleads
  have hapart := (hroot.source fun x hx hout => htrail x hx (Or.inl hout)).apart trivial haccepted
    fun _ hx => Or.inl hx
  have hcopy := copyTree_on_made (goal_config device) hapart ht rfl hleads
    (show device.make w.disk = ((device.make w.disk).1, none) from Prod.ext rfl hmake) hstands
    (by rw [place_config]; exact hconfig) hsame
  have hdir : ∀ d : Disk, d.Leads (device.rootDirectory library) →
      d.hasDirectory (device.rootDirectory library) = true := fun d hd => by
    rw [hasDirectory, look, lookFor_of_leads hd haccepted]
    rfl
  refine bind_on_eq ?_
  unfold copyRoot
  rw [bind_of_ok (inspect_on _ w), bind_of_ok (inspect_on _ { w with disk := (device.make w.disk).1 }),
    ← rootDirectory, hdir _ hleads, hdir _ hleads₁, if_neg (by simp)]
  exact bind_on_eq hcopy

omit hleads haccepted in
/-- Copying all files of a device that can be made: whether it succeeds, and what comes of it. -/
theorem copyAll_of_make (hrootDir : w.disk.hasDirectory (device.rootDirectory library) = true)
    (hvariant : Beside w.disk.home (device.variantDirectory library) device.directory)
    (hway : ∀ x ∈ (device.variantDirectory library).trail w.disk.home,
      ¬Fresh w.disk device.directory x) :
    (((device.copyAll library).on w).1 = .ok () ↔ Copyable w.disk device library) ∧
    (((device.copyAll library).on w).1 = .ok () →
      Assembled w.disk device library ((device.copyAll library).on w).2.disk) := by
  obtain ⟨hleads, haccepted⟩ := leads_of_hasDirectory ht.noLink hrootDir
  obtain ⟨hstands, hconfig, -⟩ := stands_make ht hhome hslash hmake
  have haway := away_of_straight hstraight hgone
  have hbare := bare_make ht hhome hslash hmake haway hgone
  have hmade := sameOn_make ht hhome hslash hmake
  have htrail := not_fresh_of_leads hleads hgone
  have hout : ∀ x ∈ (device.variantDirectory library).trail w.disk.home,
      ¬Outputs w.disk.home device.directory x := fun x hx h => hway x hx (Or.inl h)
  -- making the directory of the configuration changes nothing that the variants see
  have hseesRoot : SameOn (Seen w.disk.home (device.rootDirectory library)) (device.make w.disk).1
      w.disk := hmade.mono fun _ hx => hroot.not_fresh hstraight htrail hx
  have hseesVariant : SameOn (Seen w.disk.home (device.variantDirectory library))
      (device.make w.disk).1 w.disk := hmade.mono fun _ hx => hvariant.not_fresh hstraight hway hx
  have hrootDir' := (hasDirectory_of_seen hstands.tree.noLink hseesRoot).trans hrootDir
  have hsource := hvariant.source hout
  have hsourceRoot := hroot.source fun x hx h => htrail x hx (Or.inl h)
  have hiff := @copyAll_iff _ _ _ library hstands hbare haway hsourceRoot hconfig hrootDir' hout
    (fun _ => hsource) { w with disk := (device.make w.disk).1 } rfl
  rw [copyAll_on_make ht hhome hslash hmake hstraight hgone hroot hleads haccepted]
  constructor
  · rw [hiff, hasDirectory_of_seen hstands.tree.noLink hseesVariant, hasRoomFor_congr (find?_of_seen hseesRoot),
      liesOver_congr (find?_of_seen hseesVariant) (find?_of_seen hseesRoot),
      shortParts_congr (find?_of_seen hseesVariant)]
    exact ⟨fun ⟨hv, hroom, hover, hshort⟩ => ⟨hrootDir, hv, hmake, hroom, hover, hshort⟩,
      fun h => ⟨h.variant, h.room, h.lies, h.short⟩⟩
  · intro hok
    have hfills := copyAll_fills hstands hbare haway hsourceRoot hsource
    rcases hon : (device.copyAll library).on { w with disk := (device.make w.disk).1 } with ⟨r, w'⟩
    rw [hon] at hok
    obtain rfl : r = .ok () := hok
    obtain ⟨hfilling, hfilled, -⟩ := hfills _ _ _ rfl hon
    rw [overlay_congr (find?_of_seen hseesVariant) (find?_of_seen hseesRoot)] at hfilled
    exact assembled_of_filled hfilled ((hfilling.same.mono fun q hq h => hq (Or.inl h)).trans hmade)

end Copy

/-- **Copying all files** of a device of which nothing is there, from variants that lead beside it: it
succeeds just if the files can be copied, and then they are those of the chosen variant over those of the
root variant. -/
theorem copyAll_assembles {w : World} {text : String} (hdevice : device.directory = Path.ofText text)
    (ht : w.disk.IsTree) (hhome : w.disk.find? w.disk.home = some .directory)
    (hconfig : w.disk.hasAny device.config = false) (htests : w.disk.hasAny device.tests = false)
    (hstraight : Straight w.disk device.directory)
    (hroot : Beside w.disk.home (device.rootDirectory library) device.directory)
    (hvariant : Beside w.disk.home (device.variantDirectory library) device.directory)
    (hway : ∀ x ∈ (device.variantDirectory library).trail w.disk.home,
      ¬Fresh w.disk device.directory x) :
    (((device.copyAll library).on w).1 = .ok () ↔ Copyable w.disk device library) ∧
    (((device.copyAll library).on w).1 = .ok () →
      Assembled w.disk device library ((device.copyAll library).on w).2.disk) := by
  by_cases h : w.disk.hasDirectory (device.rootDirectory library) = true ∧ (device.make w.disk).2 = none
  · have hslash : ∀ s ∈ device.directory.segments, '/' ∉ s.toList := fun s hs =>
      no_slash_of_mem_ofText (hdevice ▸ hs)
    have absent := fun name => @none_of_absent _ device ht hhome hslash h.2 hstraight name
    have hlong : device.config.isLong = false := isLong_config_slash (not_long_of_makeDirectories h.2)
    have hgone := gone_of_none ht (absent _ isDiskName_config hlong hconfig)
      (absent _ isDiskName_tests (isLong_tests hlong) htests)
    exact copyAll_of_make ht hhome hslash h.2 hstraight hgone hroot h.1 hvariant hway
  · have hfails := @copyAll_fails device library w ht.noLink fun hr hm => h ⟨hr, hm⟩
    exact ⟨iff_of_false hfails fun hc => h ⟨hc.root, hc.make⟩, fun hok => absurd hok hfails⟩

/-- A world with two variants of a kind of device: the other one, which is not among the variants, has
the file of the root variant and tests. -/
def sampleWorld : World :=
  ⟨[(["k_variants"], Entry.directory), (["k_variants", "root"], .directory),
    (["k_variants", "root", "a"], .file "1".toUTF8), (["v"], .directory), (["v", "a"], .file "2".toUTF8),
    (["v", "tests"], .directory)].foldl (fun d (q, e) => d.insert q e) ⟨∅, []⟩, []⟩

/-- A device of that kind, in a site that is not there. -/
def sample : Device := ⟨"k", "../v", Path.ofText "s/k"⟩

theorem copyAll_assembles_sample :
    ((sample.copyAll (Path.ofText ".")).on sampleWorld).1 = .ok () ∧
    Copyable sampleWorld.disk sample (Path.ofText ".") ∧
    Assembled sampleWorld.disk sample (Path.ofText ".")
      ((sample.copyAll (Path.ofText ".")).on sampleWorld).2.disk := by
  have hok : ((sample.copyAll (Path.ofText ".")).on sampleWorld).1 = .ok () :=
    eq_ok_of_toOption (by decide +kernel)
  obtain ⟨hiff, hassembled⟩ := @copyAll_assembles sample (Path.ofText ".") sampleWorld "s/k" rfl
    (by decide +kernel) (by decide +kernel) (by decide +kernel) (by decide +kernel) (by decide +kernel)
    (by decide +kernel) (by decide +kernel) (by decide +kernel)
  exact ⟨hok, hiff.mp hok, hassembled hok⟩

/-- Whether nothing is a directory in one variant and a file in the other one. -/
def Agree (d : Disk) (variant root : Place) : Prop :=
  ∀ m e old, picture d variant m = some e → picture d root m = some old →
    e.isDirectory = old.isDirectory

theorem Agree.refl (d : Disk) (root : Place) : Agree d root root := fun m e old h h' => by
  rw [Option.some.inj (h.symm.trans h')]

/-- A device to which the way is blocked by a file. -/
def blocked : Device := ⟨"k", rootVariant, Path.ofText "v/a/k"⟩

/-- A device with a variant that is found only by way of its configuration. -/
def detour : Device := ⟨"k", "/s/config/../../v", Path.ofText "s"⟩

/-- A device in the place of the root variant. -/
def inside : Device := ⟨"k", "../v", Path.ofText "k_variants/root"⟩

/-- A device to which the way goes through something missing in the root variant. -/
def roundabout : Device := ⟨"k", rootVariant, Path.ofText "k_variants/root/n/../../../s"⟩

/-- A device whose path has many dots at the beginning. -/
def dotted (n : Nat) : Device := ⟨"k", rootVariant, (dots n).join ⟨["s"]⟩⟩

variable {n : Nat}

theorem place_dotted : (dotted n).directory.place [] = ["s"] :=
  (place_child [] (by decide : IsPlainName "s")).trans (by rw [place_dots, List.nil_append])

theorem passed_dotted :
    passed ((dotted n).directory.start []) (dotted n).directory.segments = [["s"]] := by
  refine (passed_join [] (continues_single "s")).trans ?_
  rw [place_dots, start_dots, dots, passed_idle (by simp [isIdle])]
  decide

theorem make_dotted (hn : n ≤ 2043) : ((dotted n).make sampleWorld.disk).2 = none := by
  have hnames : ∀ m ∈ ["s", configName], IsDiskName m := by decide
  have hgoal : IsGoal (dots n) ["s", configName] ((dots n).join ⟨["s", configName] ++ [""]⟩) :=
    ⟨by simp, hnames, Or.inr rfl⟩
  have hslash : Descends ⟨["s", configName] ++ [""]⟩ := descends_slash (by simp) hgoal.plain
  have heq : (dotted n).config.join ⟨[""]⟩ = (dots n).join ⟨["s", configName] ++ [""]⟩ := by
    rw [config_slash]
    exact join_join (continues_single "s") (by simp) descends_config.toContinues
  have hsize : (Path.mk (["s", configName] ++ [""])).text.utf8ByteSize = 9 := by decide +kernel
  have hshort : ((dots n).join ⟨["s", configName] ++ [""]⟩).isLong = false := by
    refine (isLong_dots hslash.toContinues).trans (decide_eq_false ?_)
    change ¬pathLimit < 2 * n + (Path.mk (["s", configName] ++ [""])).text.utf8ByteSize
    rw [hsize, pathLimit]
    omega
  rw [make, heq, makeDirectories_join (by decide +kernel) (leads_dots rfl) hgoal, hshort,
    if_neg Bool.false_ne_true, show sampleWorld.disk.home = [] from rfl, place_dots]
  decide +kernel

theorem isLong_dotted (hn : 2043 ≤ n) : ((dotted n).config.join ⟨["a"]⟩).isLong = true := by
  have hnames : ∀ m ∈ ["s", configName, "a"], IsPlainName m := by decide
  have heq : (dotted n).config.join ⟨["a"]⟩ = (dots n).join ⟨["s", configName, "a"]⟩ := by
    rw [join_part]
    exact join_join (continues_single "s") (by simp) (continues_names (by simp) (by decide))
  have hsize : (Path.mk ["s", configName, "a"]).text.utf8ByteSize = 10 := by decide +kernel
  rw [heq, isLong_dots (continues_names (by simp) hnames), hsize, decide_eq_true_eq, pathLimit]
  omega

theorem hasAny_dotted (name : String) :
    sampleWorld.disk.hasAny ((dotted n).directory.join ⟨[name]⟩) = false := by
  have ht : sampleWorld.disk.IsTree := by decide +kernel
  refine hasAny_of_missing ht.noLink (x := ["s"]) ?_ (by decide +kernel)
  rw [passed_join _ (continues_single name), List.mem_append]
  refine Or.inl ?_
  rw [show sampleWorld.disk.home = [] from rfl, passed_dotted]
  simp

theorem beside_dotted {p : Path} (h : Beside [] p ⟨["s"]⟩) : Beside [] p (dotted n).directory := by
  rwa [Beside, place_dotted]

/-- The root variant in the sample. -/
def sampleRoot : Path := ⟨[".", "k_variants", "root"]⟩

theorem rootDirectory_dotted : (dotted n).rootDirectory (Path.ofText ".") = sampleRoot := by
  have hlibrary : variantsDirectory (Path.ofText ".") "k" = ⟨[".", "k_variants"]⟩ := by decide
  rw [rootDirectory, dotted, hlibrary]
  decide

theorem variantDirectory_dotted : (dotted n).variantDirectory (Path.ofText ".") = sampleRoot := by
  rw [variantDirectory_root rfl, rootDirectory_dotted]

theorem copyAll_dotted (hn : 2043 ≤ n) :
    (((dotted n).copyAll (Path.ofText ".")).on sampleWorld).1 ≠ .ok () := by
  have ht : sampleWorld.disk.IsTree := by decide +kernel
  have hroot : sampleWorld.disk.hasDirectory sampleRoot = true := by decide +kernel
  by_cases hmake : ((dotted n).make sampleWorld.disk).2 = none
  · have hleads := (leads_of_hasDirectory ht.noLink hroot).1
    have hnone : ∀ name, sampleWorld.disk.find? (["s"] ++ [name]) = none := fun name => by
      by_contra hsome
      have := ht.parent ["s"] name (Option.isSome_iff_ne_none.mpr hsome)
      exact absurd this (by decide +kernel)
    have hgone := @gone_of_none [] sampleWorld.disk (dotted n).directory ht
      (by rw [place_dotted, hnone]) (by rw [place_dotted, hnone])
    have hbeside : Beside [] sampleRoot (dotted n).directory := beside_dotted (by decide +kernel)
    have hslash : ∀ s ∈ (dotted n).directory.segments, '/' ∉ s.toList := fun s hs => by
      rw [dotted, join_dots _ (continues_single "s"), List.mem_append] at hs
      rcases hs with hs | hs
      · rw [(List.mem_replicate.mp hs).2]
        decide
      · rw [List.mem_singleton.mp hs]
        decide
    have hstraight : Straight sampleWorld.disk (dotted n).directory := fun q hq _ => by
      change q ∈ passed ((dotted n).directory.start []) _ at hq
      change q <+: (dotted n).directory.place []
      rw [passed_dotted] at hq
      rw [place_dotted]
      exact List.mem_singleton.mp hq ▸ List.prefix_refl _
    obtain ⟨hiff, -⟩ := @copyAll_of_make (dotted n) (Path.ofText ".") sampleWorld ht (by decide +kernel)
      hslash hmake hstraight hgone (rootDirectory_dotted ▸ hbeside) (rootDirectory_dotted ▸ hroot)
      (variantDirectory_dotted ▸ hbeside) (variantDirectory_dotted ▸ not_fresh_of_leads hleads hgone)
    intro hok
    have hroom := (hiff.mp hok).room
    rw [rootDirectory_dotted] at hroom
    obtain ⟨-, hshort⟩ := hroom.short ["a"] (by decide +kernel)
    rw [beneath_of_ne (by simp), isLong_dotted hn] at hshort
    cases hshort
  · exact copyAll_fails ht.noLink fun _ => hmake

/-- **What cannot be left out** of the assumptions about a device. Nothing may be in the way to it, and no
path may be too long, though both variants are there and agree; the way to the chosen variant must be
there before; the root variant must not be changed by what is made, be it the device itself or something
on the way to it. -/
theorem copyAll_exceptions :
    (sampleWorld.disk.IsTree ∧ ∀ device ∈ [blocked, detour, inside, roundabout],
      sampleWorld.disk.hasAny device.config = false ∧ sampleWorld.disk.hasAny device.tests = false ∧
      Beside [] (device.variantDirectory (Path.ofText ".")) device.directory) ∧
    (sampleWorld.disk.hasDirectory (blocked.rootDirectory (Path.ofText ".")) = true ∧
      sampleWorld.disk.hasDirectory (blocked.variantDirectory (Path.ofText ".")) = true ∧
      Agree sampleWorld.disk ((blocked.variantDirectory (Path.ofText ".")).place [])
        ((blocked.rootDirectory (Path.ofText ".")).place []) ∧
      ((blocked.copyAll (Path.ofText ".")).on sampleWorld).1 ≠ .ok ()) ∧
    (sampleWorld.disk.hasAny (dotted 2043).config = false ∧
      sampleWorld.disk.hasAny (dotted 2043).tests = false ∧
      Beside [] ((dotted 2043).variantDirectory (Path.ofText ".")) (dotted 2043).directory ∧
      ((dotted 2043).make sampleWorld.disk).2 = none ∧
      sampleWorld.disk.hasDirectory ((dotted 2043).rootDirectory (Path.ofText ".")) = true ∧
      (((dotted 2043).copyAll (Path.ofText ".")).on sampleWorld).1 ≠ .ok ()) ∧
    (sampleWorld.disk.hasDirectory (detour.variantDirectory (Path.ofText ".")) = false ∧
      ((detour.copyAll (Path.ofText ".")).on sampleWorld).1 = .ok ()) ∧
    (((inside.copyAll (Path.ofText ".")).on sampleWorld).1 = .ok () ∧
      ((inside.copyAll (Path.ofText ".")).on sampleWorld).2.disk.find? ["k_variants", "root", "config"] ≠
        sampleWorld.disk.find? ["k_variants", "root", "config"]) ∧
    ((roundabout.copyAll (Path.ofText ".")).on sampleWorld).1 = .ok () ∧
      ((roundabout.copyAll (Path.ofText ".")).on sampleWorld).2.disk.find? ["k_variants", "root", "n"] ≠
        sampleWorld.disk.find? ["k_variants", "root", "n"] := by
  refine ⟨by decide +kernel, ⟨by decide +kernel, by decide +kernel, Agree.refl _ _, fun h => ?_⟩,
    ⟨hasAny_dotted _, hasAny_dotted _, ?_, make_dotted (le_refl _), ?_, copyAll_dotted (le_refl _)⟩,
    ⟨by decide +kernel, eq_ok_of_toOption (by decide +kernel)⟩,
    ⟨eq_ok_of_toOption (by decide +kernel), by decide +kernel⟩,
    eq_ok_of_toOption (by decide +kernel), by decide +kernel⟩
  · have hnone : ((blocked.copyAll (Path.ofText ".")).on sampleWorld).1.toOption.isSome = false := by
      decide +kernel
    rw [h] at hnone
    cases hnone
  · rw [variantDirectory_dotted]
    exact beside_dotted (by decide +kernel)
  · rw [rootDirectory_dotted]
    decide +kernel

end Device

end SiteGen
