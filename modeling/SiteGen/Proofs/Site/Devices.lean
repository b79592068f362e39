import SiteGen.Proofs.Template.Expand
import SiteGen.Site

/-!
# The devices of a site

* `Site.directory_eq`: the directory of a site is below the root of the workspace.
* `Site.chooseVariant_confined`: choosing a variant only looks at the library.
* `Site.supply`, `Site.settle`: what making a device anew does after clearing it.
* `Site.DeviceScope`, `Site.processDevice_confined`: making a device anew is confined to its outputs.
* `Site.processEach_confined`: making all devices anew is confined to the outputs of all.
-/

namespace SiteGen

open Disk SiteGen.Path Run Device

theorem isDiskName_sites : IsDiskName "config" := isDiskName_config

theorem isPlainName_variants {kind : String} (h : IsPlainName kind) :
    IsPlainName (kind ++ "_variants") := by
  have hlong : ∀ s : String, s.length < 9 → kind ++ "_variants" ≠ s := by
    rintro s hs rfl
    rw [String.length_append, show "_variants".length = 9 from rfl] at hs
    omega
  refine ⟨hlong _ (by decide), hlong _ (by decide), hlong _ (by decide), ?_⟩
  rw [String.toList_append, List.mem_append, not_or]
  exact ⟨h.no_slash, by decide⟩

theorem variants_ne_sites (kind : String) : kind ++ "_variants" ≠ "config" := by
  intro h
  have := congrArg String.length h
  rw [String.length_append, show "_variants".length = 9 from rfl,
    show "config".length = 6 from rfl] at this
  omega

namespace Site

variable {S : Scope} {home : Place} {s : Site} {o : Override}

/-! ## Paths of a site -/

/-- The directory of a device of a site. -/
def deviceDirectory (s : Site) (kind : String) : Path := s.directory.join (Path.ofText kind)

theorem directory_eq (h : IsPlainName s.name) :
    s.directory = s.workspace.root.join ⟨["config", s.name]⟩ := by
  rw [directory, h.ofText, Workspace.sites]
  exact join_join (continues_single "config") (by simp) (continues_single s.name)

theorem descends_directory (h : IsPlainName s.name) : Descends ⟨["config", s.name]⟩ :=
  descends_names (by simp) (by simpa using ⟨isDiskName_sites.toIsPlainName, h⟩)

theorem place_directory (h : IsPlainName s.name) :
    s.directory.place home = s.workspace.root.place home ++ ["config", s.name] := by
  rw [directory_eq h, place_names home (by simp)]
  simpa using ⟨isDiskName_sites.toIsPlainName, h⟩

theorem deviceDirectory_eq (h : IsPlainName s.name) {kind : String} (hk : IsPlainName kind) :
    s.deviceDirectory kind = s.workspace.root.join ⟨["config", s.name, kind]⟩ := by
  rw [deviceDirectory, directory_eq h, hk.ofText]
  refine join_join (descends_directory h).toContinues ?_ (continues_single kind)
  simpa using h.ne_empty

theorem descends_deviceDirectory (h : IsPlainName s.name) {kind : String} (hk : IsPlainName kind) :
    Descends ⟨["config", s.name, kind]⟩ :=
  descends_names (by simp) (by simpa using ⟨isDiskName_sites.toIsPlainName, h, hk⟩)

theorem place_deviceDirectory {kind : String} (hk : IsPlainName kind) :
    (s.deviceDirectory kind).place home = s.directory.place home ++ [kind] := by
  rw [deviceDirectory, hk.ofText, place_child home hk]

theorem stands_deviceDirectory {d : Disk} (h : Stands home s.directory d) {kind : String}
    (hk : IsDiskName kind) (hd : d.find? (s.directory.place home ++ [kind]) = some .directory) :
    Stands home (s.deviceDirectory kind) d := by
  rw [deviceDirectory, hk.toIsPlainName.ofText]
  exact h.child hk hd

theorem stands_directory {d : Disk} {kind : String} (hk : IsPlainName kind)
    (h : Stands home (s.deviceDirectory kind) d) : Stands home s.directory d := by
  rw [deviceDirectory, hk.ofText] at h
  exact ⟨h.tree, h.home_eq, h.leads.of_child h.tree hk⟩

theorem stands_root {d : Disk} (hn : IsPlainName s.name) (h : Stands home s.directory d) :
    Stands home s.workspace.root d := by
  rw [directory_eq hn] at h
  exact ⟨h.tree, h.home_eq, h.leads.of_join h.tree (descends_directory hn)⟩

/-! ## Choosing a variant -/

/-- Whether an override file **chooses** a variant for a kind of device: it names it, or names none, and
it is the root variant. -/
def Chooses (o : Override) (kind variant : String) : Prop :=
  o.variant kind = .ok (some variant) ∨ o.variant kind = .ok none ∧ variant = rootVariant

/-- **Choosing a variant** only looks at the library of the device. -/
theorem chooseVariant_confined {I : Disk → Prop} (hI : ∀ d, I d → d.IsTree ∧ d.home = home)
    {kind : String}
    (hlib : ∀ x, Seen home (variantsDirectory s.workspace.root kind) x → S.reads x) :
    Confined S I (s.chooseVariant kind o) fun variant d =>
      I d ∧ Chooses o kind variant := by
  unfold chooseVariant
  refine (Confined.ofResult _).bind fun chosen => .of_pre fun hchosen => ?_
  cases chosen with
  | some variant => exact .pure fun d hd => ⟨hd, Or.inl hchosen⟩
  | none =>
    have hlook := @inspect_congr S home I _ _ _ hI (fun x hx => hlib x (Or.inl hx))
      fun _ _ h hS hx => hasDirectory_congr h hS hx
    refine (hlook.post fun _ d hd => hd.1).seq fun b => .ite (fun _ => .fail _) fun _ => ?_
    have hlist := @listing_confined S home I _ hI (fun x hx => hlib x (Or.inl hx))
      fun name => hlib _ (Or.inr (List.prefix_append _ _))
    refine (hlist.post fun _ d hd => hd.1).seq fun variants => .ite (fun _ => .fail _) fun _ => ?_
    exact (Confined.warn _).seq fun _ => .pure fun d hd => ⟨hd, Or.inr ⟨hchosen, rfl⟩⟩

/-! ## Making a device anew -/

/-- Whether a scope is **for a device**: its outputs may be changed and read, and what leads to it and
its library may be read. -/
structure DeviceScope (S : Scope) (home : Place) (s : Site) (kind : String) : Prop where
  writes : ∀ x, Outputs home (s.deviceDirectory kind) x → S.writes x
  reads : ∀ x, Outputs home (s.deviceDirectory kind) x → S.reads x
  trail : ∀ x ∈ (s.deviceDirectory kind).trail home, S.reads x
  library : ∀ x, Seen home (variantsDirectory s.workspace.root kind) x → S.reads x

/-- Whether an override file is **allowed** for a device: its templates stay in the configuration, and,
if it matters what is read, its variant is one in the library. -/
structure Allowed (S : Scope) (o : Override) (kind : String) : Prop where
  templates : ∀ ts, o.templates kind = .ok (some ts) → ∀ t ∈ ts, t.Fits
  variant : ∀ v, o.variant kind = .ok (some v) → IsPlainName v ∨ ¬S.blind ∧ ∀ x, S.reads x

theorem below_of_outputs (hn : IsPlainName s.name) {kind : String} (hk : IsPlainName kind) {x : Place}
    (hout : Outputs home (s.deviceDirectory kind) x) :
    s.workspace.root.place home ++ ["config", s.name, kind] <+: x := by
  have hp := @place_deviceDirectory home s kind hk
  rw [place_directory hn, List.append_assoc] at hp
  have habove : (s.deviceDirectory kind).place home <+: x :=
    hout.elim (List.prefix_append _ _).trans (List.prefix_append _ _).trans
  rwa [hp] at habove

theorem library_away (hn : IsPlainName s.name) {kind : String} (hk : IsPlainName kind)
    (haway : Away home (s.deviceDirectory kind)) {x : Place}
    (hx : Seen home (variantsDirectory s.workspace.root kind) x) :
    ¬Outputs home (s.deviceDirectory kind) x := by
  intro hout
  have hkv := isPlainName_variants hk
  have hbelow := below_of_outputs hn hk hout
  -- what is in the library is not below the sites
  have hlibrary : ∀ {l : Place}, s.workspace.root.place home ++ (kind ++ "_variants") :: l ≠ x := by
    rintro l rfl
    have hpre := (List.prefix_append_right_inj _).mp hbelow
    exact variants_ne_sites kind (List.cons_prefix_cons.mp hpre).1.symm
  rw [variantsDirectory, hkv.ofText] at hx
  rcases hx with hx | ⟨l, hl⟩
  · rcases mem_trail_child home hkv hx with hx | rfl
    · rcases List.mem_cons.mp hx with rfl | hx
      · have hlen := hbelow.length_le
        simp at hlen
      · -- what leads to the workspace leads to the device
        refine haway x ?_ hout
        rw [deviceDirectory_eq hn hk, trail, passed_join home
          (descends_deviceDirectory hn hk).toContinues]
        exact List.mem_cons_of_mem _ (List.mem_append_left _ hx)
    · exact hlibrary rfl
  · rw [place_child home hkv, List.append_assoc] at hl
    exact hlibrary hl

theorem source_variant (hn : IsPlainName s.name) {kind : String} (hk : IsPlainName kind)
    (hs : DeviceScope S home s kind) (haway : Away home (s.deviceDirectory kind))
    {v : String} (hv : IsPlainName v) :
    Source S home (s.deviceDirectory kind)
      ((variantsDirectory s.workspace.root kind).join (Path.ofText v)) := by
  rw [hv.ofText]
  exact ⟨fun x hx => hs.library x (seen_of_child hv hx),
    fun _ x hx => library_away hn hk haway (seen_of_child hv hx)⟩

/-- Copies the files of the **chosen variant** into a device, and gives the variant. -/
def supply (s : Site) (kind : String) (o : Override) : Run String := do
  let variant ← s.chooseVariant kind o
  (Device.mk kind variant (s.deviceDirectory kind)).copyAll s.workspace.root
  pure variant

/-- What making a device anew does **from its templates on**. -/
def settle (s : Site) (kind : String) (o : Override) (variant : String) : Run (Option Path) := do
  let device : Device := ⟨kind, variant, s.deviceDirectory kind⟩
  match ← Run.ofResult (o.templates kind) with
  | some templates => do
    let _ ← device.expandAll templates
  | none => pure ()
  if ← Run.inspect (·.hasDirectory device.tests) then pure (some device.tests)
  else pure none

/-- What comes **after clearing** a device: its files are copied and its templates expanded. -/
def refill (s : Site) (kind : String) (o : Override) : Run (Option Path) := do
  let variant ← s.supply kind o
  s.settle kind o variant

theorem processDevice_eq (s : Site) (kind : String) (o : Override) :
    s.processDevice kind o = (do
      (Device.ofSite kind s.directory).clear
      s.refill kind o) := by
  unfold processDevice refill supply
  simp only [bind_assoc, pure_bind]
  rfl

theorem supply_confined (hn : IsPlainName s.name) {kind : String} (hk : IsPlainName kind)
    (hs : DeviceScope S home s kind) (ho : Allowed S o kind)
    (haway : Away home (s.deviceDirectory kind)) :
    Confined S (Stands home (s.deviceDirectory kind)) (s.supply kind o) fun _ d =>
      Stands home (s.deviceDirectory kind) d := by
  have hserves : Serves S home (s.deviceDirectory kind) := ⟨⟨hs.reads, hs.trail⟩, hs.writes, haway⟩
  unfold supply
  refine (chooseVariant_confined (fun d hd => ⟨hd.tree, hd.home_eq⟩) hs.library).bind
    fun variant => .of_pre fun hvariant => ?_
  have hroot := source_variant hn hk hs haway isDiskName_root.toIsPlainName
  rw [isDiskName_root.toIsPlainName.ofText] at hroot
  have hchosen : Source S home (s.deviceDirectory kind)
      ((variantsDirectory s.workspace.root kind).join (Path.ofText variant)) := by
    rcases hvariant with hvariant | ⟨-, rfl⟩
    · rcases ho.variant _ hvariant with hplain | ⟨hb, hall⟩
      · exact source_variant hn hk hs haway hplain
      · exact ⟨fun x _ => hall x, fun hb' => absurd hb' hb⟩
    · exact source_variant hn hk hs haway isDiskName_root.toIsPlainName
  have hcopy := @copyAll_confined S home ⟨kind, variant, s.deviceDirectory kind⟩ hserves
    s.workspace.root hroot hchosen
  exact hcopy.seq fun _ => .pure fun _ hd => hd

theorem settle_confined {kind variant : String} (hs : DeviceScope S home s kind) (ho : Allowed S o kind) :
    Confined S (Stands home (s.deviceDirectory kind)) (s.settle kind o variant) fun tests d =>
      Stands home (s.deviceDirectory kind) d ∧
        ∀ t ∈ tests, t = (s.deviceDirectory kind).join ⟨[testsName]⟩ := by
  unfold settle
  have htests : Confined S (Stands home (s.deviceDirectory kind)) (do
      if ← Run.inspect (·.hasDirectory (Device.mk kind variant (s.deviceDirectory kind)).tests) then
        pure (some (Device.mk kind variant (s.deviceDirectory kind)).tests)
      else pure none) fun tests d => Stands home (s.deviceDirectory kind) d ∧
        ∀ t ∈ tests, t = (s.deviceDirectory kind).join ⟨[testsName]⟩ := by
    have hmem : ∀ x ∈ (Device.mk kind variant (s.deviceDirectory kind)).tests.trail home,
        S.reads x := fun x hx => by
      rcases mem_trail_child home isDiskName_tests.toIsPlainName hx with hx | rfl
      · exact hs.trail x hx
      · exact hs.reads _ (Or.inr (List.prefix_refl _))
    refine ((hasDirectory_confined hmem).post fun _ d hd => hd.1).seq fun b =>
      .ite (fun _ => .pure fun d hd => ⟨hd, ?_⟩) (fun _ => .pure fun d hd => ⟨hd, by simp⟩)
    intro t ht
    exact (Option.some.inj ht).symm
  refine (Confined.ofResult _).bind fun templates => .of_pre fun htemplates => ?_
  cases templates with
  | none => exact htests
  | some templates =>
    exact (@expandAll_confined S home ⟨kind, variant, s.deviceDirectory kind⟩ ⟨hs.reads, hs.trail⟩ templates
      (ho.templates _ htemplates) fun x hx _ => hs.writes x (Or.inl hx)).seq fun _ => htests

/-- **Refilling a device** is confined to its outputs. -/
theorem refill_confined (hn : IsPlainName s.name) {kind : String} (hk : IsPlainName kind)
    (hs : DeviceScope S home s kind) (ho : Allowed S o kind)
    (haway : Away home (s.deviceDirectory kind)) :
    Confined S (Stands home (s.deviceDirectory kind)) (s.refill kind o) fun tests d =>
      Stands home (s.deviceDirectory kind) d ∧
        ∀ t ∈ tests, t = (s.deviceDirectory kind).join ⟨[testsName]⟩ :=
  (supply_confined hn hk hs ho haway).seq fun _ => settle_confined hs ho

/-! ## Devices that cannot be made -/

/-- If the root variant is not copied, a device is **not supplied**. -/
theorem supply_fails {kind : String} {I : Disk → Prop} (hI : ∀ d, I d → d.IsTree ∧ d.home = home)
    (hlib : ∀ x, Seen home (variantsDirectory s.workspace.root kind) x → S.reads x)
    (hcopy : ∀ variant, Confined S I
      ((Device.mk kind variant (s.deviceDirectory kind)).copyRoot s.workspace.root) fun _ _ => False) :
    Confined S I (s.supply kind o) fun _ _ => False := by
  unfold supply
  refine (chooseVariant_confined hI hlib).bind fun variant => .of_pre fun _ => ?_
  have hall : Confined S I ((Device.mk kind variant (s.deviceDirectory kind)).copyAll s.workspace.root)
      fun _ _ => False := (hcopy variant).seq fun _ => .of_not fun _ hd => hd
  exact hall.seq fun _ => .of_not fun _ hd => hd

/-- A device is not supplied from a workspace that **cannot be reached**. -/
theorem supply_lost {kind : String} (hk : IsPlainName kind)
    (hlib : ∀ x, Seen home (variantsDirectory s.workspace.root kind) x → S.reads x) :
    Confined S (Lost home s.workspace.root) (s.supply kind o) fun _ _ => False :=
  supply_fails (fun _ hd => ⟨hd.tree, hd.home_eq⟩) hlib fun _ => copyRoot_lost (isPlainName_variants hk)

/-- A device is not supplied where the path of its configuration is **too long**. -/
theorem supply_of_isLong {kind : String} (hlong : (Device.ofSite kind s.directory).config.isLong = true)
    (hlib : ∀ x, Seen home (variantsDirectory s.workspace.root kind) x → S.reads x) :
    Confined S (fun d => d.IsTree ∧ d.home = home) (s.supply kind o) fun _ _ => False :=
  supply_fails (fun _ hd => hd) hlib fun variant =>
    @copyRoot_of_isLong S home ⟨kind, variant, s.deviceDirectory kind⟩ hlong _ fun _ hx =>
      hlib _ (seen_of_child isDiskName_root.toIsPlainName (Or.inl hx))

theorem refill_fails {kind : String} {I : Disk → Prop}
    (h : Confined S I (s.supply kind o) fun _ _ => False) : Confined S I (s.refill kind o) fun _ _ => False :=
  h.seq fun _ => .of_not fun _ hd => hd

/-- **Making a device anew** is confined to its outputs. -/
theorem processDevice_confined (hn : IsPlainName s.name) {kind : String} (hk : IsPlainName kind)
    (hs : DeviceScope S home s kind) (ho : Allowed S o kind) :
    Confined S (Stands home (s.deviceDirectory kind)) (s.processDevice kind o) fun tests d =>
      Stands home (s.deviceDirectory kind) d ∧
        ∀ t ∈ tests, t = (s.deviceDirectory kind).join ⟨[testsName]⟩ := by
  have hclear := @clear_confined S home s.workspace.root (Device.ofSite kind s.directory) _
    (descends_deviceDirectory hn hk) (deviceDirectory_eq hn hk) hs.writes hs.reads
  rw [processDevice_eq]
  cases hlong : (Device.ofSite kind s.directory).config.isLong with
  | true =>
    exact (hclear.post fun _ d hd => ⟨hd.1, hd.2.1⟩).seq fun _ =>
      (refill_fails (supply_of_isLong hlong hs.library)).post fun _ _ hd => hd.elim
  | false =>
    by_cases haway : Away home (s.deviceDirectory kind)
    · exact (hclear.post fun _ d hd => hd.2.2.1 haway).seq fun _ => refill_confined hn hk hs ho haway
    · exact (hclear.post fun _ d hd => (hd.2.2.2 hlong).2 haway).seq fun _ =>
        (refill_fails (supply_lost hk hs.library)).post fun _ _ hd => hd.elim

/-! ## Making all devices anew -/

/-- Whether a site **has a device** of a kind: the kind is known, and in the directory of the site there
is a directory of that name. -/
def HasDevice (s : Site) (d : Disk) (kind : String) : Prop :=
  s.workspace.kinds.contains kind = true ∧
    d.find? (s.directory.place d.home ++ [kind]) = some .directory

/-- Whether a child of the directory of a site is a device. -/
def IsDevice (s : Site) (child : String × Entry) : Prop :=
  child.2.isDirectory = true ∧ s.workspace.kinds.contains child.1 = true

/-- What is known of the devices that have been made, if they are of kinds with `K`. -/
def Made (s : Site) (K : String → Prop) (devices : List (String × Option Path)) : Prop :=
  ∀ device ∈ devices, IsDiskName device.1 ∧ K device.1 ∧
    ∀ t ∈ device.2, t = (s.deviceDirectory device.1).join ⟨[testsName]⟩

/-- Whether a scope is **for devices** of kinds with `K`: it is for each of them, and what is in the
directory of the site stays. -/
structure DevicesScope (S : Scope) (home : Place) (s : Site) (o : Override) (K : String → Prop) :
    Prop where
  device : ∀ kind, K kind → DeviceScope S home s kind
  allowed : ∀ kind, K kind → Allowed S o kind
  stays : ∀ name, ¬S.writes (s.directory.place home ++ [name])

/-- What holds while devices are made: the directories in the directory of the site are there. -/
structure Making (home : Place) (s : Site) (children : List (String × Entry)) (d : Disk) : Prop where
  stands : Stands home s.directory d
  there : ∀ child ∈ children, child.2.isDirectory = true →
    d.find? (s.directory.place home ++ [child.1]) = some .directory

/-- Whether the devices among what is in a directory are of kinds with `K`. -/
def AmongKinds (s : Site) (K : String → Prop) (children : List (String × Entry)) : Prop :=
  ∀ child ∈ children, IsDiskName child.1 ∧
    (child.2.isDirectory = true → s.workspace.kinds.contains child.1 = true → K child.1)

/-- **Making all devices anew** is confined to the outputs of all. -/
theorem processEach_confined (hn : IsPlainName s.name) {K : String → Prop}
    (hs : DevicesScope S home s o K) :
    ∀ {children : List (String × Entry)}, s.AmongKinds K children →
      Confined S (Making home s children) (s.processEach o children) fun devices d =>
        Stands home s.directory d ∧ s.Made K devices
  | [], _ => .pure fun _ hd => ⟨hd.stands, by simp [Made]⟩
  | (name, e) :: rest, hK => by
    have hrest := @processEach_confined hn K hs rest fun c hc => hK c (List.mem_cons_of_mem _ hc)
    have hskip : Confined S (Making home s ((name, e) :: rest)) (s.processEach o rest) _ :=
      hrest.pre fun d hd => ⟨hd.stands, fun c hc => hd.there c (List.mem_cons_of_mem _ hc)⟩
    unfold processEach
    refine .ite (fun _ => hskip) (fun he => .ite (fun _ => ?_) (fun hkind => ?_))
    · exact (Confined.warn _).seq fun _ => hskip
    · have hdir : e.isDirectory = true := by simpa using he
      obtain ⟨hname, hk⟩ := hK _ List.mem_cons_self
      have hk : K name := hk hdir (by simpa using hkind)
      have hdevice := processDevice_confined hn hname.toIsPlainName (hs.device name hk)
        (hs.allowed name hk)
      -- the other directories are still there when the device has been made
      have hframe := hdevice.frame
        (K := fun d => ∀ child ∈ rest, child.2.isDirectory = true →
          d.find? (s.directory.place home ++ [child.1]) = some .directory)
        fun d d' _ hthere hwithin child hc hcd => by
          rcases hwithin.find? (s.directory.place home ++ [child.1]) with h | h | ⟨-, h, -⟩
          · rw [h, hthere child hc hcd]
          · exact absurd h (hs.stays _)
          · rw [hthere child hc hcd] at h
            cases h
      refine (hframe.pre fun d hd => ⟨stands_deviceDirectory hd.stands hname
        (hd.there _ List.mem_cons_self hdir), fun c hc => hd.there c (List.mem_cons_of_mem _ hc)⟩).bind
        fun tests => ?_
      have hpre : ∀ d, ((Stands home (s.deviceDirectory name) d ∧
          ∀ t ∈ tests, t = (s.deviceDirectory name).join ⟨[testsName]⟩) ∧
          ∀ child ∈ rest, child.2.isDirectory = true →
            d.find? (s.directory.place home ++ [child.1]) = some .directory) →
          Making home s rest d ∧ ∀ t ∈ tests, t = (s.deviceDirectory name).join ⟨[testsName]⟩ :=
        fun d hd => ⟨⟨stands_directory hname.toIsPlainName hd.1.1, hd.2⟩, hd.1.2⟩
      refine Confined.pre (.of_pre fun htests => ?_) hpre
      refine hrest.bind fun devices => .pure fun d hd => ⟨hd.1, ?_⟩
      rintro device hm
      rcases List.mem_cons.mp hm with rfl | hm
      · exact ⟨hname, hk, htests⟩
      · exact hd.2 device hm

end Site

end SiteGen
