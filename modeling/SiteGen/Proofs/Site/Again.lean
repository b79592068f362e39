import SiteGen.Proofs.Site.Frame

/-!
# Generating again

What an earlier run has left in the outputs of the devices does not matter.

* `Device.clear_on`: what clearing a device leaves.
* `Site.processEach_agrees`: making the devices anew leaves the same, whatever their outputs were.
* `Site.generate_again`: generating a site fails with the same error, or gives the same summary and the
  same disk.
-/

namespace SiteGen

open Disk SiteGen.Path Run Device

variable {home : Place}

namespace Device

variable {base root : Path} {d d₁ d₂ : Disk}

/-! ## Clearing -/

/-- Whether a device may be **cleared**: no files are in the place of its configuration and its tests. -/
def Clearable (home : Place) (base : Path) (d : Disk) : Prop :=
  ∀ name ∈ [configName, testsName], ∀ content,
    d.find? (base.place home ++ [name]) ≠ some (.file content)

theorem clearable_iff : Clearable home base d ↔
    ∀ name ∈ [configName, testsName], (d.find? (base.place home ++ [name])).any (·.isFile) = false := by
  refine forall₂_congr fun name _ => ?_
  cases hf : d.find? (base.place home ++ [name]) with
  | none => simp
  | some e => cases e <;> simp [Entry.isFile]

instance (home : Place) (base : Path) (d : Disk) : Decidable (Clearable home base d) :=
  decidable_of_iff' _ clearable_iff

/-- Whether the way to a device is cut off when its configuration is gone. -/
def CutOff (home : Place) (base : Path) : Prop := ∃ x ∈ base.trail home, Emptied home base configName x

/-- Whether something is gone when a device has been cleared. -/
def Cleared (home : Place) (base : Path) (q : Place) : Prop :=
  Emptied home base configName q ∨ ¬CutOff home base ∧ Emptied home base testsName q

open Classical in
/-- **What clearing a device leaves**. -/
theorem clear_on {device : Device} {q : Path} (hq : Descends q)
    (hdir : device.directory = root.join q) {w : World} (h : Stands home device.directory w.disk)
    (hc : Clearable home device.directory w.disk) :
    ∃ d, device.clear.on w = (.ok (), { w with disk := d }) ∧ d.home = w.disk.home ∧
      ∀ x, d.find? x = if Cleared home device.directory x then none else w.disk.find? x := by
  obtain ⟨d₁, hon, ht, hhome, hfind⟩ := clearDirectory_ok h isDiskName_config
    (hc configName (by simp))
  by_cases hcut : CutOff home device.directory
  · obtain ⟨x, hx, hunder⟩ := id hcut
    have hmissing : d₁.find? x = none := by rw [hfind, if_pos hunder]
    rw [hdir] at hx hunder
    have hlost : Lost home root d₁ := ⟨ht, hhome, x, mem_passed_of_outputs hq hx hunder.2, hmissing⟩
    have hnone : d₁.hasAny device.tests = false := by
      rw [tests, hdir]
      exact (hlost.join hq.toContinues).hasAny_join (continues_single testsName)
    have hon' : (clearDirectory device.tests).on { w with disk := d₁ } =
        (.ok (), { w with disk := d₁ }) := by
      unfold clearDirectory
      rw [bind_of_ok (inspect_on _ _), hnone]
      rfl
    refine ⟨d₁, (bind_of_ok hon).trans hon', hhome.trans h.home_eq.symm, fun x => ?_⟩
    rw [hfind]
    simp [Cleared, hcut]
  · -- the device can still be reached when its tests are cleared
    have hstands : Stands home device.directory d₁ := by
      refine ⟨ht, hhome, h.leads.noNull, fun x hx => ?_⟩
      rw [hhome] at hx
      rw [hfind, if_neg fun hunder => hcut ⟨x, hx, hunder⟩]
      exact h.leads.onTrail x (by rwa [h.home_eq])
    obtain ⟨d₂, hon', -, hhome', hfind'⟩ := @clearDirectory_ok home device.directory
      { w with disk := d₁ } hstands _ isDiskName_tests fun content => by
        rw [hfind, if_neg fun h => not_under_of_under (a := testsName) (by decide) (List.prefix_refl _) h.2]
        exact hc testsName (by simp) content
    refine ⟨d₂, (bind_of_ok hon).trans hon', hhome'.trans h.home_eq.symm, fun x => ?_⟩
    rw [hfind', hfind]
    by_cases hx : Emptied home device.directory configName x
    · simp [Cleared, hx]
    · simp [Cleared, hx, hcut]

/-- Clearing a device **agrees with itself**, and makes its outputs the same, unless the path of the configuration is
too long. -/
theorem clear_agrees {device : Device} {q : Path} (hq : Descends q)
    (hdir : device.directory = root.join q) {R : Place → Prop} :
    Agrees (fun d₁ d₂ => (Stands home device.directory d₁ ∧ Clearable home device.directory d₁) ∧
        (Stands home device.directory d₂ ∧ Clearable home device.directory d₂) ∧ SameOn R d₁ d₂)
      device.clear fun _ d₁ d₂ => SameOn R d₁ d₂ ∧ (Away home device.directory → device.config.isLong = false →
        SameOn (fun x => R x ∨ Outputs home device.directory x) d₁ d₂) := by
  rintro w₁ w₂ ⟨⟨h₁, hc₁⟩, ⟨h₂, hc₂⟩, hS⟩
  obtain ⟨d₁, hon₁, hhome₁, hfind₁⟩ := clear_on hq hdir h₁ hc₁
  obtain ⟨d₂, hon₂, hhome₂, hfind₂⟩ := clear_on hq hdir h₂ hc₂
  have hhome : d₁.home = d₂.home := by rw [hhome₁, hhome₂, hS.home]
  rw [hon₁, hon₂]
  refine ⟨rfl, fun _ _ => ⟨⟨hhome, fun x hx => ?_⟩, fun haway hlong => ⟨hhome, fun x hx => ?_⟩⟩⟩
  · rw [hfind₁, hfind₂, hS.find? x hx]
  · rw [hfind₁, hfind₂]
    split
    · rfl
    · next hnot =>
      refine hS.find? x (hx.resolve_right fun hout => hnot ?_)
      refine hout.imp (fun hout => ⟨hlong, hout⟩) fun hout => ⟨?_, isLong_tests hlong, hout⟩
      rintro ⟨y, hy, -, hunder⟩
      exact haway y hy (Or.inl hunder)

end Device

namespace Site

variable {s : Site} {o : Override}

/-! ## Making a device anew -/

theorem not_outputs_library (hn : IsPlainName s.name) {kind name : String} (hk : IsPlainName kind)
    (hname : name ≠ "config") {q : Place} (hq : s.workspace.root.place home ++ [name] <+: q) :
    ¬Outputs home (s.deviceDirectory kind) q := by
  rw [outputs_iff hk]
  rintro ⟨names, rfl, -⟩
  rw [place_directory hn, List.append_assoc, List.prefix_append_right_inj] at hq
  exact hname (List.cons_prefix_cons.mp hq).1

/-- Making a device anew **agrees with itself**, and makes its outputs the same. -/
theorem processDevice_agrees (hn : IsPlainName s.name) {kind : String} (hk : IsPlainName kind)
    (htemplates : ∀ ts, o.templates kind = .ok (some ts) → ∀ t ∈ ts, t.Fits)
    (hvariant : ∀ v, o.variant kind = .ok (some v) → IsPlainName v) {R : Place → Prop}
    (htrail : ∀ x ∈ (s.deviceDirectory kind).trail home, R x)
    (hlib : ∀ x, Seen home (variantsDirectory s.workspace.root kind) x → R x) :
    Agrees (fun d₁ d₂ =>
        (Stands home (s.deviceDirectory kind) d₁ ∧ Clearable home (s.deviceDirectory kind) d₁) ∧
        (Stands home (s.deviceDirectory kind) d₂ ∧ Clearable home (s.deviceDirectory kind) d₂) ∧
        SameOn R d₁ d₂)
      (s.processDevice kind o)
      fun _ d₁ d₂ => SameOn (fun x => R x ∨ Outputs home (s.deviceDirectory kind) x) d₁ d₂ := by
  have hclear := (@clear_agrees home s.workspace.root (Device.ofSite kind s.directory) _
    (descends_deviceDirectory hn hk) (deviceDirectory_eq hn hk) R).ends
    (@clear_confined ⟨fun _ => True, fun _ => True, fun _ => True, False⟩ home s.workspace.root
      (Device.ofSite kind s.directory) _ (descends_deviceDirectory hn hk) (deviceDirectory_eq hn hk)
      (fun _ _ => trivial) (fun _ _ => trivial)) (fun _ _ hd => ⟨hd.1.1, hd.2.1.1⟩)
  rw [processDevice_eq]
  refine hclear.bind fun _ => ?_
  -- if the device cannot be refilled, this fails on both disks in the same way
  have hfails : ∀ {I : Disk → Prop}, Confined ⟨Outputs home (s.deviceDirectory kind), fun _ => False, R, True⟩ I
      (s.supply kind o) (fun _ _ => False) → Agrees (fun d₁ d₂ => I d₁ ∧ I d₂ ∧ SameOn R d₁ d₂) (s.refill kind o)
        fun _ d₁ d₂ => SameOn (fun x => R x ∨ Outputs home (s.deviceDirectory kind) x) d₁ d₂ := fun h =>
    ((refill_fails h).agrees trivial).imp (fun _ _ hd => hd) fun _ _ _ hd => hd.2.1.elim
  rcases Bool.eq_false_or_eq_true (Device.ofSite kind s.directory).config.isLong with hlong | hlong
  · exact (hfails (supply_of_isLong hlong hlib)).imp
      (fun d₁ d₂ hd => ⟨⟨hd.2.1.1, hd.2.1.2.1⟩, ⟨hd.2.2.1, hd.2.2.2.1⟩, hd.1.1⟩) fun _ _ _ hd => hd
  by_cases haway : Away home (s.deviceDirectory kind)
  · have hrefill := (refill_confined (o := o) (S := ⟨Outputs home (s.deviceDirectory kind),
      fun _ => False, fun x => R x ∨ Outputs home (s.deviceDirectory kind) x, True⟩) hn hk
      ⟨fun _ h => h, fun _ h => Or.inr h, fun x hx => Or.inl (htrail x hx),
        fun x hx => Or.inl (hlib x hx)⟩
      ⟨htemplates, fun v hv => Or.inl (hvariant v hv)⟩ haway).agrees trivial
    exact hrefill.imp (fun d₁ d₂ hd => ⟨hd.2.1.2.2.1 haway, hd.2.2.2.2.1 haway, hd.1.2 haway hlong⟩)
      fun _ d₁ d₂ hd => hd.1
  · exact (hfails (supply_lost hk hlib)).imp (fun d₁ d₂ hd =>
      ⟨(hd.2.1.2.2.2 hlong).2 haway, (hd.2.2.2.2.2 hlong).2 haway, hd.1.1⟩) fun _ _ _ hd => hd

/-! ## Making all devices anew -/

/-- What holds while devices are made **anew**: those to come are there and may be cleared. -/
structure Ready (home : Place) (s : Site) (children : List (String × Entry)) (d : Disk) : Prop
    extends Making home s children d where
  clearable : ∀ child ∈ children, s.IsDevice child → Clearable home (s.deviceDirectory child.1) d

/-- Whether something is **settled**: it leads to the workspace, or it is not an output of a device that
is still to come. -/
def Settled (home : Place) (s : Site) (children : List (String × Entry)) (q : Place) : Prop :=
  q ∈ s.workspace.root.trail home ∨
    ∀ child ∈ children, s.IsDevice child → ¬Outputs home (s.deviceDirectory child.1) q

variable {children : List (String × Entry)}

theorem settled_trail (hn : IsPlainName s.name) (hnames : ∀ child ∈ children, IsDiskName child.1)
    {kind : String} (hk : IsPlainName kind) {x : Place}
    (hx : x ∈ (s.deviceDirectory kind).trail home) : Settled home s children x := by
  rw [deviceDirectory_eq hn hk] at hx
  rcases mem_trail_join home (descends_deviceDirectory hn hk) hx with hx | ⟨m, -, hm, rfl⟩
  · exact Or.inl hx
  · refine Or.inr fun child hc _ => not_outputs_of_length (hnames child hc).toIsPlainName ?_
    have hshort := hm.length_le
    have hsteps : (Path.mk ["config", s.name, kind]).steps.length ≤ 3 := List.length_filter_le ..
    simp only [place_directory hn, List.length_append, List.length_cons, List.length_nil]
    omega

theorem settled_library (hn : IsPlainName s.name) (hnames : ∀ child ∈ children, IsDiskName child.1)
    {kind : String} (hk : IsPlainName kind) {x : Place}
    (hx : Seen home (variantsDirectory s.workspace.root kind) x) : Settled home s children x := by
  have hkv := isPlainName_variants hk
  have hlib : s.workspace.root.place home ++ [kind ++ "_variants"] <+: x →
      Settled home s children x := fun h => Or.inr fun child hc _ =>
    not_outputs_library hn (hnames child hc).toIsPlainName (variants_ne_sites kind) h
  rw [variantsDirectory, hkv.ofText] at hx
  rcases hx with hx | hx
  · rcases mem_trail_child home hkv hx with hx | rfl
    · exact Or.inl hx
    · exact hlib (List.prefix_refl _)
  · rw [place_child home hkv] at hx
    exact hlib hx

/-- A device that is made leaves the others **ready**. -/
theorem ready_processDevice (hn : IsPlainName s.name) {name : String} {e : Entry}
    (hdevice : s.IsDevice (name, e)) (hnames : ∀ child ∈ (name, e) :: children, IsDiskName child.1)
    (hnot : name ∉ children.map (·.1))
    (htemplates : ∀ ts, o.templates name = .ok (some ts) → ∀ t ∈ ts, t.Fits) :
    Confined ⟨Outputs home (s.deviceDirectory name), fun _ => False, fun _ => True, False⟩
      (Ready home s ((name, e) :: children)) (s.processDevice name o) fun _ d =>
        Ready home s children d := by
  have hname : IsDiskName name := hnames _ List.mem_cons_self
  have hconfined := (@processDevice_confined
    ⟨Outputs home (s.deviceDirectory name), fun _ => False, fun _ => True, False⟩ home s o hn name
    hname.toIsPlainName
    ⟨fun _ h => h, fun _ _ => trivial, fun _ _ => trivial, fun _ _ => trivial⟩
    ⟨htemplates, fun _ _ => Or.inr ⟨id, fun _ => trivial⟩⟩).frame
    (K := fun d => (∀ child ∈ children, child.2.isDirectory = true →
        d.find? (s.directory.place home ++ [child.1]) = some .directory) ∧
      ∀ child ∈ children, s.IsDevice child → Clearable home (s.deviceDirectory child.1) d)
    fun d d' _ hK hwithin => ?_
  · refine hconfined.imp (fun d hd => ⟨?_, ?_, ?_⟩) fun _ d hd =>
      ⟨⟨stands_directory hname.toIsPlainName hd.1.1, hd.2.1⟩, hd.2.2⟩
    · exact stands_deviceDirectory hd.stands hname (hd.there _ List.mem_cons_self hdevice.1)
    · exact fun child hc => hd.there child (List.mem_cons_of_mem _ hc)
    · exact fun child hc => hd.clearable child (List.mem_cons_of_mem _ hc)
  · -- nothing but the outputs of the device is changed
    have hkeep : ∀ q, ¬Outputs home (s.deviceDirectory name) q → d'.find? q = d.find? q := by
      intro q hq
      rcases hwithin.find? q with h | h | ⟨h, -⟩
      · exact h
      · exact absurd h hq
      · exact h.elim
    refine ⟨fun child hc hdir => ?_, fun child hc hchild top htop content => ?_⟩
    · rw [hkeep _ (not_outputs_of_length hname.toIsPlainName (by simp))]
      exact hK.1 child hc hdir
    · have hplain := (hnames child (List.mem_cons_of_mem _ hc)).toIsPlainName
      rw [hkeep _ fun hout => ?_]
      · exact hK.2 child hc hchild top htop content
      · obtain ⟨names, hq, hm⟩ := (outputs_iff hname.toIsPlainName).mp hout
        rw [place_deviceDirectory hplain, List.append_assoc, List.append_cancel_left_eq] at hq
        subst hq
        refine hnot (List.mem_map.mpr ⟨child, hc, ?_⟩)
        exact hm.elim (fun hm => (List.cons_prefix_cons.mp hm).1.symm)
          fun hm => (List.cons_prefix_cons.mp hm).1.symm

theorem Settled.of_cons {name : String} {e : Entry} {q : Place}
    (h : Settled home s children q) :
    Settled home s ((name, e) :: children) q ∨ Outputs home (s.deviceDirectory name) q := by
  by_cases hout : Outputs home (s.deviceDirectory name) q
  · exact Or.inr hout
  · refine Or.inl (h.imp_right fun h child hc hdevice => ?_)
    rcases List.mem_cons.mp hc with rfl | hc
    · exact hout
    · exact h child hc hdevice

/-- Making the first of the devices **agrees with itself**. -/
theorem processFirst_agrees (hn : IsPlainName s.name) (ho : o.IsNormal s.workspace.kinds)
    (hv : o.HasPlainVariants s.workspace.kinds) {name : String} {e : Entry}
    (hdevice : s.IsDevice (name, e)) (hnames : ∀ child ∈ (name, e) :: children, IsDiskName child.1)
    (hnot : name ∉ children.map (·.1)) :
    Agrees (fun d₁ d₂ => Ready home s ((name, e) :: children) d₁ ∧
        Ready home s ((name, e) :: children) d₂ ∧ SameOn (Settled home s ((name, e) :: children)) d₁ d₂)
      (s.processDevice name o) fun _ d₁ d₂ => Ready home s children d₁ ∧ Ready home s children d₂ ∧
        SameOn (Settled home s children) d₁ d₂ := by
  have hname : IsDiskName name := hnames _ List.mem_cons_self
  have hmem : name ∈ s.workspace.kinds := by simpa using hdevice.2
  have hfits := fun ts (h : o.templates name = .ok (some ts)) => ho.fits hmem h
  have hprocess := @processDevice_agrees home s o hn name hname.toIsPlainName hfits (hv name hmem)
    (Settled home s ((name, e) :: children))
    (fun x hx => settled_trail hn hnames hname.toIsPlainName hx)
    (fun x hx => settled_library hn hnames hname.toIsPlainName hx)
  have hstands : ∀ d, Ready home s ((name, e) :: children) d →
      Stands home (s.deviceDirectory name) d ∧ Clearable home (s.deviceDirectory name) d := fun d hd =>
    ⟨stands_deviceDirectory hd.stands hname (hd.there _ List.mem_cons_self hdevice.1),
      hd.clearable (name, e) List.mem_cons_self hdevice⟩
  have hsame : Agrees (fun d₁ d₂ => Ready home s ((name, e) :: children) d₁ ∧
      Ready home s ((name, e) :: children) d₂ ∧ SameOn (Settled home s ((name, e) :: children)) d₁ d₂)
      (s.processDevice name o) fun _ d₁ d₂ => SameOn (Settled home s children) d₁ d₂ :=
    hprocess.imp (fun d₁ d₂ hd => ⟨hstands d₁ hd.1, hstands d₂ hd.2.1, hd.2.2⟩)
      fun _ d₁ d₂ hd => hd.mono fun q hq => hq.of_cons
  have hready := @ready_processDevice home s o children hn name e hdevice hnames hnot hfits
  exact (hsame.ends hready fun _ _ hd => ⟨hd.1, hd.2.1⟩).imp (fun _ _ hd => hd)
    fun _ _ _ hd => ⟨hd.2.1, hd.2.2, hd.1⟩

/-- Making the devices anew **agrees with itself**: whatever their outputs were, the same disk is left. -/
theorem processEach_agrees (hn : IsPlainName s.name) (ho : o.IsNormal s.workspace.kinds)
    (hv : o.HasPlainVariants s.workspace.kinds) :
    ∀ {children : List (String × Entry)}, (∀ child ∈ children, IsDiskName child.1) →
      (children.map (·.1)).Nodup →
      Agrees (fun d₁ d₂ => Ready home s children d₁ ∧ Ready home s children d₂ ∧
          SameOn (Settled home s children) d₁ d₂)
        (s.processEach o children) fun _ d₁ d₂ => SameOn (fun _ => True) d₁ d₂
  | [], _, _ => .pure fun _ _ hd => hd.2.2.mono fun _ _ => Or.inr (by simp)
  | (name, e) :: rest, hnames, hnodup => by
    have hrest := @processEach_agrees hn ho hv rest
      (fun child hc => hnames child (List.mem_cons_of_mem _ hc)) (List.nodup_cons.mp hnodup).2
    have hskip : ¬s.IsDevice (name, e) → Agrees (fun d₁ d₂ => Ready home s ((name, e) :: rest) d₁ ∧
        Ready home s ((name, e) :: rest) d₂ ∧ SameOn (Settled home s ((name, e) :: rest)) d₁ d₂)
        (s.processEach o rest) fun _ d₁ d₂ => SameOn (fun _ => True) d₁ d₂ := by
      intro hnot
      have hready : ∀ d, Ready home s ((name, e) :: rest) d → Ready home s rest d := fun d hd =>
        ⟨⟨hd.stands, fun child hc => hd.there child (List.mem_cons_of_mem _ hc)⟩,
          fun child hc => hd.clearable child (List.mem_cons_of_mem _ hc)⟩
      refine hrest.imp (fun d₁ d₂ hd => ⟨hready d₁ hd.1, hready d₂ hd.2.1, hd.2.2.mono ?_⟩)
        fun _ _ _ hd => hd
      refine fun q hq => hq.imp_right fun hq child hc hdevice => ?_
      rcases List.mem_cons.mp hc with rfl | hc
      · exact absurd hdevice hnot
      · exact hq child hc hdevice
    unfold processEach
    split
    · next he => exact hskip fun hdevice => by simp [hdevice.1] at he
    · next he =>
      have hdir : e.isDirectory = true := by simpa using he
      split
      · next hkind =>
        refine (Agrees.warn _).bind fun _ => hskip fun hdevice => ?_
        have hcontains : s.workspace.kinds.contains name = true := hdevice.2
        rw [hcontains] at hkind
        cases hkind
      · next hkind =>
        have hdevice : s.IsDevice (name, e) := ⟨hdir, by simpa using hkind⟩
        have hfirst := @processFirst_agrees home s o _ hn ho hv _ _ hdevice hnames
          (List.nodup_cons.mp hnodup).1
        exact hfirst.bind fun tests => hrest.bind fun devices => .pure fun _ _ hd => hd

/-! ## Generating a site -/

/-- Whether a disk has **the input** of another one: it stands, has the same devices and override file,
and the devices may be cleared. -/
structure HasInput (s : Site) (d₀ d : Disk) : Prop where
  stands : Stands d₀.home s.workspace.root d
  devices : ∀ kind, s.HasDevice d kind ↔ s.HasDevice d₀ kind
  override : s.overrideOn d = s.overrideOn d₀
  clearable : ∀ kind, s.HasDevice d kind → Clearable d₀.home (s.deviceDirectory kind) d

/-- What is **input** of a site: it leads to the workspace, or it is not an output of a device. -/
def Input (s : Site) (d : Disk) (q : Place) : Prop :=
  q ∈ s.workspace.root.trail d.home ∨
    ∀ kind, s.HasDevice d kind → ¬Outputs d.home (s.deviceDirectory kind) q

/-- What is listed in the directory of a site, when the devices are to be made. -/
theorem listing_ready {d₀ d : Disk} (h : s.HasInput d₀ d)
    {children : List (String × Entry)} (hl : d.listing s.directory = .ok children) :
    Ready d₀.home s children d ∧ (∀ child ∈ children, IsDiskName child.1) ∧
      (children.map (·.1)).Nodup ∧ (∀ q, Settled d₀.home s children q → s.Input d₀ q) ∧
      s.AmongKinds (s.HasDevice d₀) children ∧ s.directory.Accepted := by
  obtain ⟨ht, hhome, -⟩ := h.stands
  obtain ⟨hmaking, hamong, haccepted⟩ := listing_making ht hl
  have hlist := listing_of_leads hmaking.stands.leads haccepted
  rw [hl] at hlist
  have hchildren := Except.ok.inj hlist
  rw [hhome] at hmaking hchildren
  refine ⟨⟨hmaking, fun child hc hdevice => ?_⟩, fun child hc => (hamong child hc).1, ?_, ?_, ?_, haccepted⟩
  · exact h.clearable _ ((hamong child hc).2 hdevice.1 hdevice.2)
  · rw [hchildren]
    exact List.Pairwise.map _ (fun _ _ h => ne_of_lt h) (names_sorted d _)
  · refine fun q hq => hq.imp_right fun hq kind hk hout => ?_
    have hkind := (h.devices kind).mpr hk
    have hmem : (kind, Entry.directory) ∈ children := by
      rw [hchildren]
      exact mem_names.mpr (hhome ▸ hkind.2)
    exact hq _ hmem ⟨rfl, hkind.1⟩ hout
  · exact fun child hc => ⟨(hamong child hc).1,
      fun hdir hkind => (h.devices _).mp ((hamong child hc).2 hdir hkind)⟩

theorem input_trail (hn : IsPlainName s.name) {d : Disk} (ht : d.IsTree) {x : Place}
    (hx : x ∈ s.directory.trail d.home) : s.Input d x := by
  rw [directory_eq hn] at hx
  rcases mem_trail_join d.home (descends_directory hn) hx with hx | ⟨m, -, hm, rfl⟩
  · exact Or.inl hx
  · refine Or.inr fun kind hk => not_outputs_of_length (hk.isDiskName ht).toIsPlainName ?_
    have hshort := hm.length_le
    have hsteps : (Path.mk ["config", s.name]).steps.length ≤ 2 := List.length_filter_le ..
    simp only [place_directory hn, List.length_append, List.length_cons, List.length_nil]
    omega

theorem generate_agrees (hn : IsPlainName s.name) {d₀ : Disk} (ht : d₀.IsTree)
    (ho : ∀ o, s.overrideOn d₀ = .ok o →
      o.IsNormal s.workspace.kinds ∧ o.HasPlainVariants s.workspace.kinds) :
    Agrees (fun d₁ d₂ => s.HasInput d₀ d₁ ∧ s.HasInput d₀ d₂ ∧ SameOn (s.Input d₀) d₁ d₂) s.generate
      fun _ d₁ d₂ => d₁ = d₂ := by
  have hI : ∀ d, s.HasInput d₀ d → d.IsTree ∧ d.home = d₀.home := fun d hd =>
    ⟨hd.stands.tree, hd.stands.home_eq⟩
  have hread : Confined ⟨fun _ => False, fun _ => False, s.Input d₀, True⟩ (s.HasInput d₀)
      s.readOverride fun o d => s.HasInput d₀ d ∧ s.overrideOn d₀ = .ok o :=
    (readOverride_confined fun _ d₁ d₂ h₁ h₂ _ => h₁.override.trans h₂.override.symm).post
      fun o d hd => ⟨hd.1, hd.1.override ▸ hd.2⟩
  have hlist : Confined ⟨fun _ => False, fun _ => False, s.Input d₀, True⟩ (s.HasInput d₀)
      (Run.query (·.listing s.directory)) fun children d => s.HasInput d₀ d ∧
        d.listing s.directory = .ok children :=
    listing_confined hI (fun x hx => input_trail hn ht hx) fun name => Or.inr fun kind hk =>
      not_outputs_of_length (hk.isDiskName ht).toIsPlainName (by simp)
  rw [generate_eq]
  refine (hread.agrees trivial).bind fun o => ?_
  by_cases hoverride : s.overrideOn d₀ = .ok o
  · obtain ⟨hnormal, hplain⟩ := ho o hoverride
    have hscope := @siteScope_changing _ _ ht _ hoverride hnormal True fun _ => hplain
    refine ((hlist.agrees trivial).imp (fun d₁ d₂ hd => ⟨hd.2.1.1, hd.2.2.1, hd.1⟩)
      fun _ _ _ hd => hd).bind fun children => ?_
    intro w₁ w₂ hw
    obtain ⟨hready₁, hnames, hnodup, hsettled, hamong, haccepted⟩ := listing_ready hw.2.1.1 hw.2.1.2
    obtain ⟨hready₂, -⟩ := listing_ready hw.2.2.1 hw.2.2.2
    have hdevices := (@processEach_agrees d₀.home s o hn hnormal hplain children hnames hnodup).ends
      (processEach_confined hn hscope.toDevicesScope hamong)
      fun d₁ d₂ hd => ⟨hd.1.toMaking, hd.2.1.toMaking⟩
    refine (hdevices.bind fun devices => ?_) w₁ w₂ ⟨hready₁, hready₂, hw.1.mono hsettled⟩
    have hfinish : s.Made (s.HasDevice d₀) devices → Agrees
        (fun d₁ d₂ => SameOn (fun _ => True) d₁ d₂ ∧ Stands d₀.home s.directory d₁ ∧
          Stands d₀.home s.directory d₂) (s.finish o devices) fun _ d₁ d₂ => d₁ = d₂ := fun hmade =>
      ((finish_confined haccepted hscope hmade).agrees trivial).imp (fun d₁ d₂ hd => ⟨hd.2.1, hd.2.2, hd.1⟩)
        fun _ d₁ d₂ hd => hd.2.1.tree.ext hd.2.2.tree hd.1.home fun q => hd.1.find? q trivial
    exact (Agrees.of_pre hfinish).imp (fun d₁ d₂ hd => ⟨⟨hd.1, hd.2.1.1, hd.2.2.1⟩, hd.2.1.2⟩)
      fun _ _ _ hd => hd
  · exact fun w₁ w₂ hw => absurd hw.2.1.2 hoverride

/-- **Generating again**. On two disks that are the same except in the outputs of the devices of a site,
generating it fails with the same error, or gives the same summary and leaves the same disk. -/
theorem generate_again (s : Site) (w₁ w₂ : World) (hn : IsPlainName s.name)
    (h₁ : Stands w₁.disk.home s.workspace.root w₁.disk)
    (h₂ : Stands w₁.disk.home s.workspace.root w₂.disk)
    (hsame : ∀ q, (∀ kind, s.HasDevice w₁.disk kind →
      ¬Outputs w₁.disk.home (s.deviceDirectory kind) q) → w₁.disk.find? q = w₂.disk.find? q)
    (hc₁ : ∀ kind, s.HasDevice w₁.disk kind →
      Clearable w₁.disk.home (s.deviceDirectory kind) w₁.disk)
    (hc₂ : ∀ kind, s.HasDevice w₁.disk kind →
      Clearable w₁.disk.home (s.deviceDirectory kind) w₂.disk)
    (ho : ∀ o, s.overrideOn w₁.disk = .ok o →
      o.IsNormal s.workspace.kinds ∧ o.HasPlainVariants s.workspace.kinds) :
    (∃ e, (s.generate.on w₁).1 = .error e ∧ (s.generate.on w₂).1 = .error e) ∨
      ∃ summary, (s.generate.on w₁).1 = .ok summary ∧ (s.generate.on w₂).1 = .ok summary ∧
        (s.generate.on w₁).2.disk = (s.generate.on w₂).2.disk := by
  have hinput : SameOn (s.Input w₁.disk) w₁.disk w₂.disk := by
    refine ⟨h₂.home_eq.symm, fun q hq => ?_⟩
    rcases hq with hq | hq
    · rw [h₁.leads.onTrail q hq, h₂.leads.onTrail q (by rwa [h₂.home_eq])]
    · exact hsame q hq
  have hshort : ∀ name, s.Input w₁.disk (s.directory.place w₁.disk.home ++ [name]) := fun name =>
    Or.inr fun kind hk => not_outputs_of_length (hk.isDiskName h₁.tree).toIsPlainName (by simp)
  have hdevices : ∀ kind, s.HasDevice w₂.disk kind ↔ s.HasDevice w₁.disk kind := fun kind => by
    rw [HasDevice, HasDevice, h₂.home_eq, hinput.find? _ (hshort kind)]
  have hoverride : s.overrideOn w₂.disk = s.overrideOn w₁.disk := by
    have htrail : ∀ x ∈ s.overridePath.trail w₁.disk.home, s.Input w₁.disk x := fun x hx => by
      rcases mem_trail_child _ isPlainName_override hx with hx | rfl
      · exact input_trail hn h₁.tree hx
      · exact hshort _
    rw [overrideOn, overrideOn, hasFile_congr h₁.tree.noLink hinput htrail,
      readText_congr h₁.tree.noLink hinput htrail]
  have hw₁ : s.HasInput w₁.disk w₁.disk := ⟨h₁, fun _ => Iff.rfl, rfl, hc₁⟩
  have hw₂ : s.HasInput w₁.disk w₂.disk :=
    ⟨h₂, hdevices, hoverride, fun kind hk => hc₂ kind ((hdevices kind).mp hk)⟩
  obtain ⟨hr, hd⟩ := generate_agrees hn h₁.tree ho w₁ w₂ ⟨hw₁, hw₂, hinput⟩
  cases h : (s.generate.on w₁).1 with
  | error e => exact Or.inl ⟨e, rfl, by rw [← hr, h]⟩
  | ok summary => exact Or.inr ⟨summary, rfl, by rw [← hr, h], hd summary h⟩

/-- The disk of a small site whose device has a file from an earlier run. -/
def usedDisk : Disk :=
  (smallDisk.insert ["w", "config", "a", "twins", "config"] .directory).insert
    ["w", "config", "a", "twins", "config", "old.json"] (.file "[1]".toUTF8)

theorem generate_again_small :
    (∃ e, (small.generate.on ⟨smallDisk, []⟩).1 = .error e ∧
        (small.generate.on ⟨usedDisk, []⟩).1 = .error e) ∨
      ∃ summary, (small.generate.on ⟨smallDisk, []⟩).1 = .ok summary ∧
        (small.generate.on ⟨usedDisk, []⟩).1 = .ok summary ∧
        (small.generate.on ⟨smallDisk, []⟩).2.disk = (small.generate.on ⟨usedDisk, []⟩).2.disk := by
  have hkind : ∀ kind, small.HasDevice smallDisk kind → kind = "twins" := fun kind hk => by
    simpa [small] using hk.1
  refine generate_again small ⟨smallDisk, []⟩ ⟨usedDisk, []⟩ (by decide) (by decide +kernel)
    (by decide +kernel) (fun q hq => ?_) (fun kind hk => ?_) (fun kind hk => ?_) fun o h => ?_
  · have hnot : ¬["w", "config", "a", "twins", "config"] <+: q := fun h =>
      hq "twins" ⟨by decide, by decide +kernel⟩ (Or.inl h)
    have hne : ∀ m, ["w", "config", "a", "twins", "config"] ++ m ≠ q := fun m h =>
      hnot ⟨m, h⟩
    exact (((find?_insert _ _ q _ (by simp)).trans (if_neg (hne ["old.json"]))).trans
      ((find?_insert smallDisk _ q _ (by simp)).trans (if_neg (hne [])))).symm
  · obtain rfl := hkind kind hk
    decide +kernel
  · obtain rfl := hkind kind hk
    decide +kernel
  · obtain rfl := Except.ok.inj (overrideOn_small.symm.trans h)
    exact ⟨Override.isNormal_empty _, Override.hasPlainVariants_empty _⟩

end Site

end SiteGen
