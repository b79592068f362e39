import SiteGen.Proofs.Site.Stock

/-!
# What the devices of a site are made of

* `Site.Furnished`: a device with the files of its variant over those of the root variant.
* `Site.settle_furnishes`, `Site.processDevice_furnishes`: making a device anew furnishes it.
* `Site.processEach_furnishes`: making all devices anew furnishes each of them.
-/

namespace SiteGen

open Disk SiteGen.Path Run Device

namespace Site

variable {home : Place} {s : Site} {o : Override} {d₀ d d' : Disk} {kind variant : String}

/-! ## Furnished devices -/

/-- Whether **no template** is about a name in the configuration of a device. -/
def Untouched (s : Site) (home : Place) (o : Override) (kind : String) (m : List String) : Prop :=
  ∀ ts, o.templates kind = .ok (some ts) → ∀ t ∈ ts,
    ¬t.Touches home ((s.deviceDirectory kind).join ⟨[configName]⟩)
      ((s.deviceDirectory kind).place home ++ configName :: m)

/-- Whether a device is **furnished** with the files of its variant: its tests, and all in its
configuration that no template is about. -/
def Furnished (s : Site) (o : Override) (kind : String) (d₀ d : Disk) : Prop :=
  ∃ variant, Chooses o kind variant ∧ s.ShortFiles d₀ kind variant ∧
    (∀ m, d.find? ((s.deviceDirectory kind).place d₀.home ++ testsName :: m) =
      s.filesOf d₀ kind variant (testsName :: m)) ∧
    ∀ m, s.Untouched d₀.home o kind m →
      d.find? ((s.deviceDirectory kind).place d₀.home ++ configName :: m) =
        s.filesOf d₀ kind variant (configName :: m)

/-- Whether what is given is **the directory of the tests**, if it is there and its path is not too long. -/
def GivesTests (s : Site) (kind : String) (home : Place) (tests : Option Path) (d : Disk) : Prop :=
  ∀ t, t ∈ tests ↔ t = (s.deviceDirectory kind).join ⟨[testsName]⟩ ∧ t.isLong = false ∧
    d.find? ((s.deviceDirectory kind).place home ++ [testsName]) = some .directory

theorem Furnished.congr (h : s.Furnished o kind d₀ d)
    (hsame : SameOn (Outputs d₀.home (s.deviceDirectory kind)) d' d) : s.Furnished o kind d₀ d' := by
  obtain ⟨variant, hchosen, hshort, htests, hconfig⟩ := h
  refine ⟨variant, hchosen, hshort, fun m => ?_, fun m hm => ?_⟩
  · rw [hsame.find? _ (Or.inr ⟨m, by simp⟩), htests]
  · rw [hsame.find? _ (Or.inl ⟨m, by simp⟩), hconfig m hm]

theorem GivesTests.congr {tests : Option Path} (h : s.GivesTests kind home tests d)
    (hsame : SameOn (Outputs home (s.deviceDirectory kind)) d' d) :
    s.GivesTests kind home tests d' := by
  intro t
  rw [h t, hsame.find? _ (Or.inr (List.prefix_refl _))]

theorem Furnished.transfer (hn : IsPlainName s.name) (hk : IsPlainName kind)
    (hvariant : ∀ v, o.variant kind = .ok (some v) → IsPlainName v)
    (h : s.Furnished o kind d d') (hsame : SameOn (fun q => ¬s.directory.place d.home <+: q) d d₀) :
    s.Furnished o kind d₀ d' := by
  obtain ⟨variant, hchosen, hshort, htests, hconfig⟩ := h
  have hfiles := filesOf_congr hn hk (Chooses.isPlainName hchosen hvariant) hsame
  rw [hsame.home, hfiles] at htests hconfig
  rw [ShortFiles, hfiles] at hshort
  exact ⟨variant, hchosen, hshort, htests, hconfig⟩

/-! ## Expanding templates -/

/-- The scope of a device of which only what its templates are about may be changed. -/
def expanding (home : Place) (base : Path) (templates : List Template) : Scope where
  writes q := Under home base configName q ∧
    ∃ t ∈ templates, t.Touches home (base.join ⟨[configName]⟩) q
  rewrites _ := False
  reads _ := True
  blind := True

/-- What comes of looking for the tests of a device. -/
theorem lookForTests_ends {base : Path} (hd : Stands home base d) :
    Ends (· = d) (do
      if ← Run.inspect (·.hasDirectory (base.join ⟨[testsName]⟩)) then
        pure (some (base.join ⟨[testsName]⟩))
      else pure none) fun tests d' => d' = d ∧ ∀ t, t ∈ tests ↔ t = base.join ⟨[testsName]⟩ ∧
        t.isLong = false ∧ d.find? (base.place home ++ [testsName]) = some .directory := by
  have hlook : d.hasDirectory (base.join ⟨[testsName]⟩) = true ↔ (base.join ⟨[testsName]⟩).isLong = false ∧
      d.find? (base.place home ++ [testsName]) = some .directory := by
    rw [hasDirectory_child hd.tree hd.leads isDiskName_tests, hd.home_eq, Bool.and_eq_true, Bool.not_eq_true',
      any_isDirectory_iff]
  refine (Ends.inspect _).bind fun b => .ite (fun hb => .pure ?_) fun hb => .pure ?_
  · rintro d' ⟨rfl, hdir⟩
    refine ⟨rfl, fun t => ⟨?_, ?_⟩⟩
    · rintro ⟨⟩
      exact ⟨rfl, hlook.mp (hdir.trans hb)⟩
    · rintro ⟨rfl, -⟩
      rfl
  · rintro d' ⟨rfl, hdir⟩
    refine ⟨rfl, fun t => ⟨nofun, ?_⟩⟩
    rintro ⟨rfl, hfound⟩
    exact absurd (hdir.symm.trans (hlook.mpr hfound)) hb

theorem expandTemplates_ends {device : Device} (hd : Stands home device.directory d)
    {templates : List Template} (h : ∀ t ∈ templates, t.Fits) :
    Ends (· = d) (device.expandAll templates) fun _ d' => Stands home device.directory d' ∧
      SameOn (fun q => ¬(expanding home device.directory templates).writes q) d' d := by
  have hexpand := @expandAll_confined (expanding home device.directory templates) home device
    ⟨fun _ _ => trivial, fun _ _ => trivial⟩ templates h fun q hq ht => ⟨hq, ht⟩
  refine (hexpand.keeps (d := d) fun q hq => ⟨hq, id⟩).imp ?_ fun _ _ hd => hd
  rintro _ rfl
  exact ⟨hd, SameOn.refl _ _⟩

theorem furnished_of_filled (hchosen : Chooses o kind variant) (hshort : s.ShortFiles d₀ kind variant)
    (hfilled : Filled (s.filesOf d₀ kind variant) d₀.home (s.deviceDirectory kind) d)
    (hsame : ∀ q, (∀ ts, o.templates kind = .ok (some ts) →
      ¬(expanding d₀.home (s.deviceDirectory kind) ts).writes q) → d'.find? q = d.find? q) :
    s.Furnished o kind d₀ d' := by
  refine ⟨variant, hchosen, hshort, fun m => ?_, fun m hm => ?_⟩
  · rw [hsame _ fun ts _ hwrites => ?_, hfilled testsName (by simp)]
    exact not_under_of_under (a := configName) (b := testsName) (by decide) hwrites.1 ⟨m, by simp⟩
  · rw [hsame _ fun ts hts hwrites => ?_, hfilled configName (by simp)]
    obtain ⟨-, t, ht, htouches⟩ := hwrites
    exact hm ts hts t ht htouches

/-- A device that is stocked **is furnished** when its templates have been expanded. -/
theorem settle_furnishes (htemplates : ∀ ts, o.templates kind = .ok (some ts) → ∀ t ∈ ts, t.Fits)
    (hvariant : ∀ v, o.variant kind = .ok (some v) → IsPlainName v) :
    Ends (fun d => s.Stocked o kind variant d₀ d) (s.settle kind o variant) fun tests d =>
      s.Furnished o kind d₀ d ∧ s.GivesTests kind d₀.home tests d := by
  unfold settle
  refine (Ends.ofResult _).bind fun templates => .of_pre fun ho => ?_
  intro w tests w' hw hon
  have hstands := hw.stands
  obtain ⟨hfilled, hshort⟩ := hw.filled (Chooses.isPlainName hw.chosen hvariant)
  cases templates with
  | none =>
    obtain ⟨hd, htests⟩ := lookForTests_ends hstands w tests w' rfl hon
    refine ⟨furnished_of_filled hw.chosen hshort hfilled fun q _ => by rw [hd], fun t => ?_⟩
    rw [htests t, hd]
  | some ts =>
    have hlook : Ends (fun d => Stands d₀.home (s.deviceDirectory kind) d ∧ SameOn
          (fun q => ¬(expanding d₀.home (s.deviceDirectory kind) ts).writes q) d w.disk) (do
        if ← Run.inspect (·.hasDirectory ((s.deviceDirectory kind).join ⟨[testsName]⟩)) then
          pure (some ((s.deviceDirectory kind).join ⟨[testsName]⟩))
        else pure none) fun tests d => SameOn
          (fun q => ¬(expanding d₀.home (s.deviceDirectory kind) ts).writes q) d w.disk ∧
          s.GivesTests kind d₀.home tests d := by
      intro w₁ tests w₂ hw hon
      obtain ⟨hd, htests⟩ := lookForTests_ends hw.1 w₁ tests w₂ rfl hon
      rw [GivesTests, hd]
      exact ⟨hw.2, htests⟩
    obtain ⟨hsame, htests⟩ := ((@expandTemplates_ends d₀.home w.disk
      ⟨kind, variant, s.deviceDirectory kind⟩ hstands ts (htemplates ts ho)).seq fun _ => hlook)
      w tests w' rfl hon
    exact ⟨furnished_of_filled hw.chosen hshort hfilled fun q hq => hsame.find? q (hq ts ho), htests⟩

/-! ## Making devices anew -/

/-- **Making a device anew** furnishes it. -/
theorem processDevice_furnishes (hn : IsPlainName s.name) (hk : IsPlainName kind)
    (hd₀ : Stands d₀.home (s.deviceDirectory kind) d₀)
    (htemplates : ∀ ts, o.templates kind = .ok (some ts) → ∀ t ∈ ts, t.Fits)
    (hvariant : ∀ v, o.variant kind = .ok (some v) → IsPlainName v) :
    Ends (· = d₀) (s.processDevice kind o) fun tests d =>
      s.Furnished o kind d₀ d ∧ s.GivesTests kind d₀.home tests d := by
  rw [processDevice_stock]
  exact (stock_ends hn hk hd₀).bind fun variant => settle_furnishes htemplates hvariant

theorem not_outputs_of_ne (hk : IsPlainName kind) {name : String} (hname : IsPlainName name)
    (hne : kind ≠ name) {q : Place} (h : Outputs home (s.deviceDirectory kind) q) :
    ¬Outputs home (s.deviceDirectory name) q := by
  intro h'
  obtain ⟨names, rfl, hm⟩ := (outputs_iff hk).mp h
  obtain ⟨names', heq, hm'⟩ := (outputs_iff hname).mp h'
  obtain rfl := List.append_cancel_left heq
  have hhead : names.head? = some kind := by
    rcases hm with ⟨l, rfl⟩ | ⟨l, rfl⟩ <;> rfl
  have hhead' : names.head? = some name := by
    rcases hm' with ⟨l, rfl⟩ | ⟨l, rfl⟩ <;> rfl
  exact hne (Option.some.inj (hhead.symm.trans hhead'))

/-- What holds when the devices among what is in the directory of a site have been made. -/
structure Equipped (s : Site) (o : Override) (children : List (String × Entry)) (d₀ : Disk)
    (devices : List (String × Option Path)) (d : Disk) : Prop where
  stands : Stands d₀.home s.directory d
  same : SameOn (fun q => ¬s.directory.place d₀.home <+: q) d d₀
  complete : ∀ child ∈ children, s.IsDevice child → child.1 ∈ devices.map (·.1)
  names : (devices.map (·.1)).Sublist (children.map (·.1))
  furnished : ∀ device ∈ devices, IsDiskName device.1 ∧ s.Furnished o device.1 d₀ d ∧
    s.GivesTests device.1 d₀.home device.2 d

namespace Equipped

variable {child : String × Entry} {children : List (String × Entry)}
  {devices : List (String × Option Path)}

theorem skip (h : s.Equipped o children d₀ devices d) (hnot : ¬s.IsDevice child) :
    s.Equipped o (child :: children) d₀ devices d := by
  refine ⟨h.stands, h.same, fun c hc hdevice => ?_, h.names.cons _, h.furnished⟩
  rcases List.mem_cons.mp hc with rfl | hc
  · exact absurd hdevice hnot
  · exact h.complete c hc hdevice

theorem add (h : s.Equipped o children d₀ devices d) (hname : IsDiskName child.1) {tests : Option Path}
    (hfurnished : s.Furnished o child.1 d₀ d) (hgives : s.GivesTests child.1 d₀.home tests d) :
    s.Equipped o (child :: children) d₀ ((child.1, tests) :: devices) d := by
  refine ⟨h.stands, h.same, fun c hc hdevice => ?_, h.names.cons_cons _, fun device hm => ?_⟩
  · rcases List.mem_cons.mp hc with rfl | hc
    · exact List.mem_cons_self
    · exact List.mem_cons_of_mem _ (h.complete c hc hdevice)
  · rcases List.mem_cons.mp hm with rfl | hm
    · exact ⟨hname, hfurnished, hgives⟩
    · exact h.furnished device hm

end Equipped

/-- The scope of the devices of some kinds. -/
def making (s : Site) (home : Place) (K : String → Prop) : Scope where
  writes q := ∃ kind, K kind ∧ Outputs home (s.deviceDirectory kind) q
  rewrites _ := False
  reads _ := True
  blind := False

theorem devicesScope_making {K : String → Prop} (hK : ∀ kind, K kind → IsPlainName kind)
    (hfits : ∀ kind, K kind → ∀ ts, o.templates kind = .ok (some ts) → ∀ t ∈ ts, t.Fits) :
    DevicesScope (s.making home K) home s o K := by
  refine ⟨fun kind hk => ?_, fun kind hk => ?_, ?_⟩
  · exact ⟨fun q hq => ⟨kind, hk, hq⟩, fun _ _ => trivial, fun _ _ => trivial, fun _ _ => trivial⟩
  · exact ⟨hfits kind hk, fun v _ => Or.inr ⟨id, fun _ => trivial⟩⟩
  · rintro name ⟨kind, hk, hout⟩
    exact not_outputs_of_length (hK kind hk) (by simp) hout

/-- Making **one device** anew furnishes it, and changes nothing but its outputs. -/
theorem processFirst_furnishes (hn : IsPlainName s.name) (ho : o.IsNormal s.workspace.kinds)
    (hv : o.HasPlainVariants s.workspace.kinds) {name : String} {e : Entry}
    {rest : List (String × Entry)} (hname : IsDiskName name) (hdevice : s.IsDevice (name, e)) :
    Ends (fun d => Making d₀.home s ((name, e) :: rest) d ∧
        SameOn (fun q => ¬s.directory.place d₀.home <+: q) d d₀)
      (s.processDevice name o) fun tests d => (Making d₀.home s rest d ∧
        SameOn (fun q => ¬s.directory.place d₀.home <+: q) d d₀) ∧
        s.Furnished o name d₀ d ∧ s.GivesTests name d₀.home tests d := by
  have hplain := hname.toIsPlainName
  have hmem : name ∈ s.workspace.kinds := by simpa using hdevice.2
  have hfits := fun ts (h : o.templates name = .ok (some ts)) => ho.fits hmem h
  have hscope := @devicesScope_making d₀.home s o (· = name)
    (fun _ h => h ▸ hplain) fun _ h => h ▸ hfits
  rintro w tests w' ⟨hmaking, hsame⟩ hon
  have hhome := hmaking.stands.home_eq
  have hstands := stands_deviceDirectory hmaking.stands hname
    (hmaking.there _ List.mem_cons_self hdevice.1)
  obtain ⟨⟨hstands', -⟩, hkeep⟩ := ((processDevice_confined hn hplain (hscope.device name rfl)
    (hscope.allowed name rfl)).keeps (d := w.disk)
    (R := fun q => ¬Outputs d₀.home (s.deviceDirectory name) q)
    fun q hq => ⟨fun ⟨_, hkind, hout⟩ => hq (hkind ▸ hout), id⟩) w tests w'
    ⟨hstands, SameOn.refl _ _⟩ hon
  obtain ⟨hfurnished, hgives⟩ := @processDevice_furnishes s o w.disk name hn hplain
    (hhome.symm ▸ hstands) hfits (hv name hmem) w tests w' rfl hon
  refine ⟨⟨⟨stands_directory hplain hstands', fun child hc hdir => ?_⟩, ?_⟩, ?_, hhome ▸ hgives⟩
  · rw [hkeep.find? _ (not_outputs_of_length hplain (by simp))]
    exact hmaking.there child (List.mem_cons_of_mem _ hc) hdir
  · exact (hkeep.mono fun q hq hout => hq (in_directory_of_outputs hplain hout)).trans hsame
  · exact hfurnished.transfer hn hplain (hv name hmem) (hhome ▸ hsame)

/-- Making the other devices anew **leaves a device** as it is. -/
theorem processEach_keeps (hn : IsPlainName s.name) (ho : o.IsNormal s.workspace.kinds) {name : String}
    (hname : IsDiskName name) {children : List (String × Entry)}
    (hnames : ∀ child ∈ children, IsDiskName child.1) (hnot : name ∉ children.map (·.1)) (d₁ : Disk) :
    Ends (fun d => Making d₀.home s children d ∧
        SameOn (Outputs d₀.home (s.deviceDirectory name)) d d₁) (s.processEach o children) fun _ d =>
      SameOn (Outputs d₀.home (s.deviceDirectory name)) d d₁ := by
  have hothers : AmongKinds s (fun kind => (IsDiskName kind ∧ kind ∈ s.workspace.kinds) ∧
      kind ≠ name) children := fun child hc => by
    have hchild := hnames child hc
    refine ⟨hchild, fun _ hkind => ⟨⟨hchild, by simpa using hkind⟩, ?_⟩⟩
    rintro rfl
    exact hnot (List.mem_map.mpr ⟨child, hc, rfl⟩)
  have hconfined := processEach_confined hn (@devicesScope_making d₀.home s o _
    (fun kind hk => hk.1.1.toIsPlainName) fun kind hk ts => ho.fits hk.1.2) hothers
  refine (hconfined.keeps fun q hq => ⟨?_, id⟩).post fun _ _ hd => hd.2
  rintro ⟨kind, hk, hout⟩
  exact not_outputs_of_ne hk.1.1.toIsPlainName hname.toIsPlainName hk.2 hout hq

/-- **Making all devices anew** furnishes each of them. -/
theorem processEach_furnishes (hn : IsPlainName s.name) (ho : o.IsNormal s.workspace.kinds)
    (hv : o.HasPlainVariants s.workspace.kinds) :
    ∀ {children : List (String × Entry)}, (∀ child ∈ children, IsDiskName child.1) →
      (children.map (·.1)).Nodup →
      Ends (fun d => Making d₀.home s children d ∧
          SameOn (fun q => ¬s.directory.place d₀.home <+: q) d d₀)
        (s.processEach o children) fun devices d => s.Equipped o children d₀ devices d
  | [], _, _ => .pure fun d hd => ⟨hd.1.stands, hd.2, by simp, by simp, by simp⟩
  | (name, e) :: rest, hnames, hnodup => by
    obtain ⟨hnot, hnodup⟩ := List.nodup_cons.mp hnodup
    have hrestn : ∀ child ∈ rest, IsDiskName child.1 := fun child hc =>
      hnames child (List.mem_cons_of_mem _ hc)
    have hrest := processEach_furnishes hn ho hv hrestn hnodup
    have hskip : ¬s.IsDevice (name, e) → Ends (fun d => Making d₀.home s ((name, e) :: rest) d ∧
          SameOn (fun q => ¬s.directory.place d₀.home <+: q) d d₀)
        (s.processEach o rest) fun devices d => s.Equipped o ((name, e) :: rest) d₀ devices d :=
      fun hnot => hrest.imp (fun d hd => ⟨⟨hd.1.stands, fun child hc =>
        hd.1.there child (List.mem_cons_of_mem _ hc)⟩, hd.2⟩) fun devices d hd => hd.skip hnot
    unfold processEach
    refine .ite (fun he => hskip fun h => ?_) fun he => .ite (fun hkind => ?_) fun hkind => ?_
    · simp [h.1] at he
    · exact (Ends.warn _).seq fun _ => hskip fun h => absurd h.2 (by simpa using hkind)
    · have hname := hnames _ List.mem_cons_self
      have hdevice : s.IsDevice (name, e) := ⟨by simpa using he, by simpa using hkind⟩
      refine (processFirst_furnishes hn ho hv hname hdevice).bind fun tests => ?_
      refine Ends.bind (J := fun others d => s.Equipped o rest d₀ others d ∧
        s.Furnished o name d₀ d ∧ s.GivesTests name d₀.home tests d) ?_ fun others =>
        .pure fun d hd => hd.1.add hname hd.2.1 hd.2.2
      rintro w others w' ⟨hw, hfurnished, hgives⟩ hon
      have hsame := processEach_keeps hn ho hname hrestn hnot w.disk w others w'
        ⟨hw.1, SameOn.refl _ _⟩ hon
      exact ⟨hrest w others w' hw hon, hfurnished.congr hsame, hgives.congr hsame⟩

end Site

end SiteGen
