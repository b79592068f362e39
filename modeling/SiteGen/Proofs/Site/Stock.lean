import SiteGen.Proofs.Device.Variants
import SiteGen.Proofs.Site.Frame
import SiteGen.Proofs.Template.Upheld

/-!
# A device before its templates

Making a device anew first removes what an earlier run has made and copies the files of the variant, and only
then asks for the templates.

* `Site.filesOf`: the files of a variant over those of the root variant.
* `Site.stock`: the first half of making a device anew; `Site.settle` is the second one.
* `Site.stock_ends`: when the templates are asked for, the device is filled with the files of its variant.
* `Site.processEach_stays`: whatever the templates are, the directories in a site stay while its devices are
  made.
-/

namespace SiteGen

open Disk SiteGen.Path Run Device

namespace Site

variable {home : Place} {s : Site} {o : Override} {d₀ d d' : Disk} {kind variant : String}

/-! ## The files of a variant -/

/-- Where a **variant** of a kind of device is. -/
def variantPlace (s : Site) (home : Place) (kind variant : String) : Place :=
  ((variantsDirectory s.workspace.root kind).join (Path.ofText variant)).place home

/-- **The files of a device** of a kind with a variant, by what is in the library. -/
def filesOf (s : Site) (d : Disk) (kind variant : String) : Picture :=
  overlay d (s.variantPlace d.home kind variant) (s.variantPlace d.home kind rootVariant)

theorem variantPlace_eq (hk : IsPlainName kind) (hv : IsPlainName variant) :
    s.variantPlace home kind variant =
      s.workspace.root.place home ++ [kind ++ "_variants", variant] := by
  have hkv := isPlainName_variants hk
  rw [variantPlace, variantsDirectory, hkv.ofText, hv.ofText, place_child home hv, place_child home hkv,
    List.append_assoc]
  rfl

theorem not_in_directory (hn : IsPlainName s.name) (hk : IsPlainName kind) (hv : IsPlainName variant)
    (m : List String) : ¬s.directory.place home <+: s.variantPlace home kind variant ++ m := by
  rw [variantPlace_eq hk hv, place_directory hn, List.append_assoc, List.prefix_append_right_inj]
  exact fun h => variants_ne_sites kind (List.cons_prefix_cons.mp h).1.symm

/-- Whether **no file of a device** of a kind with a variant has a path that is too long. -/
def ShortFiles (s : Site) (d : Disk) (kind variant : String) : Prop :=
  ∀ names content, s.filesOf d kind variant names = some (.file content) →
    ((s.deviceDirectory kind).join ⟨names⟩).isLong = false

/-- **The files of a device** depend only on what is outside the directory of the site. -/
theorem filesOf_congr (hn : IsPlainName s.name) (hk : IsPlainName kind) (hv : IsPlainName variant)
    (hsame : SameOn (fun q => ¬s.directory.place d.home <+: q) d d') :
    s.filesOf d kind variant = s.filesOf d' kind variant := by
  have hpicture : ∀ v, IsPlainName v → picture d (s.variantPlace d.home kind v) =
      picture d' (s.variantPlace d.home kind v) := fun v hv =>
    picture_congr fun m => hsame.find? _ (not_in_directory hn hk hv m)
  unfold filesOf overlay
  rw [hpicture variant hv, hpicture rootVariant isDiskName_root.toIsPlainName, hsame.home]

theorem Chooses.isPlainName (h : Chooses o kind variant)
    (hvariant : ∀ v, o.variant kind = .ok (some v) → IsPlainName v) : IsPlainName variant := by
  rcases h with h | ⟨-, rfl⟩
  · exact hvariant _ h
  · exact isDiskName_root.toIsPlainName

theorem in_directory_of_outputs (hk : IsPlainName kind) {q : Place}
    (h : Outputs home (s.deviceDirectory kind) q) : s.directory.place home <+: q := by
  obtain ⟨names, rfl, -⟩ := (outputs_iff hk).mp h
  exact List.prefix_append _ _

/-! ## The two halves -/

/-- What making a device anew does **before its templates**: what an earlier run has made is removed, and the
files of the chosen variant are copied. -/
def stock (s : Site) (kind : String) (o : Override) : Run String := do
  (Device.ofSite kind s.directory).clear
  s.supply kind o

theorem processDevice_stock (s : Site) (kind : String) (o : Override) :
    s.processDevice kind o = (do
      let variant ← s.stock kind o
      s.settle kind o variant) := by
  rw [processDevice_eq, stock, refill]
  exact (bind_assoc _ _ _).symm

/-! ## Stocking a device -/

/-- Copying all files of a device whose outputs are gone **fills** it. -/
theorem copyAll_fills (hn : IsPlainName s.name) (hk : IsPlainName kind)
    (hd₀ : Stands d₀.home (s.deviceDirectory kind) d₀)
    (hgone : ∀ x, Outputs d₀.home (s.deviceDirectory kind) x → d₀.find? x = none)
    (haway : Away d₀.home (s.deviceDirectory kind)) (hvariant : IsPlainName variant) :
    Ends (· = d₀) ((Device.mk kind variant (s.deviceDirectory kind)).copyAll s.workspace.root)
      fun _ d => Stands d₀.home (s.deviceDirectory kind) d ∧
        Filled (s.filesOf d₀ kind variant) d₀.home (s.deviceDirectory kind) d ∧
        s.ShortFiles d₀ kind variant := by
  have hscope : DeviceScope (own d₀.home (s.deviceDirectory kind)) d₀.home s kind :=
    ⟨fun _ hx => hx, fun _ _ => trivial, fun _ _ => trivial, fun _ _ => trivial⟩
  have hsource := source_variant hn hk hscope haway hvariant
  have hroot := source_variant hn hk hscope haway isDiskName_root.toIsPlainName
  rw [isDiskName_root.toIsPlainName.ofText] at hroot
  let device : Device := ⟨kind, variant, s.deviceDirectory kind⟩
  have hfiles : s.filesOf d₀ kind variant =
      overlay d₀ ((device.variantDirectory s.workspace.root).place d₀.home)
        ((device.rootDirectory s.workspace.root).place d₀.home) := by
    rw [filesOf, variantPlace, variantPlace, isDiskName_root.toIsPlainName.ofText]
    rfl
  refine (@Device.copyAll_fills d₀.home d₀ device s.workspace.root hd₀
    (.of_gone hgone) haway hroot hsource).post fun _ d hd => ?_
  obtain ⟨hfilling, hfilled, hdir, hroom, hover, hshort⟩ := hd
  refine ⟨hfilling.stands, hfiles ▸ hfilled, fun names content hf => ?_⟩
  exact @isLong_of_overlay d₀ _ device _ names content hd₀.tree _ _ hdir hroom hover
    (fun hne => hshort fun h => hne (congrArg (place d₀.home) (variantDirectory_root h))) (hfiles ▸ hf)

/-- What holds of a device **before its templates**: a variant has been chosen, all but the outputs is as it
was, and these are the files of the variant. -/
structure Stocked (s : Site) (o : Override) (kind variant : String) (d₀ d : Disk) : Prop where
  chosen : Chooses o kind variant
  stands : Stands d₀.home (s.deviceDirectory kind) d
  same : SameOn (fun q => ¬Outputs d₀.home (s.deviceDirectory kind) q) d d₀
  filled : IsPlainName variant → Filled (s.filesOf d₀ kind variant) d₀.home (s.deviceDirectory kind) d ∧
    s.ShortFiles d₀ kind variant

theorem supply_ends (hn : IsPlainName s.name) (hk : IsPlainName kind)
    (hd₀ : Stands d₀.home (s.deviceDirectory kind) d₀)
    (hgone : ∀ x, Outputs d₀.home (s.deviceDirectory kind) x → d₀.find? x = none)
    (haway : Away d₀.home (s.deviceDirectory kind)) :
    Ends (· = d₀) (s.supply kind o) fun variant d => s.Stocked o kind variant d₀ d := by
  unfold supply
  have hchoose : Ends (· = d₀) (s.chooseVariant kind o) fun variant d =>
      d = d₀ ∧ Chooses o kind variant := by
    refine (@chooseVariant_confined (own d₀.home (s.deviceDirectory kind)) d₀.home s o (· = d₀) ?_ kind
      fun _ _ => trivial).toEnds
    rintro _ rfl
    exact ⟨hd₀.tree, rfl⟩
  refine hchoose.bind fun variant => .of_pre fun hchosen => ?_
  have hcopy : Ends (· = d₀)
      ((Device.mk kind variant (s.deviceDirectory kind)).copyAll s.workspace.root)
      fun _ d => s.Stocked o kind variant d₀ d := by
    rintro w a w' rfl hon
    -- copying stays in the outputs, also for a variant that is not in the library
    have hconfined := @copyAll_confined { own w.disk.home (s.deviceDirectory kind) with blind := False }
      w.disk.home ⟨kind, variant, s.deviceDirectory kind⟩
      ⟨⟨fun _ _ => trivial, fun _ _ => trivial⟩, fun _ hx => hx, haway⟩ s.workspace.root
      ⟨fun _ _ => trivial, False.elim⟩ ⟨fun _ _ => trivial, False.elim⟩
    obtain ⟨hstands, hsame⟩ := (hconfined.keeps (d := w.disk)
      (R := fun q => ¬Outputs w.disk.home (s.deviceDirectory kind) q) fun q hq => ⟨hq, id⟩)
      w a w' ⟨hd₀, SameOn.refl _ _⟩ hon
    exact ⟨hchosen, hstands, hsame, fun hvariant =>
      (copyAll_fills hn hk hd₀ hgone haway hvariant w a w' rfl hon).2⟩
  exact hcopy.seq fun _ => .pure fun _ hd => hd

/-- **Stocking a device** fills it with the files of its variant. -/
theorem stock_ends (hn : IsPlainName s.name) (hk : IsPlainName kind)
    (hd₀ : Stands d₀.home (s.deviceDirectory kind) d₀) :
    Ends (· = d₀) (s.stock kind o) fun variant d => s.Stocked o kind variant d₀ d := by
  have hclear := (@clear_confined (own d₀.home (s.deviceDirectory kind)) d₀.home s.workspace.root
    (Device.ofSite kind s.directory) _ (descends_deviceDirectory hn hk) (deviceDirectory_eq hn hk)
    (fun _ hx => hx) fun _ _ => trivial).keeps (d := d₀)
    (R := fun q => ¬Outputs d₀.home (s.deviceDirectory kind) q) fun _ hq => ⟨hq, id⟩
  unfold stock
  refine Ends.bind (hclear.imp (fun d hd => ?_) fun _ _ hd => hd) fun _ => ?_
  · subst hd
    exact ⟨hd₀, SameOn.refl _ _⟩
  · rintro w variant w' ⟨⟨ht, hhome, haway, hcleared⟩, hsame⟩ hon
    have hshort : (Device.ofSite kind s.directory).config.isLong = false := by
      cases hlong : (Device.ofSite kind s.directory).config.isLong with
      | false => rfl
      | true =>
        exact ((@supply_of_isLong (own d₀.home (s.deviceDirectory kind)) d₀.home s o kind hlong
          fun _ _ => trivial).toEnds w variant w' ⟨ht, hhome⟩ hon).elim
    obtain ⟨hgone, hlost⟩ := hcleared hshort
    by_cases h : Away d₀.home (s.deviceDirectory kind)
    · have hstands := haway h
      have hgone := hgone h
      obtain ⟨hchosen, hstands', hkeep, hfilled⟩ := @supply_ends s o w.disk kind hn hk (hhome.symm ▸ hstands)
        (hhome.symm ▸ hgone) (hhome.symm ▸ h) w variant w' rfl hon
      rw [hhome] at hstands' hkeep hfilled
      refine ⟨hchosen, hstands', hkeep.trans hsame, fun hvariant => ?_⟩
      rw [ShortFiles, ← filesOf_congr hn hk hvariant (hsame.mono fun q hq hout => hq ?_)]
      · exact hfilled hvariant
      · rw [hhome]
        exact in_directory_of_outputs hk hout
    · exact ((@supply_lost (own d₀.home (s.deviceDirectory kind)) d₀.home s o kind hk
        fun _ _ => trivial).toEnds w variant w' (hlost h) hon).elim

/-! ## Whatever the templates are -/

theorem settle_upholds (hdevice : d₀.Leads (s.deviceDirectory kind)) :
    Keeps (Upheld d₀) (s.settle kind o variant) := by
  unfold settle
  have hlook : ∀ tests : Path, Keeps (Upheld d₀) (do
      if ← Run.inspect (·.hasDirectory tests) then pure (some tests) else pure none) := fun _ =>
    (Keeps.inspect _).bind fun _ => .ite (fun _ => .pure _) fun _ => .pure _
  refine Keeps.ofResult_bind fun templates ho => ?_
  cases templates with
  | none => exact hlook _
  | some templates =>
    exact (@expandAll_upholds ⟨kind, variant, s.deviceDirectory kind⟩ d₀ hdevice templates
      fun t ht => Override.mem_templates ho ht).bind fun _ => hlook _

theorem processFirst_stays (hn : IsPlainName s.name) {name : String} {e : Entry}
    {rest : List (String × Entry)} (hname : IsDiskName name) (hdevice : s.IsDevice (name, e)) :
    Ends (Making home s ((name, e) :: rest)) (s.processDevice name o) fun _ d => Making home s rest d := by
  have hplain := hname.toIsPlainName
  rw [processDevice_stock]
  intro w tests w' hmaking hon
  have hhome := hmaking.stands.home_eq
  have hstands := stands_deviceDirectory hmaking.stands hname
    (hmaking.there _ List.mem_cons_self hdevice.1)
  have hthere : Ends (· = w.disk) (s.stock name o) fun _ d =>
      Stands home (s.deviceDirectory name) d ∧ Making home s rest d := by
    refine (stock_ends hn hplain (hhome.symm ▸ hstands)).post fun variant d hd => ?_
    have hstands' := hhome ▸ hd.stands
    refine ⟨hstands', stands_directory hplain hstands', fun child hc hdir => ?_⟩
    rw [hd.same.find? _ (hhome.symm ▸ not_outputs_of_length hplain (by simp))]
    exact hmaking.there child (List.mem_cons_of_mem _ hc) hdir
  have hsettle : ∀ variant, Ends (fun d => Stands home (s.deviceDirectory name) d ∧ Making home s rest d)
      (s.settle name o variant) fun _ d => Making home s rest d := by
    rintro variant w₁ tests w₂ ⟨hdevice, hmaking⟩ hon
    obtain ⟨ht, hhome, hdirs⟩ := (settle_upholds hdevice.leads).ends w₁ tests w₂ (.refl hdevice.tree) hon
    exact ⟨hmaking.stands.of_dirsStay ht hhome hdirs,
      fun child hc hdir => hdirs _ (hmaking.there child hc hdir)⟩
  exact hthere.seq hsettle w tests w' rfl hon

/-- **Making devices anew leaves the directories** of those that are still to be made. -/
theorem processEach_stays (hn : IsPlainName s.name) {after : List (String × Entry)} :
    ∀ {children : List (String × Entry)}, (∀ child ∈ children, IsDiskName child.1) →
      Ends (Making home s (children ++ after)) (s.processEach o children) fun _ d => Making home s after d
  | [], _ => .pure fun _ hd => hd
  | (name, e) :: rest, hnames => by
    have hrest := @processEach_stays hn after rest fun child hc => hnames child (List.mem_cons_of_mem _ hc)
    have hskip : Ends (Making home s ((name, e) :: rest ++ after)) (s.processEach o rest) fun _ d =>
        Making home s after d :=
      hrest.imp (fun d hd => ⟨hd.stands, fun child hc => hd.there child (List.mem_cons_of_mem _ hc)⟩)
        fun _ _ hd => hd
    unfold processEach
    refine .ite (fun _ => hskip) fun he => .ite (fun _ => (Ends.warn _).seq fun _ => hskip) fun hkind => ?_
    have hdevice : s.IsDevice (name, e) := ⟨by simpa using he, by simpa using hkind⟩
    exact (processFirst_stays hn (hnames _ List.mem_cons_self) hdevice).seq fun tests =>
      hrest.seq fun others => .pure fun _ hd => hd

end Site

end SiteGen
