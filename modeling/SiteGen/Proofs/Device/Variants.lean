import SiteGen.Proofs.Device.Overlay

/-!
# Whether the variants of a device can be copied

* `Device.copyRoot_succeeds`, `Device.copyVariant_succeeds`: copying the variants succeeds where there is
  room for what they have, and where the chosen one can be laid over the root variant.
* `Device.copyAll_fills`, `Device.copyAll_iff`: both together, for a device that is bare.
-/

namespace SiteGen

open Disk SiteGen.Path Run

namespace Device

variable {home : Place} {d₀ d₁ d : Disk} {device : Device} {library root v : Path}

/-! ## The root variant -/

theorem moveTests_succeeds {root : Place} (hroot : d₀.find? root = some .directory)
    (htests : d₀.find? (root ++ [testsName]) = some .directory)
    (hlong : (device.config.join ⟨[testsName]⟩).isLong = false) :
    Succeeds (Copied home device.directory d₀ root)
      (moveTree (device.config.join ⟨[testsName]⟩) device.tests) := by
  unfold moveTree
  refine (Succeeds.inspect _).bind (Ends.inspect _) fun b => .ite (fun hb => ?_) fun _ => ?_
  · rintro w ⟨hw, hany⟩
    rw [hb, hw.hasAny_tests] at hany
    cases hany
  · exact .change fun d hd => ⟨_, hd.1.rename_tests hroot htests hlong⟩

section Root

variable (hs : Stands home device.directory d₀) (hbare : Bare home device.directory d₀)
  (hp : Source (own home device.directory) home device.directory root)

include hs hbare hp

/-- **Copying the root variant** succeeds if it is there and there is room for it. -/
theorem copyRoot_succeeds
    (hroot : (variantsDirectory library device.kind).join ⟨[rootVariant]⟩ = root)
    (hdir : d₀.hasDirectory root = true)
    (hconfig : d₀.find? (device.directory.place home ++ [configName]) = some .directory)
    (hroom : HasRoomFor d₀ root device.config (root.place home)) :
    Succeeds (· = d₀) (device.copyRoot library) := by
  unfold copyRoot
  rw [hroot]
  obtain ⟨hleads, haccepted⟩ := leads_of_hasDirectory hs.tree.noLink hdir
  have hdirectory : d₀.find? (root.place home) = some .directory := hs.home_eq ▸ hleads.place
  refine (Succeeds.inspect _).bind (Ends.inspect _) fun b => .ite (fun hb => ?_) fun hb => ?_
  · rintro w ⟨rfl, hw⟩
    rw [← hw, hdir] at hb
    cases hb
  · have hcopy : Succeeds (· = d₀) (copyTree root device.config) := by
      refine (@copyTree_succeeds home device.directory root configName _ d₀ d₀ []
        (by simpa using isDiskName_config) (hp.apart trivial haccepted fun _ hx => Or.inl hx)
        hs.tree (shows_inConfig hdirectory) hleads hs.home_eq
        (paintable_inConfig hroom hbare hdirectory hconfig) hroom.short).pre ?_
      rintro _ rfl
      exact ⟨hs, SameOn.refl _ _, Painted.refl ..⟩
    refine (hcopy.pre fun _ hd => hd.1).seq ((copyRootTree_copies hs hbare hp hleads haccepted).imp
      (fun _ hd => hd.1) fun _ _ hd => hd.1) fun _ => ?_
    refine (Succeeds.inspect _).bind (Ends.inspect _) fun b => .ite (fun hb => ?_) fun _ => .pure _
    by_cases htests : d₀.find? (root.place home ++ [testsName]) = some .directory
    · exact (moveTests_succeeds hdirectory htests (hroom.isLong_tests htests)).pre fun _ hd => hd.1
    · rintro w ⟨hw, hlook⟩
      rw [hw.hasDirectory_tests hdirectory, hb, Bool.and_eq_true, any_isDirectory_iff] at hlook
      exact absurd hlook.2 htests

end Root

/-! ## The chosen variant -/

theorem LiesOver.paintable {base : Path} {variant root : Place} (h : LiesOver d₀ variant root)
    (hfilled : Filled (picture d₀ root) home base d) : Paintable (picture d₀ variant) home base d := by
  intro names e hshown
  obtain ⟨top, htop, m, rfl⟩ := top_of_picture hshown
  rw [hfilled top htop m]
  exact h _ e hshown

section Variant

variable (haway : Away home device.directory) (ht₀ : d₀.IsTree) (hhome : d₀.home = home)
  (hp : Source (own home device.directory) home device.directory v) (hleads : d₀.Leads v)

include ht₀ hhome hp hleads

theorem copyPart_succeeds {name : String} {e : Entry}
    (hf : d₀.find? (v.place home ++ [name]) = some e)
    (hpaintable : Paintable (picture d₀ (v.place home)) home device.directory d₁)
    (hshort : ShortPart d₀ device v (v.place home) name e) :
    Succeeds (Overlaying home device.directory (v.place home) d₀ d₁) (device.copyPart v name) := by
  have hname : IsDiskName name := ht₀.name _ _ (by rw [hf]; rfl)
  have hv : d₀.find? (v.place home) = some .directory := hhome ▸ hleads.place
  have hpart := hp.child hname
  have hplace : (v.join ⟨[name]⟩).place home = v.place home ++ [name] :=
    place_child home hname.toIsPlainName
  have hnames : ∀ n ∈ [configName, name], IsPlainName n := by
    simpa using ⟨isDiskName_config.toIsPlainName, hname.toIsPlainName⟩
  have hlook := fun d => @hasDirectory_part home d₀ d device v name ht₀ hp hleads hhome e hf
  unfold copyPart
  refine (Succeeds.inspect _).bind (Ends.inspect _) fun b => ?_
  cases e with
  | link target => exact absurd hf (ht₀.noLink _ _)
  | directory =>
    rw [ShortPart, if_pos (by rfl)] at hshort
    have hlong : (v.join ⟨[name]⟩).isLong = false := (hshort [] (by rw [List.append_nil, hf]; rfl)).1
    refine .ite (fun _ => ?_) fun hb => ?_
    · obtain ⟨top, others, hgoal, ho, htop, hpath⟩ := goal_directory device home hname
      have hshows := shows_part hv hf
      rw [hgoal, ← hplace] at hshows
      rw [hpath, ← hplace] at hshort
      have hcopy := @copyTree_succeeds home device.directory (v.join ⟨[name]⟩) top _ d₀ d₁ others ho
        (hpart.apart trivial (hleads.accepted_child hname hlong) htop) ht₀ hshows
        (hleads.child hname (hhome ▸ hf)) hhome hpaintable hshort
      rw [← hpath] at hcopy
      exact hcopy.pre fun d hd =>
        ⟨hd.1.filling.stands, Source.same hpart hd.1.filling, hd.1.painted⟩
    · rintro w ⟨hw, hdir⟩
      rw [hlook _ hw.filling, hlong] at hdir
      exact absurd hdir.symm hb
  | file content =>
    refine .ite (fun hb => ?_) fun _ => ?_
    · rintro w ⟨hw, hdir⟩
      rw [hlook _ hw.filling, hb] at hdir
      simp [Entry.isDirectory] at hdir
    · rw [ShortPart, if_neg (by simp [Entry.isDirectory]), join_part] at hshort
      obtain ⟨hlong, hgoal⟩ := hshort
      have hconfig : device.config.isLong = false :=
        isLong_of_append (continues_single configName) (continues_names (by simp) hnames) hgoal
      refine Succeeds.pre (I := Overlaying home device.directory (v.place home) d₀ d₁) ?_
        fun _ hd => hd.1
      refine ((makeDirectories_succeeds (goal_configuration device) hconfig (fun m => shown_config hv)
        hpaintable).pre fun d hd => ⟨hd.filling.stands, hd.painted⟩).seq (makeConfig_paints hv) fun _ => ?_
      rw [join_part]
      refine @copyFile_succeeds home device.directory (v.join ⟨[name]⟩) (picture d₀ (v.place home)) d₁
        [configName] name (by simp) (by simpa using ⟨isDiskName_config, hname⟩) _ content
        (fun d hd => ⟨⟨hd.1.filling.stands, hd.1.painted⟩, ?_, hd.2⟩) (place_part_ne hp hname)
        (shown_file hf) hpaintable hgoal
      have hl : d.Leads v :=
        (Source.same hp hd.1.filling).symm.leads (fun x hx => Or.inl (hhome ▸ hx)) hleads
      rw [look, lookFor_child hd.1.filling.stands.tree hl hname hlong (e := .file content), hplace,
        hd.1.filling.stands.home_eq]
      rw [hd.1.filling.stands.home_eq, (Source.same hp hd.1.filling).find? _
        (Or.inr (List.prefix_append _ _)), hf]

include haway

/-- **Copying the chosen variant** succeeds if it can be laid over the root variant. -/
theorem copyVariant_succeeds {root : Place}
    (hv : (variantsDirectory library device.kind).join (Path.ofText device.variant) = v)
    (haccepted : v.Accepted) (hover : LiesOver d₀ (v.place home) root)
    (hshort : device.variant ≠ rootVariant → ShortParts d₀ device v (v.place home)) :
    Succeeds (fun d => Filling home device.directory d₀ d ∧
      Filled (picture d₀ root) home device.directory d) (device.copyVariant library) := by
  unfold copyVariant
  rw [hv]
  have hleads' : ∀ d, Filling home device.directory d₀ d → d.Leads v := fun d hd =>
    (Source.same hp hd).symm.leads (fun x hx => Or.inl (hhome ▸ hx)) hleads
  refine (Succeeds.inspect _).bind (Ends.inspect _) fun b => .ite (fun hb => ?_) fun _ =>
    .ite (fun _ => .pure _) fun hvariant => ?_
  · rintro w ⟨⟨hw, -⟩, hdir⟩
    rw [(hasDirectory_iff hw.stands.tree.noLink).mpr ⟨hleads' _ hw, haccepted⟩] at hdir
    rw [← hdir] at hb
    cases hb
  · have hlist : ∀ d, Filling home device.directory d₀ d →
        d.listing v = .ok (d₀.names (v.place home)) := fun d hd => by
      rw [listing_of_leads (hleads' d hd) haccepted, hd.stands.home_eq]
      congr 1
      refine names_congr fun n => ?_
      exact (Source.same hp hd).find? _ (Or.inr (List.prefix_append _ _))
    refine (Succeeds.query fun d hd => ⟨_, hlist d hd.1.1⟩).bind (Ends.query _) fun parts => ?_
    rintro w ⟨⟨⟨hfilling, hfilled⟩, -⟩, hparts⟩
    rw [hlist _ hfilling] at hparts
    obtain rfl := Except.ok.inj hparts
    refine @Succeeds.forM _ (Overlaying home device.directory (v.place home) d₀ w.disk) _ _ ?_ ?_ w
      ⟨hfilling, Painted.refl ..⟩
    · rintro ⟨name, e⟩ hpart
      exact copyPart_succeeds ht₀ hhome hp hleads (mem_names.mp hpart) (hover.paintable hfilled)
        (hshort hvariant name e (mem_names.mp hpart))
    · rintro ⟨name, e⟩ hpart
      exact (copyPart_paints haway ht₀ hp hleads hhome (mem_names.mp hpart)).post fun _ _ hd => hd.1

end Variant

/-! ## Copying all files -/

/-- The directory of the **root variant**. -/
def rootDirectory (device : Device) (library : Path) : Path :=
  (variantsDirectory library device.kind).join ⟨[rootVariant]⟩

/-- The directory of the **chosen variant**. -/
def variantDirectory (device : Device) (library : Path) : Path :=
  (variantsDirectory library device.kind).join (Path.ofText device.variant)

theorem variantDirectory_root (h : device.variant = rootVariant) :
    device.variantDirectory library = device.rootDirectory library := by
  rw [variantDirectory, rootDirectory, h]
  rfl

section Stand

variable (hs : Stands home device.directory d₁) (hbare : Bare home device.directory d₁)
  (haway : Away home device.directory)
  (hroot : Source (own home device.directory) home device.directory (device.rootDirectory library))
  (hvariant : Source (own home device.directory) home device.directory
    (device.variantDirectory library))

include hs hbare haway hroot

/-- What holds when the root variant has been copied. -/
theorem copyRoot_ends :
    Ends (· = d₁) (device.copyRoot library) fun _ d =>
      (Filling home device.directory d₁ d ∧
        Filled (picture d₁ ((device.rootDirectory library).place home)) home device.directory d) ∧
      d₁.find? ((device.rootDirectory library).place home) = some .directory ∧
      HasRoomFor d₁ (device.rootDirectory library) device.config
        ((device.rootDirectory library).place home) := by
  have hkeep := Filling.ends (d := d₁) (copyRoot_confined (serves_own haway) hroot)
  intro w a w' hw hon
  obtain ⟨hfilled, hrest⟩ := copyRoot_fills hs hbare hroot rfl w a w' hw hon
  subst hw
  exact ⟨⟨hkeep w a w' ⟨hs, SameOn.refl _ _⟩ hon, hfilled⟩, hrest⟩

include hvariant

/-- **Copying all files** fills a device that is bare with those of the chosen variant over those of the
root variant, for which there is room. -/
theorem copyAll_fills :
    Ends (· = d₁) (device.copyAll library) fun _ d =>
      Filling home device.directory d₁ d ∧
      Filled (overlay d₁ ((device.variantDirectory library).place home)
        ((device.rootDirectory library).place home)) home device.directory d ∧
      d₁.find? ((device.rootDirectory library).place home) = some .directory ∧
      HasRoomFor d₁ (device.rootDirectory library) device.config
        ((device.rootDirectory library).place home) ∧
      LiesOver d₁ ((device.variantDirectory library).place home)
        ((device.rootDirectory library).place home) ∧
      (device.variant ≠ rootVariant → ShortParts d₁ device (device.variantDirectory library)
        ((device.variantDirectory library).place home)) := by
  refine (copyRoot_ends hs hbare haway hroot).seq fun _ => .of_pre fun hfound => ?_
  have hkeep := Filling.ends (d := d₁) (copyVariant_confined (serves_own haway) hvariant)
  have hfills := copyVariant_fills haway hs.tree hs.home_eq hvariant hfound.1 fun h =>
    congrArg (place home) (variantDirectory_root h)
  exact fun w a w' hw hon => ⟨hkeep w a w' hw.1 hon, (hfills w a w' hw hon).1, hfound.1, hfound.2,
    (hfills w a w' hw hon).2⟩

omit hvariant in
theorem copyAll_missing (hmissing : d₁.hasDirectory (device.variantDirectory library) = false)
    (htrail : ∀ x ∈ (device.variantDirectory library).trail home, ¬Outputs home device.directory x) :
    Ends (· = d₁) (device.copyAll library) fun _ _ => False := by
  refine (copyRoot_ends hs hbare haway hroot).seq fun _ => ?_
  unfold copyVariant
  refine (Ends.inspect _).bind fun b => .ite (fun _ => .fail _) fun hb => ?_
  rintro w a w' ⟨⟨⟨hw, -⟩, -⟩, hdir⟩ -
  change w.disk.hasDirectory (device.variantDirectory library) = b at hdir
  rw [hasDirectory_congr hw.stands.tree.noLink hw.same
    fun x hx => htrail x (hw.stands.home_eq ▸ hx), hmissing] at hdir
  exact hb (by rw [← hdir]; rfl)

/-- Copying all files **succeeds** if both variants are there, there is room for the root variant, and the
chosen one can be laid over it. -/
theorem copyAll_succeeds
    (hconfig : d₁.find? (device.directory.place home ++ [configName]) = some .directory)
    (hrootDir : d₁.hasDirectory (device.rootDirectory library) = true)
    (hvariantDir : d₁.hasDirectory (device.variantDirectory library) = true)
    (hroom : HasRoomFor d₁ (device.rootDirectory library) device.config
      ((device.rootDirectory library).place home))
    (hover : LiesOver d₁ ((device.variantDirectory library).place home)
      ((device.rootDirectory library).place home))
    (hshort : device.variant ≠ rootVariant → ShortParts d₁ device (device.variantDirectory library)
      ((device.variantDirectory library).place home)) :
    Succeeds (· = d₁) (device.copyAll library) := by
  obtain ⟨hleads, haccepted⟩ := leads_of_hasDirectory hs.tree.noLink hvariantDir
  exact (copyRoot_succeeds hs hbare hroot rfl hrootDir hconfig hroom).seq
    ((copyRoot_ends hs hbare haway hroot).post fun _ _ hd => hd.1) fun _ =>
    copyVariant_succeeds haway hs.tree hs.home_eq hvariant hleads rfl haccepted hover hshort

omit hvariant in
/-- **When all files can be copied**, if the root variant is there: the chosen variant is there, too, there
is room for the root variant, and the chosen one can be laid over it. -/
theorem copyAll_iff (hconfig : d₁.find? (device.directory.place home ++ [configName]) = some .directory)
    (hrootDir : d₁.hasDirectory (device.rootDirectory library) = true)
    (htrail : ∀ x ∈ (device.variantDirectory library).trail home, ¬Outputs home device.directory x)
    (hvariant : d₁.hasDirectory (device.variantDirectory library) = true →
      Source (own home device.directory) home device.directory (device.variantDirectory library))
    {w : World} (hw : w.disk = d₁) :
    ((device.copyAll library).on w).1 = .ok () ↔
      d₁.hasDirectory (device.variantDirectory library) = true ∧
      HasRoomFor d₁ (device.rootDirectory library) device.config
        ((device.rootDirectory library).place home) ∧
      LiesOver d₁ ((device.variantDirectory library).place home)
        ((device.rootDirectory library).place home) ∧
      (device.variant ≠ rootVariant → ShortParts d₁ device (device.variantDirectory library)
        ((device.variantDirectory library).place home)) := by
  rcases hon : (device.copyAll library).on w with ⟨r, w'⟩
  constructor
  · rintro rfl
    cases hv : d₁.hasDirectory (device.variantDirectory library) with
    | false => exact (copyAll_missing hs hbare haway hroot hv htrail w _ w' hw hon).elim
    | true =>
      obtain ⟨-, -, -, hcopyable⟩ := copyAll_fills hs hbare haway hroot (hvariant hv) w _ w' hw hon
      exact ⟨rfl, hcopyable⟩
  · rintro ⟨hv, hroom, hover, hshort⟩
    obtain ⟨_, _, hok⟩ :=
      copyAll_succeeds hs hbare haway hroot (hvariant hv) hconfig hrootDir hv hroom hover hshort w hw
    rw [hon] at hok
    exact (Prod.mk.inj hok).1

end Stand

end Device

end SiteGen
