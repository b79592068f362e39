import SiteGen.Proofs.Replacement.Rewrite
import SiteGen.Proofs.Site.Furnish

/-!
# What generating a site makes

* `Site.evaluateEach_evaluates`: the fixtures directly in the tests of the devices are evaluated.
* `Site.generate_content`: what is in the tests and the configuration of each device when a site has been
  generated.
-/

namespace SiteGen

open Disk SiteGen.Path Run Device

namespace Site

variable {home : Place} {s : Site} {o : Override} {d₀ d₁ d₂ d : Disk} {kind variant : String}
  {children : List (String × Entry)}

/-! ## After the devices -/

/-- Whether a place is that of a file **directly in one of some directories**, the path being not too long. -/
def AtFixture (home : Place) (directories : List Path) (x : Place) : Prop :=
  ∃ t ∈ directories, ∃ name, AtName home t [name] x

theorem AtFixture.exists_name {directories : List Path} {x : Place} (h : AtFixture home directories x) :
    ∃ t ∈ directories, ∃ name, x = t.place home ++ [name] := by
  obtain ⟨t, ht, name, n, -, -, rfl⟩ := h
  exact ⟨t, ht, n, rfl⟩

/-- **Evaluating the fixtures** of several directories evaluates each file directly in one of them. -/
theorem evaluateEach_evaluates : ∀ {directories : List Path} {d₀ : Disk},
    (∀ t ∈ directories, Stands home t d₀ ∧ t.Accepted) → (directories.map (·.place home)).Nodup →
    Ends (· = d₀) (evaluateEach directories) fun _ d => Evaluated (AtFixture home directories) d₀ d
  | [], d₀, _, _ => .pure fun d hd => by
    subst hd
    exact .refl (by simp [AtFixture]) _
  | t :: rest, d₀, h, hnodup => by
    obtain ⟨hnot, hnodup⟩ := List.nodup_cons.mp hnodup
    obtain ⟨hstands, haccepted⟩ := h t List.mem_cons_self
    unfold evaluateEach
    refine (evaluateFixtures_evaluates hstands haccepted).seq fun n => ?_
    have hrest : Ends (fun d => Stands home t d ∧ Evaluated (fun x => ∃ name, AtName home t [name] x) d₀ d)
        (evaluateEach rest) fun _ d => Evaluated (AtFixture home (t :: rest)) d₀ d := by
      rintro w m w' ⟨hw, heval⟩ hon
      have hothers : ∀ u ∈ rest, Stands home u w.disk ∧ u.Accepted := fun u hu => by
        obtain ⟨hu, haccepted⟩ := h u (List.mem_cons_of_mem _ hu)
        exact ⟨heval.stands hw.tree (hw.home_eq.trans hstands.home_eq.symm) hu, haccepted⟩
      refine (heval.trans (evaluateEach_evaluates hothers hnodup w m w' rfl hon) ?_).congr fun x _ _ => ?_
      · rintro x ⟨name, n, -, -, rfl⟩ hrest
        obtain ⟨u, hu, name', heq⟩ := hrest.exists_name
        refine hnot (List.mem_map.mpr ⟨u, hu, ?_⟩)
        exact (List.append_inj' heq rfl).1.symm
      · simp [AtFixture]
    exact hrest.seq fun m => .pure fun _ hd => hd

/-! ## What is in a device -/

/-- **The content of a device** that has been made from a variant: its tests, each file directly in them
rewritten and evaluated and each deeper file rewritten; and in its configuration every file that no
template is about, rewritten. -/
structure Content (s : Site) (o : Override) (rs : List FilesetReplacement) (kind variant : String)
    (d₀ d : Disk) : Prop where
  /-- In the tests there is nothing but what is in the files of the variants. -/
  other : ∀ m, (∀ content, s.filesOf d₀ kind variant (testsName :: m) ≠ some (.file content)) →
    d.find? ((s.deviceDirectory kind).place d₀.home ++ testsName :: m) =
      s.filesOf d₀ kind variant (testsName :: m)
  /-- Each file directly in the tests is rewritten and evaluated. -/
  fixture : ∀ name content, s.filesOf d₀ kind variant [testsName, name] = some (.file content) →
    ∃ content', Evaluates (FilesetReplacement.rewriteAll rs [kind, testsName, name] content) content' ∧
      d.find? ((s.deviceDirectory kind).place d₀.home ++ [testsName, name]) = some (.file content')
  /-- Each deeper file is rewritten. -/
  deeper : ∀ m content, m.length ≠ 1 →
    s.filesOf d₀ kind variant (testsName :: m) = some (.file content) →
    d.find? ((s.deviceDirectory kind).place d₀.home ++ testsName :: m) =
      some (.file (FilesetReplacement.rewriteAll rs (kind :: testsName :: m) content))
  /-- Each file of the configuration that no template is about is rewritten. -/
  config : ∀ m content, s.Untouched d₀.home o kind m →
    s.filesOf d₀ kind variant (configName :: m) = some (.file content) →
    d.find? ((s.deviceDirectory kind).place d₀.home ++ configName :: m) =
      some (.file (FilesetReplacement.rewriteAll rs (kind :: configName :: m) content))

theorem place_tests (hk : IsPlainName kind) :
    ((s.deviceDirectory kind).join ⟨[testsName]⟩).place home =
      s.directory.place home ++ [kind, testsName] := by
  rw [place_child home isDiskName_tests.toIsPlainName, place_deviceDirectory hk, List.append_assoc]
  rfl

theorem place_below (hk : IsPlainName kind) (m : List String) :
    (s.deviceDirectory kind).place home ++ m = s.directory.place home ++ kind :: m := by
  rw [place_deviceDirectory hk, List.append_assoc]
  rfl

theorem join_below (hk : IsPlainName kind) {m : List String} (hm : Continues ⟨m⟩) :
    (s.deviceDirectory kind).join ⟨m⟩ = s.directory.join ⟨kind :: m⟩ := by
  rw [deviceDirectory, hk.ofText]
  exact join_join (continues_single kind) (by simpa using hk.ne_empty) hm

theorem Equipped.atFixture {devices : List (String × Option Path)}
    (hd : s.Equipped o children d₀ devices d) {m : List String}
    (h : AtFixture d₀.home (devices.filterMap (·.2)) (s.directory.place d₀.home ++ kind :: m)) :
    ∃ name, m = [testsName, name] := by
  obtain ⟨t, ht, name, heq⟩ := h.exists_name
  obtain ⟨device, hm, hsome⟩ := List.mem_filterMap.mp ht
  obtain ⟨hdevice, -, hgives⟩ := hd.furnished device hm
  obtain ⟨rfl, -⟩ := (hgives t).mp hsome
  rw [place_tests hdevice.toIsPlainName, List.append_assoc, List.append_cancel_left_eq] at heq
  exact ⟨name, (List.cons.inj heq).2⟩

/-- A file directly in the tests of a device is among the fixtures, if its path is not too long. -/
theorem Equipped.atFixture_of_file {devices : List (String × Option Path)}
    (hd : s.Equipped o children d₀ devices d) {tests : Option Path} (hm : (kind, tests) ∈ devices) {name : String}
    {content : ByteArray} (hf : d.find? (s.directory.place d₀.home ++ [kind, testsName, name]) = some (.file content))
    (hlong : ((s.deviceDirectory kind).join ⟨[testsName, name]⟩).isLong = false) :
    AtFixture d₀.home (devices.filterMap (·.2)) (s.directory.place d₀.home ++ [kind, testsName, name]) := by
  obtain ⟨hname, -, hgives⟩ := hd.furnished _ hm
  have hk : IsPlainName kind := hname.toIsPlainName
  have hplain : IsPlainName name := (hd.stands.tree.isDiskName_of_mem (by rw [hf]; rfl)
    (List.mem_append_right _ (by simp))).toIsPlainName
  have hdir : d.find? (s.directory.place d₀.home ++ [kind, testsName]) = some .directory :=
    hd.stands.tree.find?_prefix (by rw [hf]; rfl) ⟨[name], by simp⟩ (by simp)
  have hnames : Continues ⟨[testsName] ++ [name]⟩ :=
    continues_names (by simp) (by simpa using ⟨isDiskName_tests.toIsPlainName, hplain⟩)
  have hgiven : (s.deviceDirectory kind).join ⟨[testsName]⟩ ∈ tests :=
    (hgives _).mpr ⟨rfl, isLong_of_append (continues_single testsName) hnames hlong, by rw [place_below hk, hdir]⟩
  refine ⟨_, List.mem_filterMap.mpr ⟨_, hm, hgiven⟩, name, name, List.mem_singleton_self name, ?_, ?_⟩
  · rw [join_join (continues_single testsName) (by decide) (continues_single name)]
    exact hlong
  · rw [place_tests hk, List.append_assoc]
    rfl

theorem Equipped.stands_tests {devices : List (String × Option Path)}
    (hd : s.Equipped o children d₀ devices d₁) {f : Place → ByteArray → ByteArray} (hreworked : Reworked f d₁ d₂)
    {t : Path} (ht : t ∈ devices.filterMap (·.2)) : Stands d₀.home t d₂ ∧ t.Accepted := by
  obtain ⟨device, hm, hsome⟩ := List.mem_filterMap.mp ht
  obtain ⟨hname, -, hgives⟩ := hd.furnished device hm
  obtain ⟨rfl, hlong, hdir⟩ := (hgives t).mp hsome
  have hdevice : d₁.find? (s.directory.place d₀.home ++ [device.1]) = some .directory := by
    rw [place_below hname.toIsPlainName] at hdir
    exact hd.stands.tree.find?_prefix (by rw [hdir]; rfl) ⟨[testsName], by simp⟩ (by simp)
  have hstands := stands_deviceDirectory hd.stands hname hdevice
  exact ⟨hreworked.stands (hstands.child isDiskName_tests hdir),
    hstands.leads.accepted_child isDiskName_tests hlong⟩

theorem Equipped.nodup_tests {devices : List (String × Option Path)}
    (hd : s.Equipped o children d₀ devices d) (hnodup : (children.map (·.1)).Nodup) :
    ((devices.filterMap (·.2)).map (·.place d₀.home)).Nodup := by
  have hnames : devices.Pairwise (fun a b => a.1 ≠ b.1) := List.pairwise_map.mp (hnodup.sublist hd.names)
  refine List.pairwise_map.mpr (List.pairwise_filterMap.mpr (hnames.imp_of_mem ?_))
  intro a b ha hb hne t ht u hu heq
  obtain ⟨hname, -, hgives⟩ := hd.furnished a ha
  obtain ⟨hname', -, hgives'⟩ := hd.furnished b hb
  obtain ⟨rfl, -⟩ := (hgives t).mp ht
  obtain ⟨rfl, -⟩ := (hgives' u).mp hu
  rw [place_tests hname.toIsPlainName, place_tests hname'.toIsPlainName,
    List.append_cancel_left_eq] at heq
  exact hne (List.cons.inj heq).1

/-- A device that is furnished **has its content** when the files of the site have been rewritten and the
fixtures evaluated. -/
theorem content_of_furnished {devices : List (String × Option Path)} {rs : List FilesetReplacement}
    (hd : s.Equipped o children d₀ devices d₁) {f : Place → ByteArray → ByteArray} (hreworked : Reworked f d₁ d₂)
    (hrewritten : ∀ m content, Called d₀.home s.directory m content d₁ →
      d₂.find? (s.directory.place d₀.home ++ m) = some (.file (FilesetReplacement.rewriteAll rs m content)))
    (heval : Evaluated (AtFixture d₀.home (devices.filterMap (·.2))) d₂ d) {device : String × Option Path}
    (hm : device ∈ devices) :
    ∃ variant, Chooses o device.1 variant ∧ s.Content o rs device.1 variant d₀ d := by
  obtain ⟨hname, ⟨variant, hchosen, hshort, htests, hconfig⟩, -⟩ := hd.furnished device hm
  obtain ⟨kind, tests⟩ := device
  have hk : IsPlainName kind := hname.toIsPlainName
  simp only [place_below hk] at htests hconfig
  -- what a file has become before the fixtures are evaluated
  have hfile : ∀ m content, m ≠ [] → d₁.find? (s.directory.place d₀.home ++ kind :: m) = some (.file content) →
      s.filesOf d₀ kind variant m = some (.file content) →
      d₂.find? (s.directory.place d₀.home ++ kind :: m) =
        some (.file (FilesetReplacement.rewriteAll rs (kind :: m) content)) := fun m content hne hf hfiles => by
    refine hrewritten _ content ⟨hf, ?_⟩
    have hm : Continues ⟨m⟩ := continues_names hne fun n hn => (hd.stands.tree.isDiskName_of_mem (by rw [hf]; rfl)
      (List.mem_append_right _ (List.mem_cons_of_mem _ hn))).toIsPlainName
    rw [← join_below hk hm]
    exact hshort m content hfiles
  refine ⟨variant, hchosen, ?_, ?_, ?_, ?_⟩
  · intro m hnot
    have hsame : d₂.find? (s.directory.place d₀.home ++ kind :: testsName :: m) =
        s.filesOf d₀ kind variant (testsName :: m) := by
      rw [hreworked.find?, htests, map_of_not_file hnot]
    rw [place_below hk, heval.other _ fun _ => by rw [hsame, any_isFile_of_not_file hnot], hsame]
  · intro name content hf
    have hf₁ := (htests [name]).trans hf
    rw [place_below hk]
    exact heval.file _ _ (hd.atFixture_of_file hm hf₁ (hshort [testsName, name] content hf))
      (hfile _ content (List.cons_ne_nil _ _) hf₁ hf)
  · intro m content hlen hf
    rw [place_below hk, heval.other _ fun h => ?_,
      hfile _ content (List.cons_ne_nil _ _) ((htests m).trans hf) hf]
    obtain ⟨name, heq⟩ := hd.atFixture h
    rw [(List.cons.inj heq).2] at hlen
    exact absurd rfl hlen
  · intro m content huntouched hf
    rw [place_below hk, heval.other _ fun h => ?_,
      hfile _ content (List.cons_ne_nil _ _) ((hconfig m huntouched).trans hf) hf]
    obtain ⟨name, heq⟩ := hd.atFixture h
    exact absurd (List.cons.inj heq).1 (by decide)

theorem finish_content (hp : s.directory.Accepted) {devices : List (String × Option Path)}
    (hnodup : (children.map (·.1)).Nodup) :
    Ends (fun d => s.Equipped o children d₀ devices d) (s.finish o devices) fun _ d =>
      ∃ rs, o.replacements = .ok rs ∧ ∀ device ∈ devices,
        ∃ variant, Chooses o device.1 variant ∧ s.Content o rs device.1 variant d₀ d := by
  unfold finish
  refine (Ends.ofResult _).bind fun rs => .of_pre fun hrs => ?_
  rintro w summary w' hd hon
  have hevaluate : Ends (fun d => ∃ f, Reworked f w.disk d ∧ ∀ m content,
        Called d₀.home s.directory m content w.disk → d.find? (s.directory.place d₀.home ++ m) =
          some (.file (FilesetReplacement.rewriteAll rs m content)))
      (evaluateEach (devices.filterMap (·.2))) fun _ d => ∀ device ∈ devices,
        ∃ variant, Chooses o device.1 variant ∧ s.Content o rs device.1 variant d₀ d := by
    rintro w₁ n w₂ ⟨f, hreworked, hrewritten⟩ hon device hm
    have heval := evaluateEach_evaluates (fun t ht => hd.stands_tests hreworked ht)
      (hd.nodup_tests hnodup) w₁ n w₂ rfl hon
    exact content_of_furnished hd hreworked hrewritten heval hm
  have hfinish : Ends (· = w.disk) (do
      let replaced ← s.replaceAll rs
      let evaluated ← evaluateEach (devices.filterMap (·.2))
      pure (Summary.mk (devices.map (·.1)) replaced evaluated)) fun _ d => ∀ device ∈ devices,
        ∃ variant, Chooses o device.1 variant ∧ s.Content o rs device.1 variant d₀ d :=
    (replaceAll_rewrites hp hd.stands).seq fun _ => hevaluate.seq fun _ => .pure fun _ hd => hd
  exact ⟨rs, hrs, hfinish w summary w' rfl hon⟩

/-! ## Generating -/

theorem nodup_listing (hp : s.directory.Accepted) (h : Stands home s.directory d)
    (hl : d.listing s.directory = .ok children) : (children.map (·.1)).Nodup := by
  rw [listing_of_leads h.leads hp] at hl
  rw [← Except.ok.inj hl]
  exact List.Pairwise.map _ (fun _ _ h => ne_of_lt h) (names_sorted d _)

/-- **The content of the generated files**. If generating a site succeeds, each of its devices has the files
of a chosen variant over those of the root variant, rewritten by the replacements one after the other;
and then the fixtures directly in its tests are evaluated. -/
theorem generate_content (s : Site) (w w' : World) (summary : Summary) (hn : IsPlainName s.name)
    (ht : w.disk.IsTree)
    (ho : ∀ o, s.overrideOn w.disk = .ok o →
      o.IsNormal s.workspace.kinds ∧ o.HasPlainVariants s.workspace.kinds)
    (h : s.generate.on w = (.ok summary, w')) (kind : String) (hkind : s.HasDevice w.disk kind) :
    ∃ o rs variant, s.overrideOn w.disk = .ok o ∧ o.replacements = .ok rs ∧
      Chooses o kind variant ∧ s.Content o rs kind variant w.disk w'.disk := by
  rw [generate_eq] at h
  have hread : Ends (· = w.disk) s.readOverride fun o d => d = w.disk ∧ s.overrideOn w.disk = .ok o := by
    refine (@readOverride_confined ⟨fun _ => True, fun _ => True, fun _ => True, False⟩ s (· = w.disk)
      False.elim).toEnds.post ?_
    rintro o d ⟨rfl, hd⟩
    exact ⟨rfl, hd⟩
  have hgenerate : Ends (· = w.disk) (do
      let o ← s.readOverride
      let children ← Run.query (·.listing s.directory)
      let devices ← s.processEach o children
      s.finish o devices) fun _ d => ∃ o rs variant, s.overrideOn w.disk = .ok o ∧
        o.replacements = .ok rs ∧ Chooses o kind variant ∧
        s.Content o rs kind variant w.disk d := by
    refine hread.bind fun o => .of_pre fun hoverride => ?_
    obtain ⟨hnormal, hvariants⟩ := ho o hoverride
    have hlist : Ends (· = w.disk) (Run.query (·.listing s.directory)) fun children d =>
        d = w.disk ∧ w.disk.listing s.directory = .ok children := by
      refine (Ends.query _).post ?_
      rintro children d ⟨rfl, hl⟩
      exact ⟨rfl, hl⟩
    refine hlist.bind fun children => .of_pre fun hl => ?_
    obtain ⟨hmaking, hamong, haccepted⟩ := listing_making ht hl
    have hnodup := nodup_listing haccepted hmaking.stands hl
    have hchild : (kind, Entry.directory) ∈ children := by
      rw [listing_of_leads hmaking.stands.leads haccepted] at hl
      rw [← Except.ok.inj hl]
      exact mem_names.mpr hkind.2
    have hdevices : Ends (· = w.disk) (s.processEach o children) fun devices d =>
        s.Equipped o children w.disk devices d := by
      refine (@processEach_furnishes s o w.disk hn hnormal hvariants children
        (fun child hc => (hamong child hc).1) hnodup).imp ?_ fun _ _ hd => hd
      rintro _ rfl
      exact ⟨hmaking, SameOn.refl _ _⟩
    refine hdevices.bind fun devices => ?_
    have hnamed : Ends (fun d => s.Equipped o children w.disk devices d) (s.finish o devices) fun _ d =>
        (∃ rs, o.replacements = .ok rs ∧ ∀ device ∈ devices,
          ∃ variant, Chooses o device.1 variant ∧ s.Content o rs device.1 variant w.disk d) ∧
        kind ∈ devices.map (·.1) := fun w₁ a w₂ hd hon =>
      ⟨finish_content haccepted hnodup w₁ a w₂ hd hon, hd.complete _ hchild ⟨rfl, hkind.1⟩⟩
    refine hnamed.post fun _ d hd => ?_
    obtain ⟨⟨rs, hrs, hcontent⟩, hmem⟩ := hd
    obtain ⟨device, hm, rfl⟩ := List.mem_map.mp hmem
    obtain ⟨variant, hchosen, hcontent⟩ := hcontent device hm
    exact ⟨o, rs, variant, hoverride, hrs, hchosen, hcontent⟩
  exact hgenerate w summary w' rfl h

theorem generate_chosen : small.generate.on ⟨chosenDisk, []⟩ =
    (.ok ⟨["twins"], 1, 2⟩, (small.generate.on ⟨chosenDisk, []⟩).2) := by
  have hread : small.readOverride.on ⟨chosenDisk, []⟩ = (.ok chosen, ⟨chosenDisk, []⟩) :=
    readOverride_of_text (readText_of_readBytes rfl) ofText_chosen
  have hlist : (Run.query (·.listing small.directory)).on ⟨chosenDisk, []⟩ = (.ok [("twins", .directory),
      (FilesetReplacement.overrideName, .file (String.join chosenLines).toUTF8)], ⟨chosenDisk, []⟩) :=
    listing_on rfl
  have hreplacements (w : World) : (Run.ofResult chosen.replacements).on w =
      (.ok [twoForN], w) := by
    rw [ofResult_on, replacements_chosen]
  refine on_of_toOption ?_
  rw [generate_eq, bind_of_ok hread, bind_of_ok hlist,
    bind_of_ok (on_of_toOption (a := [("twins", some ⟨["w", "config", "a", "twins", "tests"]⟩)])
      (by decide +kernel)), finish, bind_of_ok (hreplacements _), replaceAll, apply_twoForN]
  decide +kernel

theorem generate_content_small :
    (small.generate.on ⟨chosenDisk, []⟩).1 = .ok ⟨["twins"], 1, 2⟩ ∧
    small.Content chosen [twoForN] "twins" "v" chosenDisk
      (small.generate.on ⟨chosenDisk, []⟩).2.disk := by
  obtain ⟨o, rs, variant, ho, hrs, hvariant, hcontent⟩ := generate_content small ⟨chosenDisk, []⟩ _ _
    (by decide) (by decide +kernel) (fun o h => by
      obtain rfl := Except.ok.inj (overrideOn_chosen.symm.trans h)
      exact ⟨isNormal_chosen, hasPlainVariants_chosen⟩)
    generate_chosen "twins" ⟨by decide, by decide +kernel⟩
  obtain rfl := Except.ok.inj (overrideOn_chosen.symm.trans ho)
  obtain rfl := Except.ok.inj (replacements_chosen.symm.trans hrs)
  obtain rfl : variant = "v" := by
    rcases hvariant with h | ⟨h, -⟩
    · exact (Option.some.inj (Except.ok.inj (variant_chosen.symm.trans h))).symm
    · cases variant_chosen.symm.trans h
  exact ⟨congrArg Prod.fst generate_chosen, hcontent⟩

end Site

end SiteGen
