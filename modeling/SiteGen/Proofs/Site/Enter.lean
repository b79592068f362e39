import SiteGen.Proofs.Run.Texts
import SiteGen.Proofs.Site.Frame

/-!
# Entering a site

* `Site.overrideOn_eq`: what is read from the override file depends only on its place.
* `Site.enter_confined`: entering a site makes its directory and its override file, if they are missing.
* `Site.enter_alone`: entering a site does the same when other sites have been entered before.
* `Site.visit`, `Site.visit_within`: entering and generating a site changes only its directory, and that
  of all sites.
-/

namespace SiteGen

open Disk SiteGen.Path Run Device

namespace Disk

variable {d : Disk} {p : Path}

/-- Reading a file in a directory. -/
theorem readText_child (ht : d.IsTree) (h : d.Leads p) {name : String} (hn : IsDiskName name)
    (hlong : (p.join ⟨[name]⟩).isLong = false) {content : ByteArray}
    (hf : d.find? (p.place d.home ++ [name]) = some (.file content)) :
    d.readText (p.join ⟨[name]⟩) = match String.fromUTF8? content with
      | some text => .ok text
      | none => .error .notText := by
  unfold readText readBytes look
  rw [lookFor_child ht h hn hlong hf]
  rfl

theorem accepted_of_writeBytes {d' : Disk} {content : ByteArray} (h : d.writeBytes p content = .ok d') :
    p.Accepted := by
  unfold writeBytes at h
  obtain ⟨place, hl, -⟩ := ok_of_bind h
  exact accepted_of_locate hl

theorem makeDirectories_null {name : String} (hn : IsPlainName name) (hnull : '\x00' ∈ name.toList) :
    ∃ fault, d.makeDirectories (p.join ⟨[name]⟩) = (d, some fault) := by
  have htext : '\x00' ∈ (p.join ⟨[name]⟩).text.toList :=
    (text_join_null (continues_single name)).mpr (Or.inr ⟨name, by simp, hnull⟩)
  have haccept : (p.join ⟨[name]⟩).accept = .error .nulInPath := by
    rw [accept, if_pos (by simpa using htext)]
  have hensure : d.ensureDirectory (p.join ⟨[name]⟩) = .error .nulInPath := by
    rw [ensureDirectory, makeDirectory, make, locateName, haccept]
    rfl
  refine ⟨.nulInPath, ?_⟩
  rw [makeDirectories, ancestors, ancestorsFrom, makeLowest, isEmpty_join_child p hn, if_neg (by simp), hensure]

end Disk

/-- The place of the directory of all sites. -/
def Workspace.sitesPlace (w : Workspace) (home : Place) : Place := w.root.place home ++ ["config"]

namespace Site

variable {s : Site} {home : Place} {d : Disk}

theorem isDiskName_override : IsDiskName FilesetReplacement.overrideName :=
  ⟨isPlainName_override, by decide⟩

/-- The place of the override file. -/
def overridePlace (home : Place) (s : Site) : Place :=
  s.directory.place home ++ [FilesetReplacement.overrideName]

/-- The override file that is **in a place**, if one is. -/
def overrideIn : Option Entry → Except Error Override
  | some (.file content) =>
    match String.fromUTF8? content with
    | some text => Override.ofText text
    | none => .error (.disk .notText)
  | _ => .ok .empty

theorem stands_of_directory (hn : IsPlainName s.name) (h : Stands home s.workspace.root d)
    (hd : d.find? (s.directory.place home) = some .directory) : Stands home s.directory d := by
  obtain ⟨ht, rfl, hl⟩ := h
  rw [place_directory hn] at hd
  have hsites : d.find? (s.workspace.root.place d.home ++ ["config"]) = some .directory :=
    ht.find?_prefix (by rw [hd]; rfl) ⟨[s.name], by simp⟩ (by simp)
  have hname : IsDiskName s.name := by
    refine ht.name (s.workspace.root.place d.home ++ ["config"]) _ ?_
    rw [List.append_assoc]
    exact Option.isSome_iff_exists.mpr ⟨_, hd⟩
  rw [directory, hname.toIsPlainName.ofText, Workspace.sites]
  refine ⟨ht, rfl, (hl.child isDiskName_sites hsites).child hname ?_⟩
  rw [place_child d.home isDiskName_sites.toIsPlainName, List.append_assoc]
  exact hd

/-- **What is read from the override file** depends only on what is in its place. It is not found by a path that
is too long. -/
theorem overrideOn_eq (hn : IsPlainName s.name) (h : Stands home s.workspace.root d) :
    s.overrideOn d = if s.overridePath.isLong then .ok .empty else overrideIn (d.find? (s.overridePlace home)) := by
  unfold overrideOn
  cases hf : d.find? (s.overridePlace home) with
  | none =>
    have hnone : d.hasFile s.overridePath = false := by
      by_contra hfile
      have := isFile_of_hasFile h.tree.noLink (Bool.eq_true_of_not_eq_false hfile)
      rw [h.home_eq, overridePath, place_child home isPlainName_override] at this
      rw [overridePlace] at hf
      rw [hf] at this
      cases this
    rw [hnone]
    exact (ite_self _).symm
  | some e =>
    have hdirectory : d.find? (s.directory.place home) = some .directory :=
      h.tree.parent _ _ (Option.isSome_iff_exists.mpr ⟨e, hf⟩)
    obtain ⟨ht, rfl, hl⟩ := stands_of_directory hn h hdirectory
    have hfile := hasFile_child ht hl isDiskName_override
    rw [← overridePlace, hf, ← overridePath] at hfile
    rw [hfile]
    cases hlong : s.overridePath.isLong with
    | true => rfl
    | false =>
      cases e with
      | file content =>
        rw [overridePath, readText_child ht hl isDiskName_override hlong hf]
        simp only [Option.any_some, Entry.isFile, Bool.not_false, Bool.and_true, if_true, overrideIn]
        cases String.fromUTF8? content <;> rfl
      | directory => rfl
      | link target => rfl

/-! ## Entering -/

variable {S : Scope}

theorem isGoal_directory (hn : IsDiskName s.name) :
    IsGoal s.workspace.root ["config", s.name] s.directory :=
  ⟨by simp, by simpa using ⟨isDiskName_sites, hn⟩, Or.inl (directory_eq hn.toIsPlainName)⟩

theorem place_directory_sites (hn : IsPlainName s.name) :
    s.directory.place home = s.workspace.sitesPlace home ++ [s.name] := by
  rw [place_directory hn, Workspace.sitesPlace, List.append_assoc]
  rfl

/-- What **comes after** the directory of a site has been made. -/
def enterRest (s : Site) : Run Unit := do
  if ← Run.inspect (·.hasAny s.overridePath) then pure ()
  else putText s.overridePath ""

theorem enter_eq (s : Site) : s.enter = (do
    makeDirectories s.directory
    s.enterRest) := rfl

theorem enterRest_confined (hW : S.writes (s.overridePlace home))
    (hR : ∀ x ∈ s.overridePath.trail home, S.reads x) :
    Confined S (Stands home s.directory) s.enterRest fun _ d => Stands home s.directory d := by
  unfold enterRest
  refine ((inspect_congr (fun d hd => ⟨hd.tree, hd.home_eq⟩) hR fun _ _ h hS hx =>
    hasAny_congr h hS hx).post fun _ d hd => hd.1).seq fun b =>
    .ite (fun _ => .pure fun _ hd => hd) fun _ => ?_
  refine putText_confined (descends_single isPlainName_override) (fun _ hd => hd)
    (fun _ _ => Or.inl ?_) hR _
  rwa [place_child home isPlainName_override]

theorem prefix_pair {a b : String} {m : List String} (hne : m ≠ []) (hm : m <+: [a, b]) :
    m = [a] ∨ m = [a, b] := by
  rcases List.prefix_cons_iff.mp hm with rfl | ⟨t, rfl, ht⟩
  · exact absurd rfl hne
  · rcases List.prefix_cons_iff.mp ht with rfl | ⟨u, rfl, hu⟩
    · exact Or.inl rfl
    · rw [List.prefix_nil.mp hu]
      exact Or.inr rfl

theorem mem_directory_trail (hn : IsPlainName s.name) {x : Place} (hx : x ∈ s.directory.trail home) :
    x ∈ s.workspace.root.trail home ∨ x = s.workspace.sitesPlace home ∨ x = s.directory.place home := by
  rw [place_directory_sites hn]
  rw [directory, hn.ofText] at hx
  rcases mem_trail_child home hn hx with hx | rfl
  · rcases mem_trail_child home isDiskName_sites.toIsPlainName hx with hx | rfl
    · exact Or.inl hx
    · exact Or.inr (Or.inl rfl)
  · rw [Workspace.sites, place_child home isDiskName_sites.toIsPlainName]
    exact Or.inr (Or.inr rfl)

theorem makeDirectory_confined (hn : IsDiskName s.name) (hsites : S.writes (s.workspace.sitesPlace home))
    (hsite : S.writes (s.directory.place home)) (hR : ∀ x ∈ s.overridePath.trail home, S.reads x) :
    Confined S (Stands home s.workspace.root) (makeDirectories s.directory)
      fun _ d => Stands home s.directory d := by
  have hname := hn.toIsPlainName
  have hpassed : ∀ m, m ≠ [] → m <+: ["config", s.name] →
      s.workspace.root.place home ++ m ∈ s.overridePath.trail home := by
    intro m hne hm
    have hplain : ∀ n ∈ ["config", s.name, FilesetReplacement.overrideName], IsPlainName n := by
      simpa using ⟨isDiskName_sites.toIsPlainName, hname, isPlainName_override⟩
    have hpath : s.overridePath =
        s.workspace.root.join ⟨["config", s.name, FilesetReplacement.overrideName]⟩ := by
      rw [overridePath, directory_eq hname]
      exact join_join (descends_directory hname).toContinues (by simpa using hname.ne_empty)
        (continues_single _)
    rw [hpath]
    refine mem_trail_of_prefix home (descends_names (by simp) hplain) hne ?_
    rw [show (Path.mk ["config", s.name, FilesetReplacement.overrideName]).steps = _ from
      filter_plain hplain]
    exact hm.trans ⟨[FilesetReplacement.overrideName], rfl⟩
  refine (makeDirectories_confined (isGoal_directory hn) (fun m hne hm => ?_)
    fun m hne hm => hR _ (hpassed m hne hm)).post fun _ d hd => ⟨hd.1.tree, hd.1.home_eq, hd.2⟩
  rcases prefix_pair hne hm with rfl | rfl
  · exact hsites
  · rwa [← place_directory hname]

theorem enterRest_ok {w w' : World} (h : Stands home s.directory w.disk)
    (hon : s.enterRest.on w = (.ok (), w')) :
    w'.disk.find? (s.overridePlace home) = w.disk.find? (s.overridePlace home) ∨
      w.disk.find? (s.overridePlace home) = none ∧
        w'.disk.find? (s.overridePlace home) = some (.file "".toUTF8) := by
  have hany := hasAny_child h.tree h.leads isDiskName_override
  rw [h.home_eq, ← overridePath, ← overridePlace] at hany
  unfold enterRest at hon
  rw [bind_of_ok (inspect_on _ _)] at hon
  cases hthere : w.disk.hasAny s.overridePath with
  | true =>
    rw [hthere] at hon
    rw [← (Prod.mk.inj hon).2]
    exact Or.inl rfl
  | false =>
    rw [hthere] at hon hany
    change (putText s.overridePath "").on w = _ at hon
    rw [putText] at hon
    cases hw : w.disk.writeText s.overridePath "" with
    | error fault =>
      rw [change_on_error hw] at hon
      cases (Prod.mk.inj hon).1
    | ok d' =>
      rw [(accepted_of_writeBytes hw).not_long, Bool.not_false, Bool.true_and] at hany
      rw [change_on_ok hw] at hon
      rw [← (Prod.mk.inj hon).2]
      obtain ⟨q, hcalls, -, rfl⟩ := writeBytes_cases h.tree
        (h.leads.grounded_join (continues_single _)) hw
      have hq := hcalls.place_eq
      rw [h.home_eq, ← overridePath, overridePath, place_child home isPlainName_override] at hq
      refine Or.inr ⟨Option.isNone_iff_eq_none.mp (Option.isSome_eq_false_iff.mp hany.symm), ?_⟩
      show (w.disk.insert q _).find? _ = _
      rw [find?_insert _ _ _ _ hcalls.ne_nil, overridePlace, if_pos hq.symm]

/-- **Entering a site** is confined to the way down to its override file. -/
theorem enter_confined (hn : IsDiskName s.name) (hsites : S.writes (s.workspace.sitesPlace home))
    (hsite : S.writes (s.directory.place home)) (hoverride : S.writes (s.overridePlace home))
    (hR : ∀ x ∈ s.overridePath.trail home, S.reads x) :
    Confined S (Stands home s.workspace.root) s.enter fun _ d => Stands home s.directory d := by
  rw [enter_eq]
  exact (makeDirectory_confined hn hsites hsite hR).seq fun _ => enterRest_confined hoverride hR

theorem overrideOn_enter (hn : IsDiskName s.name) {w w' : World}
    (h : Stands home s.workspace.root w.disk) (hon : s.enter.on w = (.ok (), w')) :
    s.overrideOn w'.disk = s.overrideOn w.disk := by
  have hname := hn.toIsPlainName
  have hmake := @makeDirectory_confined s home ⟨fun q => q = s.workspace.sitesPlace home ∨
    q = s.directory.place home, fun _ => False, fun _ => True, False⟩ hn (Or.inl rfl) (Or.inr rfl)
    fun _ _ => trivial
  rw [enter_eq] at hon
  obtain ⟨a, w₁, hm, hon⟩ := parts_of_ok hon
  have hstands := hmake.ends w a w₁ h hm
  have hwithin := hmake.within w h
  rw [hm] at hwithin
  have hsame : w₁.disk.find? (s.overridePlace home) = w.disk.find? (s.overridePlace home) := by
    rcases hwithin.find? (s.overridePlace home) with h' | h' | ⟨h', -⟩
    · exact h'
    · have hlen := fun q (hq : s.overridePlace home = q) => congrArg List.length hq
      rw [overridePlace, place_directory_sites hname] at h' hlen
      rcases h' with h' | h'
      · simpa using hlen _ h'
      · simpa using hlen _ h'
    · exact h'.elim
  rw [overrideOn_eq hname h, ← hsame]
  have hstands' := (@enterRest_confined s home ⟨fun _ => True, fun _ => True, fun _ => True, False⟩
    trivial fun _ _ => trivial).ends w₁ () w' hstands hon
  rw [overrideOn_eq hname (stands_root hname hstands')]
  rcases enterRest_ok hstands hon with h' | ⟨h', hempty⟩
  · rw [h']
  · have hnew : overrideIn (some (.file "".toUTF8)) = overrideIn none := by
      rw [overrideIn, fromUTF8?_toUTF8]
      rfl
    rw [h', hempty, hnew]

/-! ## Entering alone -/

/-- Making two nested directories does the same if the first one is **there already**, when this
succeeds. -/
theorem pave_alone {R : Place → Prop} {d₁ d₂ : Disk} {place : Place} {a b : String}
    (hS : SameOn R d₁ d₂) (hR : R (place ++ [a, b]))
    (hroom : missing a = .notFound)
    (h₁ : d₁.find? (place ++ [a]) = none ∨ d₁.find? (place ++ [a]) = some .directory)
    (h₂ : d₂.find? (place ++ [a]) = some .directory)
    (hok : (pave d₂ place [a, b]).2 = none) :
    (pave d₁ place [a, b]).2 = none ∧ SameOn (fun q => R q ∨ q = place ++ [a])
      (pave d₁ place [a, b]).1 (pave d₂ place [a, b]).1 := by
  have hb : ∀ m, m ≠ [] → m <+: [b] → R (place ++ [a] ++ m) := fun m hne hm => by
    rw [List.append_assoc]
    rcases List.prefix_cons_iff.mp hm with rfl | ⟨t, rfl, ht⟩
    · exact absurd rfl hne
    · rwa [List.prefix_nil.mp ht]
  have hright : pave d₂ place [a, b] = pave d₂ (place ++ [a]) [b] := by rw [pave, h₂]
  -- with the first directory there, what is made is the same
  obtain ⟨d, hd, hleft⟩ : ∃ d, SameOn (fun q => R q ∨ q = place ++ [a]) d d₂ ∧
      pave d₁ place [a, b] = pave d (place ++ [a]) [b] := by
    rcases h₁ with h₁ | h₁
    · refine ⟨d₁.insert (place ++ [a]) .directory, ⟨hS.home, fun q hq => ?_⟩, ?_⟩
      · rw [find?_insert _ _ _ _ (concat_ne_nil place a)]
        split
        · next h => rw [← h, h₂]
        · next h => exact hS.find? q (hq.resolve_right fun hq => h hq.symm)
      · rw [pave, h₁]
        exact if_pos hroom
    · refine ⟨d₁, ⟨hS.home, fun q hq => ?_⟩, by rw [pave, h₁]⟩
      rcases hq with hq | rfl
      · exact hS.find? q hq
      · rw [h₁, h₂]
  obtain ⟨hsame, hfault⟩ := pave_congr [b] hd fun m hne hm => Or.inl (hb m hne hm)
  rw [hright] at hok ⊢
  rw [hleft]
  exact ⟨hfault.trans hok, hsame⟩

/-- The directories from the root of the workspace down to a site, **made from the top**. -/
def paveSite (s : Site) (d : Disk) : Disk × Option Fault :=
  pave d (s.workspace.root.place d.home) ["config", s.name]

theorem makeDirectory_ok_iff (hn : IsDiskName s.name) {w : World}
    (h : Stands home s.workspace.root w.disk) {w' : World} :
    (makeDirectories s.directory).on w = (.ok (), w') ↔
      s.directory.isLong = false ∧ (s.paveSite w.disk).2 = none ∧ w' = { w with disk := (s.paveSite w.disk).1 } := by
  rw [makeDirectories, tryChange_on, makeDirectories_join h.tree h.leads (isGoal_directory hn), ← paveSite]
  cases s.directory.isLong with
  | true => simp
  | false =>
    change ((s.paveSite w.disk).2.elim _ _, _) = _ ↔ _
    cases (s.paveSite w.disk).2 with
    | none => simp [eq_comm]
    | some fault => simp

/-- **Entering a site alone** does what it does after other sites, when the directory of all sites has
been made. -/
theorem enter_alone (hn : IsDiskName s.name) {R : Place → Prop}
    (hroot : ∀ x ∈ s.workspace.root.trail home, R x) (hsite : ∀ m, R (s.directory.place home ++ m))
    {w₁ w₂ w₂' : World} (h₁ : Stands home s.workspace.root w₁.disk)
    (h₂ : Stands home s.workspace.root w₂.disk) (hS : SameOn R w₁.disk w₂.disk)
    (hsites₁ : w₁.disk.find? (s.workspace.sitesPlace home) = none ∨
      w₁.disk.find? (s.workspace.sitesPlace home) = some .directory)
    (hsites₂ : w₂.disk.find? (s.workspace.sitesPlace home) = some .directory)
    (hon : s.enter.on w₂ = (.ok (), w₂')) :
    ∃ w₁', s.enter.on w₁ = (.ok (), w₁') ∧
      SameOn (fun q => R q ∨ q = s.workspace.sitesPlace home) w₁'.disk w₂'.disk := by
  have hname := hn.toIsPlainName
  set S : Scope := ⟨fun _ => True, fun _ => True, fun q => R q ∨ q = s.workspace.sitesPlace home, True⟩
  have htrail : ∀ x ∈ s.overridePath.trail home, S.reads x := by
    intro x hx
    rcases mem_trail_child home isPlainName_override hx with hx | rfl
    · rcases mem_directory_trail hname hx with hx | rfl | rfl
      · exact Or.inl (hroot x hx)
      · exact Or.inr rfl
      · exact Or.inl (by simpa using hsite [])
    · exact Or.inl (hsite _)
  have hmake := @makeDirectory_confined s home S hn trivial trivial htrail
  rw [enter_eq] at hon ⊢
  obtain ⟨_, v₂, hm₂, hon⟩ := parts_of_ok hon
  obtain ⟨hlong, hok, rfl⟩ := (makeDirectory_ok_iff hn h₂).mp hm₂
  have hsecond : R (s.workspace.root.place home ++ ["config", s.name]) := by
    rw [← place_directory hname]
    simpa using hsite []
  have hpave := @pave_alone R _ _ (s.workspace.root.place home) "config" s.name hS hsecond
    (by decide +kernel) hsites₁ hsites₂
    (by simpa only [paveSite, h₂.home_eq] using hok)
  have hm₁ : (makeDirectories s.directory).on w₁ =
      (.ok (), { w₁ with disk := (s.paveSite w₁.disk).1 }) := by
    refine (makeDirectory_ok_iff hn h₁).mpr ⟨hlong, ?_, rfl⟩
    rw [paveSite, h₁.home_eq]
    exact hpave.1
  have hsame : SameOn S.reads (s.paveSite w₁.disk).1 (s.paveSite w₂.disk).1 := by
    rw [paveSite, paveSite, h₁.home_eq, h₂.home_eq]
    exact hpave.2
  obtain ⟨hr, hd⟩ := (@enterRest_confined s home S trivial htrail).same trivial
    { w₁ with disk := (s.paveSite w₁.disk).1 } _ (hmake.ends w₁ _ _ h₁ hm₁) (hmake.ends w₂ _ _ h₂ hm₂) hsame
  rw [hon] at hr hd
  refine ⟨(s.enterRest.on { w₁ with disk := (s.paveSite w₁.disk).1 }).2, ?_, hd () hr⟩
  rw [bind_of_ok hm₁]
  exact Prod.ext hr rfl

/-! ## Visiting a site -/

/-- **Visits** a site: enters it and generates it. -/
def visit (s : Site) : Run Summary := do
  s.enter
  s.generate

/-- Whether an override file is **sound** for a site: its templates are normal and its variants plain. -/
def HasSoundOverride (s : Site) (d : Disk) : Prop :=
  ∀ o, s.overrideOn d = .ok o → o.IsNormal s.workspace.kinds ∧ o.HasPlainVariants s.workspace.kinds

/-- Whether all that a site depends on is among places, but for the directory of all sites: what leads to
the workspace, what is in the directory of the site, and the libraries. -/
structure Holds (R : Place → Prop) (home : Place) (s : Site) : Prop where
  root : ∀ x ∈ s.workspace.root.trail home, R x
  site : ∀ m, R (s.directory.place home ++ m)
  library : ∀ kind m, R (s.workspace.root.place home ++ (kind ++ "_variants") :: m)

/-- The scope of a site which says what it **depends on**. -/
def reading (R : Place → Prop) (home : Place) (s : Site) : Scope where
  writes q := ∃ kind, IsDiskName kind ∧ Outputs home (s.deviceDirectory kind) q
  rewrites _ := True
  reads q := R q ∨ q = s.workspace.sitesPlace home
  blind := True

variable {R : Place → Prop}

theorem Holds.trail (hR : Holds R home s) (hn : IsPlainName s.name) :
    ∀ x ∈ s.directory.trail home, (reading R home s).reads x := by
  intro x hx
  rcases mem_directory_trail hn hx with hx | rfl | rfl
  · exact Or.inl (hR.root x hx)
  · exact Or.inr rfl
  · exact Or.inl (by simpa using hR.site [])

theorem Holds.siteScope (hR : Holds R home s) (hn : IsPlainName s.name) {o : Override}
    (ho : o.IsNormal s.workspace.kinds) (hv : o.HasPlainVariants s.workspace.kinds) :
    SiteScope (reading R home s) home s o
      fun kind => IsDiskName kind ∧ s.workspace.kinds.contains kind = true := by
  refine ⟨⟨fun kind hk => ⟨fun q hq => ⟨kind, hk.1, hq⟩, fun q hq => ?_, fun q hq => ?_,
    fun q hq => ?_⟩, fun kind hk => ?_, ?_⟩, hR.trail hn, fun m => Or.inl (hR.site m),
    fun _ _ _ _ _ _ => trivial⟩
  · obtain ⟨names, rfl, -⟩ := (outputs_iff hk.1.toIsPlainName).mp hq
    exact Or.inl (hR.site names)
  · rw [deviceDirectory, hk.1.toIsPlainName.ofText] at hq
    rcases mem_trail_child home hk.1.toIsPlainName hq with hq | rfl
    · exact hR.trail hn q hq
    · exact Or.inl (hR.site _)
  · have hkv := isPlainName_variants hk.1.toIsPlainName
    rw [variantsDirectory, hkv.ofText] at hq
    rcases hq with hq | ⟨m, rfl⟩
    · rcases mem_trail_child home hkv hq with hq | rfl
      · exact Or.inl (hR.root q hq)
      · exact Or.inl (hR.library kind [])
    · rw [place_child home hkv, List.append_assoc]
      exact Or.inl (hR.library kind m)
  · have hmem : kind ∈ s.workspace.kinds := by simpa using hk.2
    exact ⟨fun _ h => ho.fits hmem h, fun v h => Or.inl (hv kind hmem v h)⟩
  · rintro name ⟨kind, hk, hout⟩
    exact not_outputs_of_length hk.toIsPlainName (by simp) hout

/-- Generating a site **depends only on** what it holds on to. -/
theorem Holds.generate_confined (hR : Holds R home s) (hn : IsPlainName s.name) :
    Confined (reading R home s) (fun d => Stands home s.directory d ∧ s.HasSoundOverride d) s.generate
      fun _ d => Stands home s.directory d := by
  refine Site.generate_confined hn (fun d hd => ⟨hd.1.tree, hd.1.home_eq⟩)
    (hR.trail hn) (fun m => Or.inl (hR.site m))
    (K := fun kind => IsDiskName kind ∧ s.workspace.kinds.contains kind = true)
    (fun d kind hd hk => ⟨hk.isDiskName hd.1.tree, hk.1⟩) fun d o hd ho => ?_
  obtain ⟨hnormal, hplain⟩ := hd.2 o ho
  exact hR.siteScope hn hnormal hplain

/-- The scope of a visit which says what may be changed. -/
def visiting (home : Place) (s : Site) : Scope where
  writes q := q = s.workspace.sitesPlace home ∨ s.directory.place home <+: q
  rewrites _ := False
  reads _ := True
  blind := False

theorem enter_visiting (hn : IsDiskName s.name) :
    Confined (visiting home s) (Stands home s.workspace.root) s.enter
      fun _ d => Stands home s.directory d :=
  enter_confined hn (Or.inl rfl) (Or.inr (List.prefix_refl _)) (Or.inr (List.prefix_append _ _))
    fun _ _ => trivial

theorem enter_null (hn : IsPlainName s.name) (hnull : ¬IsDiskName s.name) (w : World) :
    ∃ e, s.enter.on w = (.error e, w) := by
  have hmem : '\x00' ∈ s.name.toList := by
    by_contra h
    exact hnull ⟨hn, h⟩
  obtain ⟨fault, hfault⟩ := makeDirectories_null (d := w.disk) (p := s.workspace.sites) hn hmem
  have hmake : (makeDirectories s.directory).on w = (.error (.disk fault), w) := by
    rw [makeDirectories, tryChange_on, directory, hn.ofText, hfault]
    rfl
  exact ⟨.disk fault, by rw [enter_eq, bind_of_error hmake]⟩

/-- **A visit changes** only the directory of its site, and that of all sites. -/
theorem visit_within (hn : IsPlainName s.name) {w : World}
    (h : Stands home s.workspace.root w.disk) (ho : s.HasSoundOverride w.disk) :
    Within (visiting home s).writes (visiting home s).rewrites w.disk (s.visit.on w).2.disk := by
  by_cases hdisk : IsDiskName s.name
  · have henter := (enter_visiting hdisk).within w h
    rcases hon : s.enter.on w with ⟨r, w₁⟩
    rw [hon] at henter
    unfold visit
    cases r with
    | error e =>
      rw [bind_of_error hon]
      exact henter
    | ok a =>
      rw [bind_of_ok hon]
      have hstands := (enter_visiting hdisk).ends w a w₁ h hon
      have hsound : s.HasSoundOverride w₁.disk := by
        rw [HasSoundOverride, overrideOn_enter hdisk h hon]
        exact ho
      have hgenerate := (changing_confined hn hstands.tree
        fun o h => (hsound o h).1).within w₁ rfl
      refine henter.trans ⟨hgenerate.home, fun q => ?_⟩
      rcases hgenerate.find? q with h' | ⟨kind, hk, hout⟩ | ⟨⟨names, -, rfl⟩, -⟩
      · exact Or.inl h'
      · obtain ⟨names, rfl, -⟩ := (outputs_iff (hk.isDiskName hstands.tree).toIsPlainName).mp hout
        rw [hstands.home_eq]
        exact Or.inr (Or.inl (Or.inr (List.prefix_append _ _)))
      · rw [hstands.home_eq]
        exact Or.inr (Or.inl (Or.inr (List.prefix_append _ _)))
  · obtain ⟨e, he⟩ := enter_null hn hdisk w
    unfold visit
    rw [bind_of_error he]
    exact Within.refl _ _ _

theorem visit_ok (hn : IsPlainName s.name) {w w' : World} {summary : Summary}
    (hon : s.visit.on w = (.ok summary, w')) :
    IsDiskName s.name ∧ ∃ w₁, s.enter.on w = (.ok (), w₁) ∧ s.generate.on w₁ = (.ok summary, w') := by
  unfold visit at hon
  refine ⟨?_, ?_⟩
  · by_contra hnull
    obtain ⟨e, he⟩ := enter_null hn hnull w
    rw [bind_of_error he] at hon
    cases (Prod.mk.inj hon).1
  · obtain ⟨_, w₁, henter, hon⟩ := parts_of_ok hon
    exact ⟨w₁, henter, hon⟩

theorem sites_of_enter (hn : IsDiskName s.name) {w w' : World}
    (h : Stands home s.workspace.root w.disk) (hon : s.enter.on w = (.ok (), w')) :
    w.disk.find? (s.workspace.sitesPlace home) = none ∨
      w.disk.find? (s.workspace.sitesPlace home) = some .directory := by
  rw [enter_eq] at hon
  obtain ⟨_, w₁, hm, -⟩ := parts_of_ok hon
  obtain ⟨-, hok, -⟩ := (makeDirectory_ok_iff hn h).mp hm
  rw [paveSite, pave, h.home_eq] at hok
  rw [Workspace.sitesPlace]
  cases hf : w.disk.find? (s.workspace.root.place home ++ ["config"]) with
  | none => exact Or.inl rfl
  | some e =>
    rw [hf] at hok
    cases e with
    | directory => exact Or.inr rfl
    | file content => cases hok
    | link target => cases hok

/-- A site that has been visited **stands**. -/
theorem stands_of_visit (hn : IsPlainName s.name) {w w' : World} {summary : Summary}
    (h : Stands home s.workspace.root w.disk) (ho : s.HasSoundOverride w.disk)
    (hon : s.visit.on w = (.ok summary, w')) : Stands home s.directory w'.disk := by
  obtain ⟨hdisk, w₁, henter, hgenerate⟩ := visit_ok hn hon
  have hstands := (enter_visiting hdisk).ends w () w₁ h henter
  have hsound : ∀ o, s.overrideOn w₁.disk = .ok o → o.IsNormal s.workspace.kinds := by
    rw [overrideOn_enter hdisk h henter]
    exact fun o h => (ho o h).1
  have := (changing_confined hn hstands.tree hsound).ends w₁ summary w' rfl
    hgenerate
  rwa [hstands.home_eq] at this

/-- **Visiting a site alone** does what it does after other sites. -/
theorem visit_alone (hn : IsPlainName s.name) (hR : Holds R home s) {w₁ w₂ w₂' : World}
    {summary : Summary} (h₁ : Stands home s.workspace.root w₁.disk)
    (h₂ : Stands home s.workspace.root w₂.disk) (hS : SameOn R w₁.disk w₂.disk)
    (ho : s.HasSoundOverride w₁.disk)
    (hsites₁ : w₁.disk.find? (s.workspace.sitesPlace home) = none ∨
      w₁.disk.find? (s.workspace.sitesPlace home) = some .directory)
    (hsites₂ : w₂.disk.find? (s.workspace.sitesPlace home) = some .directory)
    (hon : s.visit.on w₂ = (.ok summary, w₂')) :
    ∃ w₁', s.visit.on w₁ = (.ok summary, w₁') ∧
      SameOn (fun q => R q ∨ q = s.workspace.sitesPlace home) w₁'.disk w₂'.disk := by
  obtain ⟨hdisk, v₂, henter₂, hgenerate₂⟩ := visit_ok hn hon
  obtain ⟨v₁, henter₁, hsame⟩ := enter_alone hdisk hR.root hR.site h₁ h₂ hS hsites₁ hsites₂ henter₂
  have hoverride : s.overrideOn w₂.disk = s.overrideOn w₁.disk := by
    rw [overrideOn_eq hn h₁, overrideOn_eq hn h₂, overridePlace, hS.find? _ (hR.site _)]
  have hv₁ : Stands home s.directory v₁.disk ∧ s.HasSoundOverride v₁.disk := by
    refine ⟨(enter_visiting hdisk).ends w₁ () v₁ h₁ henter₁, ?_⟩
    rw [HasSoundOverride, overrideOn_enter hdisk h₁ henter₁]
    exact ho
  have hv₂ : Stands home s.directory v₂.disk ∧ s.HasSoundOverride v₂.disk := by
    refine ⟨(enter_visiting hdisk).ends w₂ () v₂ h₂ henter₂, ?_⟩
    rw [HasSoundOverride, overrideOn_enter hdisk h₂ henter₂, hoverride]
    exact ho
  obtain ⟨hr, hd⟩ := (hR.generate_confined hn).same trivial v₁ v₂ hv₁ hv₂ hsame
  rw [hgenerate₂] at hr hd
  refine ⟨(s.generate.on v₁).2, ?_, hd summary hr⟩
  rw [visit, bind_of_ok henter₁]
  exact Prod.ext hr rfl

end Site

end SiteGen
