import SiteGen.Proofs.Fixture.Evaluate
import SiteGen.Proofs.Replacement.Apply
import SiteGen.Proofs.Site.Devices

/-!
# Generating a site

* `Site.overrideOn`, `Site.readOverride_on`: what is read from the override file.
* `Site.SiteScope`, `Site.generate_confined`: generating a site is confined to the outputs of its devices
  and to the files that its replacements select.
-/

namespace SiteGen

open Disk SiteGen.Path Run Device

namespace Disk

variable {d : Disk} {p : Path}

theorem hasDirectory_of_listing {children : List (String × Entry)} (h : d.listing p = .ok children) :
    d.hasDirectory p = true := by
  unfold listing at h
  unfold hasDirectory
  cases hl : d.look p with
  | error fault => simp [hl, bind, Except.bind] at h
  | ok r =>
    obtain ⟨q, e⟩ := r
    simp only [hl, bind, Except.bind] at h
    cases e with
    | directory => rfl
    | file content => cases h
    | link target => cases h

end Disk

namespace Override

/-- **Reading** an override file goes by its tokens and its nodes. -/
theorem ofText_eq {lines : List String} {tokens : List Yaml.Token} {root : Yaml.WrittenNode} {v : Yaml} {o : Override}
    (htext : ((lines.flatMap String.toList).all isBlank, (lines.flatMap String.toList).all Yaml.isAllowed) =
      (false, true))
    (htokens : Yaml.Token.ofText (lines.flatMap String.toList) = tokens)
    (hroot : Yaml.Document.first? tokens = some ⟨root, false⟩)
    (hv : Yaml.ofDocument root = .ok v) (ho : ofYaml v = .ok o) : ofText (String.join lines) = .ok o := by
  obtain ⟨hblank, hallowed⟩ := Prod.mk.inj htext
  have hlines : (String.join lines).toList = lines.flatMap String.toList := by
    rw [String.join_eq, String.toList_ofList, List.flatMap_def]
  have hparse : Yaml.parse (String.join lines) = .ok v := by
    simp [Yaml.parse, hlines, hallowed, htokens, hroot, Yaml.orMalformed, hv, bind, Except.bind]
  rw [ofText, hlines, hblank, hparse]
  simp [ho, Except.mapError]

end Override

variable {S : Scope} {home : Place}

namespace Site

theorem isPlainName_override : IsPlainName FilesetReplacement.overrideName := by
  refine ⟨?_, ?_, ?_, ?_⟩ <;> decide

variable {s : Site} {o : Override}

theorem evaluateEach_confined : ∀ {directories : List Path},
    (∀ t ∈ directories, ∃ kind, TestsScope S home s.directory [kind, testsName] ∧
      t = (s.deviceDirectory kind).join ⟨[testsName]⟩) →
    Confined S (Stands home s.directory) (evaluateEach directories)
      fun _ d => Stands home s.directory d
  | [], _ => .pure fun _ hd => hd
  | t :: rest, h => by
    obtain ⟨kind, hs, rfl⟩ := h t List.mem_cons_self
    have hkind : IsPlainName kind := hs.plain kind (by simp)
    have hjoin : (s.deviceDirectory kind).join ⟨[testsName]⟩ =
        s.directory.join ⟨[kind, testsName]⟩ := by
      rw [deviceDirectory, hkind.ofText]
      exact join_join (continues_single kind) (by simpa using hkind.ne_empty)
        (continues_single testsName)
    have hrest := evaluateEach_confined fun u hu => h u (List.mem_cons_of_mem _ hu)
    unfold evaluateEach
    rw [hjoin]
    exact (evaluateFixtures_confined hs).seq fun n => hrest.seq fun m => .pure fun _ hd => hd

/-! ## Carrying out replacements -/

theorem replaceAll_confined {all : List FilesetReplacement}
    (hs : FilesetReplacement.Serves S home s.directory all) :
    ∀ {rs : List FilesetReplacement}, (∀ r ∈ rs, r ∈ all) →
      Confined S (Stands home s.directory) (s.replaceAll rs) fun _ d => Stands home s.directory d
  | [], _ => .pure fun _ hd => hd
  | r :: rest, h => by
    unfold replaceAll
    refine (FilesetReplacement.apply_confined hs (h r List.mem_cons_self)).seq fun n => ?_
    refine (replaceAll_confined hs fun u hu => h u (List.mem_cons_of_mem _ hu)).seq fun m => ?_
    exact .pure fun _ hd => hd

/-! ## Reading the override file -/

/-- **What is read** from the override file on a disk. -/
def overrideOn (s : Site) (d : Disk) : Except Error Override :=
  if d.hasFile s.overridePath then
    match d.readText s.overridePath with
    | .ok text => Override.ofText text
    | .error fault => .error (.disk fault)
  else .ok .empty

theorem readOverride_on (s : Site) (w : World) :
    (s.readOverride.on w).1 = s.overrideOn w.disk ∧ (s.readOverride.on w).2.disk = w.disk := by
  unfold readOverride overrideOn
  rw [bind_of_ok (inspect_on _ _)]
  cases hf : w.disk.hasFile s.overridePath with
  | false => exact ⟨rfl, rfl⟩
  | true =>
    simp only [if_true]
    have htext : (fileText s.overridePath).on w = (Run.query (·.readText s.overridePath)).on w := by
      unfold fileText
      rw [bind_of_ok (inspect_on _ _), hf, if_pos rfl]
    rw [query_on] at htext
    cases hr : w.disk.readText s.overridePath with
    | error fault =>
      rw [hr] at htext
      rw [bind_of_error htext]
      exact ⟨rfl, rfl⟩
    | ok text =>
      rw [hr] at htext
      rw [bind_of_ok htext, ofResult_on]
      exact ⟨rfl, rfl⟩

theorem overrideOn_of_text {d : Disk} {text : String} (htext : d.readText s.overridePath = .ok text)
    (ho : Override.ofText text = .ok o) : s.overrideOn d = .ok o := by
  rw [overrideOn, if_pos (hasFile_of_readText htext), htext]
  exact ho

theorem readOverride_of_text {w : World} {text : String} (htext : w.disk.readText s.overridePath = .ok text)
    (ho : Override.ofText text = .ok o) : s.readOverride.on w = (.ok o, w) := by
  unfold readOverride
  rw [bind_of_ok (inspect_on _ _), hasFile_of_readText htext, if_pos rfl, bind_of_ok (fileText_on htext),
    ofResult_on, ho]

theorem readOverride_confined {I : Disk → Prop}
    (hsame : S.blind → ∀ d₁ d₂, I d₁ → I d₂ → SameOn S.reads d₁ d₂ →
      s.overrideOn d₁ = s.overrideOn d₂) :
    Confined S I s.readOverride fun o d => I d ∧ s.overrideOn d = .ok o := by
  refine ⟨fun w _ => ?_, fun w o w' hw hon => ?_, fun hb w₁ w₂ h₁ h₂ hS => ?_⟩
  · rw [(s.readOverride_on w).2]
    exact Within.refl _ _ _
  · obtain ⟨hr, hd⟩ := s.readOverride_on w
    rw [hon] at hr hd
    exact ⟨hd ▸ hw, by rw [hd, ← hr]⟩
  · obtain ⟨hr₁, hd₁⟩ := s.readOverride_on w₁
    obtain ⟨hr₂, hd₂⟩ := s.readOverride_on w₂
    rw [hr₁, hr₂, hd₁, hd₂, hsame hb _ _ h₁ h₂ hS]
    exact ⟨rfl, fun _ _ => hS⟩

/-! ## Generating -/

/-- Whether a scope is **for a site** with an override file: it is for its devices, of kinds with `K`,
and for the replacements. -/
structure SiteScope (S : Scope) (home : Place) (s : Site) (o : Override) (K : String → Prop) : Prop
    extends DevicesScope S home s o K where
  trail : ∀ x ∈ s.directory.trail home, S.reads x
  below : ∀ m, S.reads (s.directory.place home ++ m)
  selected : ∀ rs, o.replacements = .ok rs → ∀ r ∈ rs, ∀ m, r.Selects m →
    S.rewrites (s.directory.place home ++ m)

/-- What comes **after the devices**: the replacements, and the evaluation of the tests. -/
def finish (s : Site) (o : Override) (devices : List (String × Option Path)) : Run Summary := do
  let replacements ← Run.ofResult o.replacements
  let replaced ← s.replaceAll replacements
  let evaluated ← evaluateEach (devices.filterMap (·.2))
  pure ⟨devices.map (·.1), replaced, evaluated⟩

theorem generate_eq (s : Site) : s.generate = (do
    let o ← s.readOverride
    let children ← Run.query (·.listing s.directory)
    let devices ← s.processEach o children
    s.finish o devices) := rfl

variable {K : String → Prop}

theorem testsScope (hs : SiteScope S home s o K) {kind : String} (hkind : IsPlainName kind)
    (hk : K kind) : TestsScope S home s.directory [kind, testsName] := by
  refine ⟨by simpa using ⟨hkind, isDiskName_tests.toIsPlainName⟩, by simp, hs.trail,
    hs.below, fun name => (hs.device kind hk).writes _ (Or.inr ?_)⟩
  rw [Under, place_deviceDirectory hkind]
  exact ⟨[name], by simp⟩

theorem finish_confined (hp : s.directory.Accepted) (hs : SiteScope S home s o K)
    {devices : List (String × Option Path)} (hd : s.Made K devices) :
    Confined S (Stands home s.directory) (s.finish o devices) fun _ d => Stands home s.directory d := by
  unfold finish
  refine (Confined.ofResult _).bind fun rs => .of_pre fun hrs => ?_
  have hserves : FilesetReplacement.Serves S home s.directory rs :=
    ⟨hp, hs.trail, hs.below, hs.selected rs hrs⟩
  refine (replaceAll_confined hserves fun _ h => h).seq fun replaced => ?_
  have htests : ∀ t ∈ devices.filterMap (·.2),
      ∃ kind, TestsScope S home s.directory [kind, testsName] ∧
        t = (s.deviceDirectory kind).join ⟨[testsName]⟩ := by
    intro t ht
    obtain ⟨device, hm, hsome⟩ := List.mem_filterMap.mp ht
    obtain ⟨hname, hk, htests⟩ := hd device hm
    exact ⟨device.1, testsScope hs hname.toIsPlainName hk, htests t hsome⟩
  exact (evaluateEach_confined htests).seq fun n => .pure fun _ hd => hd

theorem listing_on {w : World} {children : List (String × Entry)}
    (h : w.disk.listing s.directory = .ok children) :
    (Run.query (·.listing s.directory)).on w = (.ok children, w) := by
  rw [query_on, h]
  rfl

theorem listing_making {d : Disk} (ht : d.IsTree)
    {children : List (String × Entry)} (h : d.listing s.directory = .ok children) :
    Making d.home s children d ∧ s.AmongKinds (s.HasDevice d) children ∧ s.directory.Accepted := by
  obtain ⟨hleads, haccepted⟩ := leads_of_hasDirectory ht.noLink (hasDirectory_of_listing h)
  have hdirectory : ∀ child ∈ children, child.2.isDirectory = true →
      d.find? (s.directory.place d.home ++ [child.1]) = some .directory := by
    rintro ⟨name, e⟩ hm hdir
    rw [(mem_listing ht h hm).2]
    cases e with
    | directory => rfl
    | file content => cases hdir
    | link target => cases hdir
  refine ⟨⟨⟨ht, rfl, hleads⟩, hdirectory⟩, fun child hm => ?_, haccepted⟩
  exact ⟨(mem_listing ht h hm).1, fun hdir hkind => ⟨hkind, hdirectory child hm hdir⟩⟩

/-- **Generating a site** is confined to the outputs of its devices and the files that its replacements
select. -/
theorem generate_confined (hn : IsPlainName s.name) {I : Disk → Prop}
    (hI : ∀ d, I d → d.IsTree ∧ d.home = home)
    (htrail : ∀ x ∈ s.directory.trail home, S.reads x)
    (hbelow : ∀ m, S.reads (s.directory.place home ++ m))
    (hK : ∀ d kind, I d → s.HasDevice d kind → K kind)
    (hs : ∀ d o, I d → s.overrideOn d = .ok o → SiteScope S home s o K) :
    Confined S I s.generate fun _ d => Stands home s.directory d := by
  have hoverride : ∀ x ∈ s.overridePath.trail home, S.reads x := fun x hx => by
    rcases mem_trail_join home (descends_single isPlainName_override) hx with hx | ⟨m, -, -, rfl⟩
    · exact htrail x hx
    · exact hbelow m
  have hread : Confined S I s.readOverride fun o d => I d ∧ SiteScope S home s o K := by
    refine (readOverride_confined fun _ d₁ d₂ h₁ _ hS => ?_).post fun o d hd =>
      ⟨hd.1, hs d o hd.1 hd.2⟩
    have hx : ∀ x ∈ s.overridePath.trail d₁.home, S.reads x := by rwa [(hI d₁ h₁).2]
    unfold overrideOn
    rw [hasFile_congr (hI d₁ h₁).1.noLink hS hx, readText_congr (hI d₁ h₁).1.noLink hS hx]
  rw [generate_eq]
  refine hread.bind fun o => .of_pre fun hscope => ?_
  have hlist : Confined S I (Run.query (·.listing s.directory)) fun children d =>
      Making home s children d ∧ s.AmongKinds K children ∧ s.directory.Accepted := by
    refine (listing_confined (hI) htrail
      fun name => hbelow [name]).post fun children d hd => ?_
    obtain ⟨ht, rfl⟩ := hI d hd.1
    obtain ⟨hmaking, hamong, haccepted⟩ := listing_making ht hd.2
    exact ⟨hmaking, fun child hm => ⟨(hamong child hm).1,
      fun hdir hkind => hK d _ hd.1 ((hamong child hm).2 hdir hkind)⟩, haccepted⟩
  exact hlist.bind fun children => .of_pre fun ⟨hamong, haccepted⟩ =>
    (processEach_confined hn hscope.toDevicesScope hamong).bind fun devices =>
      .of_pre fun hd => finish_confined haccepted hscope hd

end Site

end SiteGen
