import SiteGen.Device
import SiteGen.Proofs.Tree.Copy

/-!
# The files of a device

* `Device.clear_confined`: clearing a device changes only its outputs, and nothing is there afterwards.
* `Device.copyRoot_confined`, `Device.copyVariant_confined`, `Device.copyAll_confined`: copying the
  files of a device is confined to its outputs.
-/

namespace SiteGen

open Disk SiteGen.Path Run

namespace Device

/-! ## Outputs -/

/-- The **outputs** of a device: all that is at and below its configuration and its tests. -/
def Outputs (home : Place) (base : Path) (q : Place) : Prop :=
  Under home base configName q ∨ Under home base testsName q

theorem isDiskName_config : IsDiskName configName := by
  refine ⟨⟨?_, ?_, ?_, ?_⟩, ?_⟩ <;> decide

theorem isDiskName_tests : IsDiskName testsName := by
  refine ⟨⟨?_, ?_, ?_, ?_⟩, ?_⟩ <;> decide

theorem isDiskName_root : IsDiskName rootVariant := by
  refine ⟨⟨?_, ?_, ?_, ?_⟩, ?_⟩ <;> decide

variable {S : Scope} {home : Place} {base : Path} {d : Disk}

/-! ## Clearing -/

/-- What goes when a name in a directory is cleared: what is at and below it, if its path is not too long. -/
def Emptied (home : Place) (base : Path) (name : String) (q : Place) : Prop :=
  (base.join ⟨[name]⟩).isLong = false ∧ Under home base name q

instance (home : Place) (base : Path) (name : String) : DecidablePred (Emptied home base name) :=
  fun _ => inferInstanceAs (Decidable (_ ∧ _))

theorem clearDirectory_long {p : Path} (hlong : p.isLong = true) (w : World) :
    (clearDirectory p).on w = (.ok (), w) := by
  unfold clearDirectory
  rw [bind_of_ok (inspect_on _ _), hasAny_of_isLong hlong]
  rfl

theorem clearDirectory_on {w : World} (h : Stands home base w.disk) {name : String}
    (hn : IsDiskName name) (hlong : (base.join ⟨[name]⟩).isLong = false) :
    (clearDirectory (base.join ⟨[name]⟩)).on w =
      match w.disk.find? (base.place home ++ [name]) with
      | none => (.ok (), w)
      | some e => if e.isDirectory then
          (.ok (), { w with disk := w.disk.eraseBelow (base.place home ++ [name]) })
        else (.error (.disk .notDirectory), w) := by
  obtain ⟨ht, rfl, hp⟩ := h
  unfold clearDirectory
  rw [bind_of_ok (inspect_on _ _), hasAny_child ht hp hn, hlong]
  cases hf : w.disk.find? (base.place w.disk.home ++ [name]) with
  | none => rfl
  | some e =>
    simp only [Option.isSome_some, Bool.not_false, Bool.true_and, if_true]
    rw [tryChange_on, removeAll_child ht hp hn hlong hf]
    cases e with
    | directory => rfl
    | file content => rfl
    | link target => rfl

/-- Clearing a name **ends well** if no file is there, and then nothing is there. -/
theorem clearDirectory_ok {w : World} (h : Stands home base w.disk) {name : String}
    (hn : IsDiskName name)
    (hfile : ∀ content, w.disk.find? (base.place home ++ [name]) ≠ some (.file content)) :
    ∃ d, (clearDirectory (base.join ⟨[name]⟩)).on w = (.ok (), { w with disk := d }) ∧ d.IsTree ∧
      d.home = home ∧
      ∀ x, d.find? x = if Emptied home base name x then none else w.disk.find? x := by
  have hne := concat_ne_nil (base.place home) name
  cases hlong : (base.join ⟨[name]⟩).isLong with
  | true => exact ⟨w.disk, clearDirectory_long hlong w, h.tree, h.home_eq, fun x => by simp [Emptied, hlong]⟩
  | false =>
    have hemptied : ∀ x, Emptied home base name x ↔ Under home base name x := fun x => by
      simp [Emptied, hlong]
    simp only [hemptied]
    rw [clearDirectory_on h hn hlong]
    cases hf : w.disk.find? (base.place home ++ [name]) with
    | none =>
      refine ⟨w.disk, rfl, h.tree, h.home_eq, fun x => ?_⟩
      split
      · next hx => exact h.tree.find?_none hf hx
      · rfl
    | some e =>
      cases e with
      | file content => exact absurd hf (hfile content)
      | link target => exact absurd hf (h.tree.noLink _ _)
      | directory =>
        refine ⟨_, rfl, h.tree.eraseBelow _, h.home_eq, fun x => ?_⟩
        by_cases hx : x = []
        · subst hx
          rw [find?_nil, find?_nil, if_neg]
          exact fun hc => hne (List.prefix_nil.mp hc)
        · rw [find?_eraseBelow _ _ _ hx]
          rfl

theorem not_file_of_ok {w w' : World} (h : Stands home base w.disk) {name : String}
    (hn : IsDiskName name) (hlong : (base.join ⟨[name]⟩).isLong = false)
    (hon : (clearDirectory (base.join ⟨[name]⟩)).on w = (.ok (), w')) :
    ∀ content, w.disk.find? (base.place home ++ [name]) ≠ some (.file content) := by
  intro content hf
  rw [clearDirectory_on h hn hlong, hf] at hon
  cases (Prod.mk.inj hon).1

/-- **Clearing a name** is confined to what is at and below it; nothing is there afterwards, if the path is not
too long. -/
theorem clearDirectory_confined {name : String} (hn : IsDiskName name)
    (hW : ∀ x, Under home base name x → S.writes x)
    (hR : S.reads (base.place home ++ [name])) :
    Confined S (Stands home base) (clearDirectory (base.join ⟨[name]⟩)) fun _ d =>
      d.IsTree ∧ d.home = home ∧ (∀ x, Emptied home base name x → d.find? x = none) ∧
        ((∀ x ∈ base.trail home, ¬Emptied home base name x) → Stands home base d) := by
  cases hlong : (base.join ⟨[name]⟩).isLong with
  | true =>
    refine ⟨fun w hw => ?_, fun w a w' hw hon => ?_, fun _ w₁ w₂ h₁ h₂ hS => ?_⟩
    · rw [clearDirectory_long hlong]
      exact Within.refl _ _ _
    · rw [clearDirectory_long hlong] at hon
      obtain rfl := (Prod.mk.inj hon).2
      refine ⟨hw.tree, hw.home_eq, fun x hx => ?_, fun _ => hw⟩
      rw [hx.1] at hlong
      cases hlong
    · rw [clearDirectory_long hlong, clearDirectory_long hlong]
      exact ⟨rfl, fun _ _ => hS⟩
  | false =>
    refine ⟨fun w hw => ?_, fun w a w' hw hon => ?_, fun _ w₁ w₂ h₁ h₂ hS => ?_⟩
    · rw [clearDirectory_on hw hn hlong]
      split
      · exact Within.refl _ _ _
      · split
        · exact within_eraseBelow hW _
        · exact Within.refl _ _ _
    · obtain ⟨d, hd, ht, hhome, hf⟩ := clearDirectory_ok hw hn (not_file_of_ok hw hn hlong hon)
      rw [hd] at hon
      obtain rfl := (Prod.mk.inj hon).2
      refine ⟨ht, hhome, fun x hx => by rw [hf, if_pos hx], fun hout => ?_⟩
      refine ⟨ht, hhome, hw.leads.noNull, fun x hx => ?_⟩
      rw [hhome] at hx
      rw [hf, if_neg (hout x hx)]
      exact hw.leads.onTrail x (by rwa [hw.home_eq])
    · rw [clearDirectory_on h₁ hn hlong, clearDirectory_on h₂ hn hlong, hS.find? _ hR]
      split
      · exact ⟨rfl, fun _ _ => hS⟩
      · split
        · exact ⟨rfl, fun _ _ => hS.eraseBelow _⟩
        · exact ⟨rfl, fun _ h => by cases h⟩

theorem not_under_of_under {a b : String} (hab : a ≠ b) {x : Place} (h : Under home base a x) :
    ¬Under home base b x := by
  intro h'
  obtain ⟨m, rfl⟩ := h
  have := List.prefix_append_right_inj (base.place home) |>.mp (by
    have h'' : base.place home ++ [b] <+: base.place home ++ ([a] ++ m) := by
      rw [← List.append_assoc]
      exact h'
    exact h'')
  exact hab (List.cons_prefix_cons.mp this).1.symm

/-- Where the root of a workspace **cannot be reached** any more. -/
structure Lost (home : Place) (root : Path) (d : Disk) : Prop where
  tree : d.IsTree
  home_eq : d.home = home
  missing : ∃ x ∈ passed (root.start home) root.segments, d.find? x = none

variable {root : Path}

theorem Lost.join (h : Lost home root d) {q : Path} (hq : Continues q) :
    Lost home (root.join q) d := by
  obtain ⟨x, hx, hnone⟩ := h.missing
  refine ⟨h.tree, h.home_eq, x, ?_, hnone⟩
  rw [passed_join home hq]
  exact List.mem_append_left _ hx

theorem Lost.hasAny_join (h : Lost home root d) {q : Path} (hq : Continues q) :
    d.hasAny (root.join q) = false := by
  obtain ⟨x, hx, hnone⟩ := h.missing
  refine hasAny_of_missing h.tree.noLink (x := x) ?_ hnone
  rw [h.home_eq, passed_join home hq]
  exact List.mem_append_left _ hx

theorem mem_passed_of_outputs {q : Path} (hq : Descends q) {name : String} {x : Place}
    (hx : x ∈ (root.join q).trail home) (hunder : Under home (root.join q) name x) :
    x ∈ passed (root.start home) root.segments := by
  have hlen : (root.place home ++ q.steps).length < x.length := by
    have := hunder.length_le
    rw [place_down home hq, List.length_append, List.length_singleton] at this
    omega
  rw [trail, List.mem_cons, place_down home hq, passed_join home hq.toContinues, List.mem_append] at hx
  rcases hx with rfl | hx | hx
  · exact absurd hlen (lt_irrefl _)
  · exact hx
  · obtain ⟨m, -, hm, rfl⟩ := (mem_passed_down hq.noDots).mp hx
    have := hm.length_le
    simp only [List.length_append] at hlen
    rw [steps] at hlen
    omega

/-- Whether the way to a device is **away** from its outputs. -/
def Away (home : Place) (base : Path) : Prop := ∀ x ∈ base.trail home, ¬Outputs home base x

theorem isLong_tests {device : Device} (h : device.config.isLong = false) : device.tests.isLong = false :=
  isLong_of_le (continues_single testsName) (continues_single configName) (by decide +kernel) h

/-- **Clearing a device** is confined to its outputs. Afterwards they are gone, and so is the workspace
if the way to it went through them; unless the path of the configuration is too long. -/
theorem clear_confined {device : Device} {q : Path} (hq : Descends q)
    (hdir : device.directory = root.join q)
    (hW : ∀ x, Outputs home device.directory x → S.writes x)
    (hR : ∀ x, Outputs home device.directory x → S.reads x) :
    Confined S (Stands home device.directory) device.clear fun _ d =>
      d.IsTree ∧ d.home = home ∧ (Away home device.directory → Stands home device.directory d) ∧
        (device.config.isLong = false →
          (Away home device.directory → ∀ x, Outputs home device.directory x → d.find? x = none) ∧
          (¬Away home device.directory → Lost home root d)) := by
  have hconfig := @clearDirectory_confined S home device.directory _ isDiskName_config
    (fun x hx => hW x (Or.inl hx)) (hR _ (Or.inl (List.prefix_refl _)))
  have lost : ∀ {name : String} {x : Place}, x ∈ device.directory.trail home →
      Under home device.directory name x → ∀ d : Disk, d.IsTree → d.home = home →
      d.find? x = none → Lost home root d := by
    intro name x hx hunder d ht hhome hnone
    rw [hdir] at hx hunder
    exact ⟨ht, hhome, x, mem_passed_of_outputs hq hx hunder, hnone⟩
  unfold clear
  by_cases hfirst : ∀ x ∈ device.directory.trail home, ¬Emptied home device.directory configName x
  · -- the device can still be reached when its tests are cleared
    have htests := ((@clearDirectory_confined
      { S with writes := Under home device.directory testsName, rewrites := fun _ => False }
      home device.directory _ isDiskName_tests (fun _ hx => hx)
      (hR _ (Or.inr (List.prefix_refl _)))).frame
      (K := fun d => ∀ x, Emptied home device.directory configName x → d.find? x = none)
      (fun d d' _ hgone hwithin x hx => by
        rcases hwithin.find? x with h | h | ⟨h, -⟩
        · rw [h, hgone x hx]
        · exact absurd h (not_under_of_under (by decide) hx.2)
        · exact h.elim)).enlarge (S := S) (fun x hx => hW x (Or.inr hx)) (fun _ h => h.elim)
    refine (hconfig.post fun _ d hd => ⟨hd.2.2.2 hfirst, hd.2.2.1⟩).seq fun _ =>
      htests.post fun _ d hd => ?_
    obtain ⟨⟨ht, hhome, hgone, hstands⟩, hgone'⟩ := hd
    refine ⟨ht, hhome, fun haway => hstands fun x hx hunder => haway x hx (Or.inr hunder.2),
      fun hlong => ⟨fun haway x hx => ?_, fun haway => ?_⟩⟩
    · exact hx.elim (fun hx => hgone' x ⟨hlong, hx⟩) fun hx => hgone x ⟨isLong_tests hlong, hx⟩
    · unfold Away at haway
      push Not at haway
      obtain ⟨x, hx, hunder | hunder⟩ := haway
      · exact absurd ⟨hlong, hunder⟩ (hfirst x hx)
      · exact lost hx hunder d ht hhome (hgone x ⟨isLong_tests hlong, hunder⟩)
  · push Not at hfirst
    obtain ⟨x, hx, hlong, hunder⟩ := hfirst
    refine (hconfig.post fun _ d hd => lost hx hunder d hd.1 hd.2.1 (hd.2.2.1 x ⟨hlong, hunder⟩)).seq
      fun _ => ?_
    have hnone : ∀ d, Lost home root d → d.hasAny device.tests = false := fun d hd => by
      rw [tests, hdir]
      exact (hd.join hq.toContinues).hasAny_join (continues_single testsName)
    unfold clearDirectory
    refine (Confined.inspect (S := S) fun _ d₁ d₂ h₁ h₂ _ => ?_).bind fun b => ?_
    · rw [hnone d₁ h₁, hnone d₂ h₂]
    · refine .ite (fun hb => .of_not fun d hd => ?_) fun _ => .pure fun d hd =>
        ⟨hd.1.tree, hd.1.home_eq, fun haway => absurd (Or.inl hunder) (haway x hx), fun _ =>
          ⟨fun haway => absurd (Or.inl hunder) (haway x hx), fun _ => hd.1⟩⟩
      rw [← hd.2, hnone d hd.1] at hb
      cases hb

/-! ## Copying -/

/-- Whether a scope **sees** a device: its outputs and what leads to it may be read. -/
structure Sees (S : Scope) (home : Place) (base : Path) : Prop where
  reads : ∀ x, Outputs home base x → S.reads x
  trail : ∀ x ∈ base.trail home, S.reads x

/-- Whether a scope **serves** a device: its outputs may also be changed, and what leads to it is not
among them. -/
structure Serves (S : Scope) (home : Place) (base : Path) : Prop extends Sees S home base where
  writes : ∀ x, Outputs home base x → S.writes x
  away : Away home base

/-- Whether a path may be a **source** of a device. It may be read; and if it matters what is read, it
is away from the outputs of the device. -/
structure Source (S : Scope) (home : Place) (base p : Path) : Prop where
  seen : ∀ x, Seen home p x → S.reads x
  away : S.blind → ∀ x, Seen home p x → ¬Outputs home base x

namespace Source

variable {p : Path}

theorem child (h : Source S home base p) {name : String} (hn : IsDiskName name) :
    Source S home base (p.join ⟨[name]⟩) :=
  ⟨fun x hx => h.seen x (seen_of_child hn.toIsPlainName hx),
    fun hb x hx => h.away hb x (seen_of_child hn.toIsPlainName hx)⟩

theorem apart (h : Source S home base p) (hb : S.blind) (hp : p.Accepted) {top : String}
    (htop : ∀ x, Under home base top x → Outputs home base x) : Apart home base top p :=
  ⟨hp, fun x hx hu => h.away hb x (Or.inl hx) (htop x hu),
    fun _ hu => h.away hb _ (Or.inr (List.prefix_append _ _)) (htop _ hu)⟩

end Source

theorem copySource_confined (hs : Serves S home base) {p goal : Path} (hp : Source S home base p)
    {top : String} (htop : ∀ x, Under home base top x → Outputs home base x)
    (hg : Goal base top goal) {I : Disk → Prop}
    (hI : ∀ d, I d → Stands home base d ∧ d.hasDirectory p = true) :
    Confined S I (copyTree p goal) fun _ d => Stands home base d := by
  have hfound := fun d hd => leads_of_hasDirectory (hI d hd).1.tree.noLink (hI d hd).2
  by_cases haccepted : p.Accepted
  · exact copyTree_confined hg hI (fun x hx => hs.writes x (htop x hx)) hs.trail
      (fun x hx => hs.reads x (htop x hx)) fun hb =>
      ⟨hp.apart hb haccepted htop, hp.seen, fun d hd => (hfound d hd).1⟩
  · exact .of_not fun d hd => haccepted (hfound d hd).2

theorem hasDirectory_confined {p : Path} (hp : ∀ x ∈ p.trail home, S.reads x) :
    Confined S (Stands home base) (Run.inspect (·.hasDirectory p))
      fun b d => Stands home base d ∧ d.hasDirectory p = b :=
  inspect_congr (fun _ hd => ⟨hd.tree, hd.home_eq⟩) hp fun _ _ h hS hx => hasDirectory_congr h hS hx

variable {device : Device}

theorem goal_config (device : Device) : Goal device.directory configName device.config :=
  ⟨[], by simpa using isDiskName_config, rfl⟩

theorem goal_tests (device : Device) : Goal device.directory testsName device.tests :=
  ⟨[], by simpa using isDiskName_tests, rfl⟩

theorem goal_part (device : Device) {name : String} (hn : IsDiskName name) :
    Goal device.directory configName (device.config.join ⟨[name]⟩) :=
  ⟨[name], by simpa using ⟨isDiskName_config, hn⟩,
    join_join (continues_single configName) (by simp [configName]) (continues_single name)⟩

/-! ### The tests that are copied with the configuration -/

theorem place_config (device : Device) (home : Place) :
    device.config.place home = device.directory.place home ++ [configName] :=
  place_child home isDiskName_config.toIsPlainName

theorem under_config_of_tests {x : Place} (hx : device.config.place home ++ [testsName] <+: x) :
    Under home device.directory configName x := by
  rw [place_config] at hx
  exact (List.prefix_append _ _).trans hx

theorem seen_tests_of_config {x : Place} (hx : Seen home (device.config.join ⟨[testsName]⟩) x) :
    x ∈ device.directory.trail home ∨ Under home device.directory configName x := by
  rcases seen_of_child isDiskName_tests.toIsPlainName hx with hx | hx
  · rcases mem_trail_child home isDiskName_config.toIsPlainName hx with hx | rfl
    · exact Or.inl hx
    · exact Or.inr (List.prefix_refl _)
  · rw [place_config] at hx
    exact Or.inr hx

theorem Sees.tests_of_config (hs : Sees S home device.directory) {x : Place}
    (hx : Seen home (device.config.join ⟨[testsName]⟩) x) : S.reads x :=
  (seen_tests_of_config hx).elim (hs.trail x) fun hx => hs.reads x (Or.inl hx)

theorem Away.tests_of_config (haway : Away home device.directory) {x : Place}
    (hx : Seen home (device.config.join ⟨[testsName]⟩) x) :
    ¬Under home device.directory testsName x := fun hu =>
  (seen_tests_of_config hx).elim (fun hx => haway x hx (Or.inr hu)) fun hx =>
    not_under_of_under (by decide) hx hu

theorem leads_tests_of_config (h : Stands home device.directory d)
    (hdir : d.hasDirectory (device.config.join ⟨[testsName]⟩) = true) :
    d.Leads (device.config.join ⟨[testsName]⟩) ∧ (device.config.join ⟨[testsName]⟩).Accepted :=
  leads_of_hasDirectory h.tree.noLink hdir

theorem isLong_tests_of_config (h : (device.config.join ⟨[testsName]⟩).isLong = false) :
    device.tests.isLong = false := by
  have hboth : device.config.join ⟨[testsName]⟩ = device.directory.join ⟨[configName, testsName]⟩ :=
    join_join (continues_single configName) (by simp [configName]) (continues_single testsName)
  rw [hboth] at h
  refine isLong_of_le (continues_single testsName) (continues_names (by simp) ?_) (by decide +kernel) h
  simpa using ⟨isDiskName_config.toIsPlainName, isDiskName_tests.toIsPlainName⟩

theorem directory_tests_of_config (h : Stands home device.directory d)
    (hl : d.Leads (device.config.join ⟨[testsName]⟩)) :
    d.Leads device.config ∧ d.find? (device.config.place home ++ [testsName]) = some .directory := by
  refine ⟨hl.of_child h.tree isDiskName_tests.toIsPlainName, ?_⟩
  have hplace := hl.place
  rwa [h.home_eq, place_child home isDiskName_tests.toIsPlainName] at hplace

theorem copyTests_confined (hs : Serves S home device.directory) :
    Confined S (fun d => Stands home device.directory d ∧
        d.hasDirectory (device.config.join ⟨[testsName]⟩) = true)
      (copyTree (device.config.join ⟨[testsName]⟩) device.tests)
      fun _ d => Stands home device.directory d ∧ d.Leads (device.config.join ⟨[testsName]⟩) := by
  by_cases haccepted : (device.config.join ⟨[testsName]⟩).Accepted
  swap
  · exact .of_not fun d hd => haccepted (leads_tests_of_config hd.1 hd.2).2
  have hapart : Apart home device.directory testsName (device.config.join ⟨[testsName]⟩) :=
    ⟨haccepted, fun x hx => hs.away.tests_of_config (Or.inl hx),
      fun m => hs.away.tests_of_config (Or.inr (List.prefix_append _ _))⟩
  have hcopy := ((copyTree_confined
    (S := { S with writes := Under home device.directory testsName, rewrites := fun _ => False })
    (I := fun d => Stands home device.directory d ∧
      d.hasDirectory (device.config.join ⟨[testsName]⟩) = true) (goal_tests device)
    (fun _ hd => hd) (fun _ hx => hx) hs.trail (fun x hx => hs.reads x (Or.inr hx))
    (fun _ => ⟨hapart, fun _ hx => hs.toSees.tests_of_config hx,
      fun d hd => (leads_tests_of_config hd.1 hd.2).1⟩)).frame
    (K := fun d => d.Leads (device.config.join ⟨[testsName]⟩))
    (fun d d' hd hl hwithin => ⟨hl.noNull, fun x hx => by
      rw [hwithin.home, hd.1.home_eq] at hx
      rcases hwithin.find? x with h | h | ⟨h, -⟩
      · rw [h]
        exact hl.onTrail x (by rwa [hd.1.home_eq])
      · exact absurd h (hs.away.tests_of_config (Or.inl hx))
      · exact h.elim⟩)).enlarge (S := S) (fun x hx => hs.writes x (Or.inr hx)) (fun _ h => h.elim)
  exact hcopy.pre fun d hd => ⟨hd, (leads_tests_of_config hd.1 hd.2).1⟩

theorem moveTests_confined (hs : Serves S home device.directory) :
    Confined S (fun d => Stands home device.directory d ∧
        d.hasDirectory (device.config.join ⟨[testsName]⟩) = true)
      (moveTree (device.config.join ⟨[testsName]⟩) device.tests)
      fun _ d => Stands home device.directory d := by
  have hinside : ∀ x, device.config.place home ++ [testsName] <+: x → Outputs home device.directory x :=
    fun x hx => Or.inl (under_config_of_tests hx)
  have htests : ∀ x ∈ device.tests.trail home, S.reads x := fun x hx => by
    rcases mem_trail_child home isDiskName_tests.toIsPlainName hx with hx | rfl
    · exact hs.trail x hx
    · exact hs.reads _ (Or.inr (List.prefix_refl _))
  unfold moveTree
  refine (inspect_congr (fun d hd => ⟨hd.1.tree, hd.1.home_eq⟩) htests
    fun _ _ h hS hx => hasAny_congr h hS hx).bind fun b => .ite (fun hb => ?_) (fun hb => ?_)
  · -- something is there already: the tests are copied over it and removed from where they are
    refine ((copyTests_confined hs).pre fun d hd => hd.1).seq fun _ => ?_
    exact removeAll_confined isDiskName_tests
      (fun d hd => ⟨hd.1, directory_tests_of_config hd.1 hd.2⟩)
      (fun x hx => hs.writes x (hinside x hx)) (fun x hx hp => hs.away x hx (hinside x hp))
  · -- nothing is there: the tests are moved as a whole
    refine rename_confined isDiskName_tests isDiskName_tests (fun d hd => ?_) ?_
      (fun x hx => hs.writes x (hinside x hx)) (fun x hx => hs.writes x (Or.inr hx))
      (fun x hx => hs.reads x (hinside x hx)) (fun x hx hp => hs.away x hx (hinside x hp))
      (fun x hx hp => hs.away x hx (Or.inr hp))
    · obtain ⟨⟨hstands, hdir⟩, hany⟩ := hd
      obtain ⟨hleads, haccepted⟩ := leads_tests_of_config hstands hdir
      obtain ⟨hlc, hplace⟩ := directory_tests_of_config hstands hleads
      have hshort : (device.directory.join ⟨[testsName]⟩).isLong = false :=
        isLong_tests_of_config haccepted.not_long
      refine ⟨hstands, hlc, hstands.leads, hplace, ?_⟩
      rw [← hany, tests, hasAny_child hstands.tree hstands.leads isDiskName_tests, hshort,
        hstands.home_eq] at hb
      simpa using hb
    · rw [place_config]
      intro h
      exact not_under_of_under (by decide) ((List.prefix_append _ _).trans h) (List.prefix_refl _)

/-- **Copying the root variant** is confined to the outputs of the device. -/
theorem copyRoot_confined (hs : Serves S home device.directory) {library : Path}
    (hp : Source S home device.directory
      ((variantsDirectory library device.kind).join ⟨[rootVariant]⟩)) :
    Confined S (Stands home device.directory) (device.copyRoot library)
      fun _ d => Stands home device.directory d := by
  unfold copyRoot
  refine (hasDirectory_confined fun x hx => hp.seen x (Or.inl hx)).bind fun b =>
    .ite (fun _ => .fail _) (fun hb => ?_)
  have hb' : b = true := by simpa using hb
  subst hb'
  refine (copySource_confined hs hp (fun x hx => Or.inl hx) (goal_config device)
    fun d hd => hd).seq fun _ => ?_
  refine (hasDirectory_confined fun _ hx => hs.toSees.tests_of_config (Or.inl hx)).bind fun b => .ite (fun hb => ?_)
    (fun _ => .pure fun d hd => hd.1)
  subst hb
  exact moveTests_confined hs

theorem copyRoot_lost (hk : IsPlainName (device.kind ++ "_variants")) :
    Confined S (Lost home root) (device.copyRoot root) fun _ _ => False := by
  have hnone : ∀ d, Lost home root d → d.hasDirectory
      ((variantsDirectory root device.kind).join ⟨[rootVariant]⟩) = false := fun d hd => by
    rw [variantsDirectory, hk.ofText]
    exact hasDirectory_of_not_hasAny
      ((hd.join (continues_single _)).hasAny_join (continues_single rootVariant))
  unfold copyRoot
  refine (Confined.inspect (S := S) fun _ d₁ d₂ h₁ h₂ _ => ?_).bind fun b => ?_
  · rw [hnone d₁ h₁, hnone d₂ h₂]
  · refine .ite (fun _ => .fail _) fun hb => .of_not fun d hd => hb ?_
    rw [← hd.2, hnone d hd.1]
    rfl

theorem isLong_config_slash (h : (device.config.join ⟨[""]⟩).isLong = false) : device.config.isLong = false := by
  have hslash : Descends ⟨[configName] ++ [""]⟩ :=
    descends_slash (by simp) (by simpa using isDiskName_config.toIsPlainName)
  have hboth : device.config.join ⟨[""]⟩ = device.directory.join ⟨[configName] ++ [""]⟩ :=
    join_join (continues_single configName) (by simp [configName]) (continues_single "")
  rw [hboth] at h
  exact isLong_of_append (continues_single configName) hslash.toContinues h

/-- Nothing is copied where the path of the configuration is **too long**. -/
theorem copyRoot_of_isLong (hlong : device.config.isLong = true) {library : Path}
    (hp : ∀ x ∈ ((variantsDirectory library device.kind).join ⟨[rootVariant]⟩).trail home, S.reads x) :
    Confined S (fun d => d.IsTree ∧ d.home = home) (device.copyRoot library) fun _ _ => False := by
  have hslash : (device.config.join ⟨[""]⟩).isLong = true := by
    rw [← Bool.not_eq_false]
    intro hshort
    rw [isLong_config_slash hshort] at hlong
    cases hlong
  unfold copyRoot
  refine (inspect_congr (fun _ hd => hd) hp fun _ _ h hS hx => hasDirectory_congr h hS hx).bind fun b =>
    .ite (fun _ => .fail _) fun hb => ?_
  obtain rfl : b = true := by simpa using hb
  exact (copyTree_of_isLong hslash fun d hd => ⟨hd.1.1.noLink, hd.2⟩).seq fun _ => .of_not fun _ hd => hd

theorem copyPart_confined (hs : Serves S home device.directory) {variant : Path}
    (hp : Source S home device.directory variant) {name : String} (hn : IsDiskName name) :
    Confined S (Stands home device.directory) (device.copyPart variant name)
      fun _ d => Stands home device.directory d := by
  have hpart := hp.child hn
  unfold copyPart
  refine (hasDirectory_confined fun x hx => hpart.seen x (Or.inl hx)).bind fun b =>
    .ite (fun hb => ?_) (fun _ => ?_)
  · subst hb
    split
    · exact copySource_confined hs hpart (fun x hx => Or.inr hx) (goal_tests device) fun d hd => hd
    · exact copySource_confined hs hpart (fun x hx => Or.inl hx) (goal_part device hn) fun d hd => hd
  · have hg : IsGoal device.directory [configName] device.config :=
      ⟨by simp, by simpa using isDiskName_config, Or.inl rfl⟩
    have hmake := @makeDirectories_confined S home _ _ _ hg
      (fun m hne hm => hs.writes _ (Or.inl (under_of_below hne hm)))
      (fun m hne hm => hs.reads _ (Or.inl (under_of_below hne hm)))
    refine (hmake.imp (fun d hd => hd.1) fun _ d hd => hd.1).seq fun _ => ?_
    have hnames : ∀ n ∈ [configName, name], IsPlainName n := by
      simpa using ⟨isDiskName_config.toIsPlainName, hn.toIsPlainName⟩
    have hdown := descends_names (by simp) hnames
    have hjoin : device.config.join ⟨[name]⟩ = device.directory.join ⟨[configName, name]⟩ :=
      join_join (continues_single configName) (by simp [configName]) (continues_single name)
    have hplace : (device.directory.join ⟨[configName, name]⟩).place home =
        device.directory.place home ++ [configName, name] := place_names home (by simp) hnames
    rw [hjoin]
    refine copyFile_confined hdown (fun _ hd => hd) ?_ (fun _ x hx => hpart.seen x (Or.inl hx))
      fun x hx => ?_
    · rw [hplace]
      exact hs.writes _ (Or.inl (under_of_below (by simp) (List.prefix_refl _)))
    · rcases mem_trail_join home hdown hx with hx | ⟨m, hne, hm, rfl⟩
      · exact hs.trail x hx
      · rw [show (Path.mk [configName, name]).steps = _ from filter_plain hnames] at hm
        exact hs.reads _ (Or.inl (under_of_below hne hm))

/-- **Copying the chosen variant** is confined to the outputs of the device. -/
theorem copyVariant_confined (hs : Serves S home device.directory) {library : Path}
    (hp : Source S home device.directory
      ((variantsDirectory library device.kind).join (Path.ofText device.variant))) :
    Confined S (Stands home device.directory) (device.copyVariant library)
      fun _ d => Stands home device.directory d := by
  unfold copyVariant
  refine (hasDirectory_confined fun x hx => hp.seen x (Or.inl hx)).bind fun b =>
    .ite (fun _ => .fail _) (fun _ => .ite (fun _ => .pure fun d hd => hd.1) (fun _ => ?_))
  have hlist : Confined S (Stands home device.directory) (Run.query
      (·.listing ((variantsDirectory library device.kind).join (Path.ofText device.variant))))
      fun parts d => Stands home device.directory d ∧ ∀ part ∈ parts, IsDiskName part.1 := by
    refine (listing_confined (fun d hd => ⟨hd.tree, hd.home_eq⟩) (fun x hx => hp.seen x (Or.inl hx))
      fun name => hp.seen _ (Or.inr (List.prefix_append _ _))).post fun parts d hd => ⟨hd.1, ?_⟩
    rintro ⟨name, e⟩ hm
    exact (mem_listing hd.1.tree hd.2 hm).1
  refine (hlist.pre fun d hd => hd.1).bind fun parts => .of_pre fun hparts => .forM ?_
  rintro ⟨name, e⟩ hm
  exact copyPart_confined hs hp (hparts _ hm)

/-- **Copying all files** of a device is confined to its outputs. -/
theorem copyAll_confined (hs : Serves S home device.directory) {library : Path}
    (hroot : Source S home device.directory
      ((variantsDirectory library device.kind).join ⟨[rootVariant]⟩))
    (hvariant : Source S home device.directory
      ((variantsDirectory library device.kind).join (Path.ofText device.variant))) :
    Confined S (Stands home device.directory) (device.copyAll library)
      fun _ d => Stands home device.directory d :=
  (copyRoot_confined hs hroot).seq fun _ => copyVariant_confined hs hvariant

end Device

end SiteGen
