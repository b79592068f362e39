import SiteGen.CommandLine
import SiteGen.Proofs.Site.Names

/-!
# Running several sites

* `CommandLine.Carries`: sites that are visited one after the other, each with success.
* `CommandLine.Since`: what has changed on a disk since some sites have been visited.
* `CommandLine.runSites_cases`: sites are visited in their order, up to the first that fails.
* `CommandLine.run_sites`: the sites that are requested do not depend on one another, nor on how often
  and in what order they are requested.
-/

namespace SiteGen.CommandLine

open Disk SiteGen.Path Run

variable {w : Workspace} {home : Place}

/-! ## Visiting sites -/

/-- Sites that are **visited** one after the other, each with success. -/
inductive Carries (w : Workspace) : World → List String → World → Prop where
  | nil (world : World) : Carries w world [] world
  | cons {name : String} {rest : List String} {a b c : World} {summary : Summary}
      (first : (Site.mk name w).visit.on a = (.ok summary, b)) (others : Carries w b rest c) :
      Carries w a (name :: rest) c

theorem Carries.split {done rest : List String} : ∀ {a c : World}, Carries w a (done ++ rest) c →
    ∃ b, Carries w a done b ∧ Carries w b rest c := by
  induction done with
  | nil => exact fun {a c} h => ⟨a, .nil a, h⟩
  | cons name done ih =>
    intro a c h
    cases h with
    | cons first others =>
      obtain ⟨b, hdone, hrest⟩ := ih others
      exact ⟨b, .cons first hdone, hrest⟩

/-- What is **printed** before sites. -/
def announced (quiet : Bool) : List String → String
  | [] => ""
  | name :: rest => (if quiet then banner name else "") ++ announced quiet rest

/-- Sites are run **in their order**, up to the first one that fails. -/
theorem runSites_cases (w : Workspace) (quiet : Bool) (names : List String) : ∀ world : World,
    (∃ world', Carries w world names world' ∧
      runSites w quiet names world = (announced quiet names, none, world')) ∨
    ∃ done name rest e world₁ world₂, names = done ++ name :: rest ∧ Carries w world done world₁ ∧
      (Site.mk name w).visit.on world₁ = (.error e, world₂) ∧
      runSites w quiet names world = (announced quiet (done ++ [name]), some e, world₂) := by
  induction names with
  | nil => exact fun world => Or.inl ⟨world, .nil world, rfl⟩
  | cons name rest ih =>
    intro world
    rcases hon : (Site.mk name w).visit.on world with ⟨r, world₁⟩
    have hon' : (do (Site.mk name w).enter; (Site.mk name w).generate : Run Summary).on world =
        (r, world₁) := hon
    cases r with
    | error e =>
      refine Or.inr ⟨[], name, rest, e, world, world₁, rfl, .nil world, hon, ?_⟩
      simp only [runSites, hon', List.nil_append, announced, String.append_empty]
    | ok summary =>
      rcases ih world₁ with ⟨world', hcarries, hrun⟩ |
        ⟨done, next, rest, e, world₂, world₃, rfl, hcarries, hvisit, hrun⟩
      · refine Or.inl ⟨world', .cons hon hcarries, ?_⟩
        simp only [runSites, hon', hrun, announced]
      · refine Or.inr ⟨name :: done, next, rest, e, world₂, world₃, rfl, .cons hon hcarries, hvisit,
          ?_⟩
        simp only [runSites, hon', hrun, List.cons_append, announced]

/-! ## What has changed since -/

/-- What has changed **since** some sites have been visited: only what is in their directories, and the
directory of all sites is there. -/
structure Since (home : Place) (w : Workspace) (done : List String) (d₀ d : Disk) : Prop where
  stands : Stands home w.root d
  same : ∀ q, q ≠ w.sitesPlace home → (∀ name ∈ done, ¬w.sitesPlace home ++ [name] <+: q) →
    d.find? q = d₀.find? q
  sites : done ≠ [] → (d₀.find? (w.sitesPlace home) = none ∨
    d₀.find? (w.sitesPlace home) = some .directory) ∧ d.find? (w.sitesPlace home) = some .directory
  begin : done = [] → d = d₀

theorem not_prefix_of_ne {place : Place} {a b : String} (h : a ≠ b) {q : Place}
    (hq : place ++ [a] <+: q) : ¬place ++ [b] <+: q := by
  rintro hb
  obtain ⟨m, rfl⟩ := hq
  rw [List.append_assoc, List.prefix_append_right_inj] at hb
  exact h (List.cons_prefix_cons.mp hb).1.symm

theorem ne_of_below {place : Place} {a : String} {q : Place} (hq : place ++ [a] <+: q) :
    q ≠ place := by
  rintro rfl
  have := hq.length_le
  simp at this

namespace Since

variable {done : List String} {d₀ d : Disk} {name : String}

theorem refl (h : Stands home w.root d₀) : Since home w [] d₀ d₀ :=
  ⟨h, fun _ _ _ => rfl, fun h => absurd rfl h, fun _ => rfl⟩

theorem other (h : Since home w done d₀ d) (hnot : name ∉ done) {q : Place}
    (hq : w.sitesPlace home ++ [name] <+: q) : d.find? q = d₀.find? q :=
  h.same q (ne_of_below hq) fun n hn => not_prefix_of_ne (b := n)
    (fun heq : name = n => hnot (heq ▸ hn)) hq

theorem sound (h : Since home w done d₀ d) (h₀ : Stands home w.root d₀) (hname : IsPlainName name)
    (hnot : name ∉ done) (ho : (Site.mk name w).HasSoundOverride d₀) :
    (Site.mk name w).HasSoundOverride d := by
  have hplace := @Site.place_directory_sites (Site.mk name w) home hname
  rw [Site.HasSoundOverride, Site.overrideOn_eq hname h.stands, Site.overridePlace,
    h.other hnot (by rw [hplace]; exact List.prefix_append _ _)]
  rw [Site.HasSoundOverride, Site.overrideOn_eq hname h₀, Site.overridePlace] at ho
  exact ho

/-- **Visiting another site**. -/
theorem visit (h : Since home w done d₀ d) (h₀ : Stands home w.root d₀) (hname : IsPlainName name)
    (hnot : name ∉ done) (ho : (Site.mk name w).HasSoundOverride d₀) {world world' : World}
    {summary : Summary} (hd : world.disk = d)
    (hon : (Site.mk name w).visit.on world = (.ok summary, world')) :
    Since home w (done ++ [name]) d₀ world'.disk := by
  subst hd
  have hsound := h.sound h₀ hname hnot ho
  have hwithin := Site.visit_within hname h.stands hsound
  rw [hon] at hwithin
  have hstands := Site.stands_of_visit hname h.stands hsound hon
  obtain ⟨hdisk, world₁, henter, -⟩ := Site.visit_ok hname hon
  have hplace := @Site.place_directory_sites (Site.mk name w) home hname
  refine ⟨Site.stands_root hname hstands, fun q hq hall => ?_, fun _ => ⟨?_, ?_⟩, by simp⟩
  · rcases hwithin.find? q with h' | h' | ⟨h', -⟩
    · rw [h', h.same q hq fun n hn => hall n (List.mem_append_left _ hn)]
    · rcases h' with h' | h'
      · exact absurd h' hq
      · rw [hplace] at h'
        exact absurd h' (hall name (by simp))
    · exact h'.elim
  · by_cases hdone : done = []
    · rw [← h.begin hdone]
      exact Site.sites_of_enter hdisk h.stands henter
    · exact (h.sites hdone).1
  · have hdirectory := hstands.place
    rw [hplace] at hdirectory
    exact hstands.tree.parent _ name (by rw [hdirectory]; rfl)

/-- **Visiting several sites**. -/
theorem carries {names : List String} {world world' : World} (hc : Carries w world names world') :
    ∀ {done : List String}, Since home w done d₀ world.disk → Stands home w.root d₀ →
      (∀ name ∈ names, IsPlainName name) → (done ++ names).Nodup →
      (∀ name ∈ names, (Site.mk name w).HasSoundOverride d₀) →
      Since home w (done ++ names) d₀ world'.disk := by
  induction hc with
  | nil world =>
    intro done h _ _ _ _
    rwa [List.append_nil]
  | @cons name rest a b c summary first others ih =>
    intro done h h₀ hplain hnodup ho
    have hnot : name ∉ done := fun hmem =>
      (List.nodup_append.mp hnodup).2.2 name hmem name List.mem_cons_self rfl
    have hvisit := h.visit h₀ (hplain name List.mem_cons_self) hnot (ho name List.mem_cons_self) rfl
      first
    have := ih hvisit h₀ (fun n hn => hplain n (List.mem_cons_of_mem _ hn)) (by simpa using hnodup)
      fun n hn => ho n (List.mem_cons_of_mem _ hn)
    simpa using this

end Since

/-! ## A site alone -/

/-- All that a site depends on is the same **since other sites** have been visited. -/
theorem Since.sameOn {done : List String} {d₀ d : Disk} {name : String}
    (h : Since home w done d₀ d) (h₀ : Stands home w.root d₀) (hname : IsPlainName name)
    (hnot : name ∉ done) : ∃ R, Site.Holds R home (Site.mk name w) ∧ SameOn R d₀ d := by
  have hplace := @Site.place_directory_sites (Site.mk name w) home hname
  refine ⟨fun q => q ∈ w.root.trail home ∨
    q ≠ w.sitesPlace home ∧ ∀ n ∈ done, ¬w.sitesPlace home ++ [n] <+: q,
    ⟨fun x hx => Or.inl hx, fun m => Or.inr ?_, fun kind m => Or.inr ?_⟩,
    h₀.home_eq.trans h.stands.home_eq.symm, fun q hq => ?_⟩
  · rw [hplace]
    have hpre : w.sitesPlace home ++ [name] <+: w.sitesPlace home ++ [name] ++ m :=
      List.prefix_append _ _
    exact ⟨ne_of_below hpre, fun n hn => not_prefix_of_ne (b := n)
      (fun heq : name = n => hnot (heq ▸ hn)) hpre⟩
  · have hne : kind ++ "_variants" ≠ "config" := variants_ne_sites kind
    constructor
    · intro heq
      rw [Workspace.sitesPlace] at heq
      exact hne (List.cons.inj (List.append_cancel_left heq)).1
    · intro n _ hpre
      rw [Workspace.sitesPlace, List.append_assoc, List.prefix_append_right_inj] at hpre
      exact hne (List.cons_prefix_cons.mp hpre).1.symm
  · rcases hq with hq | ⟨hq, hall⟩
    · rw [h₀.leads.onTrail q (by rwa [h₀.home_eq]),
        h.stands.leads.onTrail q (by rwa [h.stands.home_eq])]
    · exact (h.same q hq hall).symm

/-- Where all sites are visited with success, each of them leaves what it leaves when it is **visited
alone**. -/
theorem visit_of_carries {names : List String} {world world' : World}
    (hc : Carries w world names world') (h₀ : Stands home w.root world.disk)
    (hplain : ∀ name ∈ names, IsPlainName name) (hnodup : names.Nodup)
    (ho : ∀ name ∈ names, (Site.mk name w).HasSoundOverride world.disk) {name : String}
    (hname : name ∈ names) :
    ∃ summary world₁, (Site.mk name w).visit.on world = (.ok summary, world₁) ∧
      ∀ q, w.sitesPlace home ++ [name] <+: q → world₁.disk.find? q = world'.disk.find? q := by
  obtain ⟨done, rest, rfl⟩ := List.append_of_mem hname
  obtain ⟨a, hdone, hrest⟩ := hc.split
  cases hrest with
  | @cons _ _ _ b _ summary first others =>
    have hnot : name ∉ done := fun hmem =>
      (List.nodup_append.mp hnodup).2.2 name hmem name List.mem_cons_self rfl
    have hnot' : name ∉ rest := (List.nodup_cons.mp (List.nodup_append.mp hnodup).2.1).1
    have hplain' := hplain name hname
    have hplace := @Site.place_directory_sites (Site.mk name w) home hplain'
    have ha : Since home w done world.disk a.disk := by
      simpa using (Since.refl h₀).carries hdone h₀ (fun n hn => hplain n (by simp [hn]))
        (by simpa using (List.nodup_append.mp hnodup).1) fun n hn => ho n (by simp [hn])
    have hb := ha.visit h₀ hplain' hnot (ho name hname) rfl first
    -- the later sites leave the directory as it is
    have hlater : ∀ q, w.sitesPlace home ++ [name] <+: q → world'.disk.find? q = b.disk.find? q := by
      have hsound : ∀ n ∈ rest, (Site.mk n w).HasSoundOverride b.disk := fun n hn => by
        refine hb.sound h₀ (hplain n (by simp [hn])) (fun hmem => ?_) (ho n (by simp [hn]))
        rcases List.mem_append.mp hmem with hmem | hmem
        · exact (List.nodup_append.mp hnodup).2.2 n hmem n (List.mem_cons_of_mem _ hn) rfl
        · rw [List.mem_singleton.mp hmem] at hn
          exact hnot' hn
      have hc := (Since.refl hb.stands).carries others hb.stands (fun n hn => hplain n (by simp [hn]))
        (by simpa using (List.nodup_cons.mp (List.nodup_append.mp hnodup).2.1).2) hsound
      exact fun q hq => hc.other (by simpa using hnot') hq
    by_cases hnil : done = []
    · subst hnil
      cases hdone
      exact ⟨summary, b, first, fun q hq => (hlater q hq).symm⟩
    · obtain ⟨R, hR, hS⟩ := ha.sameOn h₀ hplain' hnot
      obtain ⟨world₁, hon, hsame⟩ := Site.visit_alone hplain' hR h₀ ha.stands hS (ho name hname)
        (ha.sites hnil).1 (ha.sites hnil).2 first
      refine ⟨summary, world₁, hon, fun q hq => ?_⟩
      rw [hlater q hq]
      obtain ⟨m, rfl⟩ := hq
      have := hR.site m
      rw [hplace] at this
      exact hsame.find? _ (Or.inl this)

/-! ## The program -/

/-- The **workspace** that options ask for; the environment may give its directory. -/
def Options.workspace (o : Options) (environment : Option String) : Workspace :=
  ⟨Path.ofText ((o.root.or environment).getD "."), if o.kinds.isEmpty then standardKinds else o.kinds⟩

/-- Whether options ask for sites to be announced on the output. -/
def Options.isQuiet (o : Options) : Bool := CommandLine.isQuiet (o.level.getD "warn")

variable {args : List String} {environment : Option String} {o : Options}

theorem run_of_read (hread : read args = .ok o) (hroot : o.root.or environment ≠ some "")
    (world : World) :
    run args environment world = runOptions o ((o.root.or environment).getD ".") world := by
  unfold run
  rw [hread]
  simp only

/-- What the program does once the sites to run are known. -/
def runSelected (o : Options) (environment : Option String) (names : List String) (world : World) :
    Outcome × World :=
  match runSites (o.workspace environment) o.isQuiet names world with
  | (printed, some e, world) => (⟨1, printed, errorText e⟩, world)
  | (printed, none, world) => (⟨0, printed ++ "Finished!\n", ""⟩, world)

theorem run_eq (hread : read args = .ok o) (hroot : o.root.or environment ≠ some "") {world : World}
    {names : List String}
    (hselect : ((o.workspace environment).select o.sites).on world = (.ok names, world)) :
    run args environment world = runSelected o environment names world := by
  rw [run_of_read hread hroot]
  unfold runOptions
  have hselect' : (Workspace.select ⟨Path.ofText ((o.root.or environment).getD "."),
      if o.kinds.isEmpty then standardKinds else o.kinds⟩ o.sites).on world = (.ok names, world) :=
    hselect
  simp only [hselect']
  rfl

theorem run_of_sites (hread : read args = .ok o) (hroot : o.root.or environment ≠ some "")
    (hsites : o.sites ≠ []) (world : World) :
    run args environment world = runSelected o environment (Workspace.inOrder o.sites) world :=
  run_eq hread hroot (by rw [Workspace.select_of_ne_nil hsites]; rfl)

theorem runSelected_cases {names : List String} {world : World}
    (hstands : Stands home (o.workspace environment).root world.disk)
    (hplain : ∀ name ∈ names, IsPlainName name) (hnodup : names.Nodup)
    (hsound : ∀ name ∈ names, (Site.mk name (o.workspace environment)).HasSoundOverride world.disk) :
    let w := o.workspace environment
    (∃ world', Carries w world names world' ∧ runSelected o environment names world =
      (⟨0, announced o.isQuiet names ++ "Finished!\n", ""⟩, world')) ∨
    ∃ done name rest e world₁ world₂, names = done ++ name :: rest ∧ Carries w world done world₁ ∧
      (Site.mk name w).visit.on world₁ = (.error e, world₂) ∧
      runSelected o environment names world =
        (⟨1, announced o.isQuiet (done ++ [name]), errorText e⟩, world₂) ∧
      ∀ later ∈ rest, ∀ q, w.sitesPlace home ++ [later] <+: q →
        world₂.disk.find? q = world.disk.find? q := by
  intro w
  unfold runSelected
  rcases runSites_cases w o.isQuiet names world with ⟨world', hcarries, hrun⟩ |
    ⟨done, name, rest, e, world₁, world₂, rfl, hcarries, hvisit, hrun⟩
  · exact Or.inl ⟨world', hcarries, by rw [hrun]⟩
  · refine Or.inr ⟨done, name, rest, e, world₁, world₂, rfl, hcarries, hvisit, by rw [hrun],
      fun later hlater q hq => ?_⟩
    obtain ⟨hdone, hrest, hdisjoint⟩ := List.nodup_append.mp hnodup
    have hsince : Since home w done world.disk world₁.disk := by
      simpa using (Since.refl hstands).carries hcarries hstands (fun n hn => hplain n (by simp [hn]))
        (by simpa using hdone) fun n hn => hsound n (by simp [hn])
    have hname : IsPlainName name := hplain name (by simp)
    have hnot : name ∉ done := fun hmem => hdisjoint name hmem name List.mem_cons_self rfl
    have hnot' : later ∉ done := fun hmem =>
      hdisjoint later hmem later (List.mem_cons_of_mem _ hlater) rfl
    have hne : later ≠ name := fun heq => (List.nodup_cons.mp hrest).1 (heq ▸ hlater)
    have hwithin := Site.visit_within hname hsince.stands
      (hsince.sound hstands hname hnot (hsound name (by simp)))
    rw [hvisit] at hwithin
    rcases hwithin.find? q with h | h | ⟨h, -⟩
    · rw [h, hsince.other hnot' hq]
    · rcases h with h | h
      · exact absurd h (ne_of_below hq)
      · rw [@Site.place_directory_sites (Site.mk name w) home hname] at h
        exact absurd h (not_prefix_of_ne hne hq)
    · exact h.elim

theorem runSelected_single {name : String} {world world₁ : World} {summary : Summary}
    (hvisit : (Site.mk name (o.workspace environment)).visit.on world = (.ok summary, world₁)) :
    runSelected { o with sites := [name] } environment (Workspace.inOrder [name]) world =
      (⟨0, announced o.isQuiet [name] ++ "Finished!\n", ""⟩, world₁) := by
  have hsingle : Workspace.inOrder [name] = [name] := by
    simp [Workspace.inOrder, Workspace.dropRepeats]
  have hvisit' : (do
      (Site.mk name (o.workspace environment)).enter
      (Site.mk name (o.workspace environment)).generate : Run Summary).on world = (.ok summary, world₁) :=
    hvisit
  have hsites : runSites (o.workspace environment) o.isQuiet [name] world =
      (announced o.isQuiet [name], none, world₁) := by
    simp only [runSites, hvisit', announced]
  rw [hsingle]
  show (match runSites (o.workspace environment) o.isQuiet [name] world with
    | (printed, some e, world) => _
    | (printed, none, world) => _) = _
  rw [hsites]

/-- **The sites do not depend on one another**, nor on how they are requested. The program does the same
whenever the same sites are requested, in any order and any number of times, or none are requested and
these are all that are there, by a path that is not too long. It visits them in increasing order, each once; if one
fails, the later ones are left as they are; if none fails, each is left as it is when it is requested alone. -/
theorem run_sites (hread : read args = .ok o) (hroot : o.root.or environment ≠ some "")
    (hsites : o.sites ≠ []) (hplain : ∀ name ∈ o.sites, IsPlainName name) {world : World}
    (hstands : Stands world.disk.home (o.workspace environment).root world.disk)
    (hsound : ∀ name ∈ o.sites,
      (Site.mk name (o.workspace environment)).HasSoundOverride world.disk) :
    let w := o.workspace environment
    let names := Workspace.inOrder o.sites
    (∀ args' sites, read args' = .ok { o with sites } → (∀ name, name ∈ sites ↔ name ∈ o.sites) →
      run args' environment world = run args environment world) ∧
    names.Pairwise (· < ·) ∧ (∀ name, name ∈ names ↔ name ∈ o.sites) ∧
    ((∃ world', Carries w world names world' ∧ run args environment world =
        (⟨0, announced o.isQuiet names ++ "Finished!\n", ""⟩, world')) ∨
      ∃ done name rest e world₁ world₂, names = done ++ name :: rest ∧ Carries w world done world₁ ∧
        (Site.mk name w).visit.on world₁ = (.error e, world₂) ∧
        run args environment world =
          (⟨1, announced o.isQuiet (done ++ [name]), errorText e⟩, world₂) ∧
        ∀ later ∈ rest, ∀ q, w.sitesPlace world.disk.home ++ [later] <+: q →
          world₂.disk.find? q = world.disk.find? q) ∧
    ((run args environment world).1.exit = 0 → ∀ name ∈ o.sites, ∀ args',
      read args' = .ok { o with sites := [name] } → (run args' environment world).1.exit = 0 ∧
        ∀ q, w.sitesPlace world.disk.home ++ [name] <+: q →
          (run args' environment world).2.disk.find? q =
            (run args environment world).2.disk.find? q) ∧
    (∀ args', read args' = .ok { o with sites := [] } → w.sites.isLong = false → (∀ name, name ∈ o.sites ↔
        world.disk.find? (w.sitesPlace world.disk.home ++ [name]) = some .directory) →
      run args' environment world = run args environment world) := by
  intro w names
  have hrun := run_of_sites hread hroot hsites world
  have hmem : ∀ name, name ∈ names ↔ name ∈ o.sites := fun _ => Workspace.mem_inOrder
  have hordered := Workspace.inOrder_pairwise o.sites
  have hnodup : names.Nodup := hordered.imp fun h => ne_of_lt h
  have hplain' : ∀ name ∈ names, IsPlainName name := fun name h => hplain name ((hmem name).mp h)
  have hsound' : ∀ name ∈ names, (Site.mk name w).HasSoundOverride world.disk :=
    fun name h => hsound name ((hmem name).mp h)
  have hcases := runSelected_cases hstands hplain' hnodup hsound'
  refine ⟨fun args' sites hread' hsame => ?_, hordered, hmem, ?_, ?_, ?_⟩
  · have hne : sites ≠ [] := by
      obtain ⟨first, hfirst⟩ := List.exists_mem_of_ne_nil _ hsites
      exact List.ne_nil_of_mem ((hsame first).mpr hfirst)
    rw [hrun, run_of_sites hread' hroot hne, Workspace.inOrder_congr hsame]
    rfl
  · rw [hrun]
    exact hcases
  · intro hexit name hname args' hread'
    rw [hrun] at hexit ⊢
    rw [run_of_sites hread' hroot (by simp)]
    rcases hcases with ⟨world', hcarries, hselected⟩ | ⟨_, _, _, _, _, _, -, -, -, hselected, -⟩
    · obtain ⟨summary, world₁, hvisit, hsame⟩ := visit_of_carries hcarries hstands hplain' hnodup
        hsound' ((hmem name).mpr hname)
      rw [runSelected_single hvisit, hselected]
      exact ⟨rfl, hsame⟩
    · rw [hselected] at hexit
      cases hexit
  · intro args' hread' hlong hall
    have hselect := Workspace.select_all hsites hstands hlong hall
    rw [hrun]
    refine run_eq hread' hroot ?_
    rw [Workspace.select_of_ne_nil hsites, pure_on] at hselect
    exact hselect

/-- Two small sites. -/
def twoSites : World :=
  ⟨(Site.smallDisk.insert ["w", "config", "b"] .directory).insert ["w", "config", "b", "twins"] .directory, []⟩

theorem hasSoundOverride_twoSites {name : String} (h : name ∈ ["a", "b"]) :
    (Site.mk name ⟨Path.ofText "w", ["twins"]⟩).HasSoundOverride twoSites.disk := by
  have hempty : (Site.mk name ⟨Path.ofText "w", ["twins"]⟩).overrideOn twoSites.disk = .ok .empty := by
    rcases List.mem_pair.mp h with rfl | rfl
    · exact Site.overrideOn_of_text (@readText_of_readBytes _ _ "\n" rfl) rfl
    · rw [Site.overrideOn, if_neg (by decide +kernel)]
  intro o ho
  obtain rfl := Except.ok.inj (hempty.symm.trans ho)
  exact ⟨Override.isNormal_empty _, Override.hasPlainVariants_empty _⟩

/-- The two sites in either order, one of them twice; and each of them alone. -/
theorem run_sites_small :
    run ["--root=w", "-k", "twins", "-s", "b", "-sa", "--site=b"] none twoSites =
      run ["--root=w", "-k", "twins", "-s", "a", "-s", "b"] none twoSites ∧
    (run ["--root=w", "-k", "twins", "-s", "a", "-s", "b"] none twoSites).1.exit = 0 ∧
    ∀ q, ["w", "config", "b"] <+: q →
      (run ["--root=w", "-k", "twins", "-s", "b"] none twoSites).2.disk.find? q =
        (run ["--root=w", "-k", "twins", "-s", "a", "-s", "b"] none twoSites).2.disk.find? q := by
  have hread : read ["--root=w", "-k", "twins", "-s", "a", "-s", "b"] =
      .ok ⟨some "w", ["a", "b"], ["twins"], none⟩ := by decide +kernel
  have hstands : Stands [] (Options.workspace ⟨some "w", ["a", "b"], ["twins"], none⟩ none).root twoSites.disk := by
    decide +kernel
  obtain ⟨hsame, -, -, -, halone, -⟩ := run_sites hread (by decide) (by decide) (by decide) hstands
    fun name h => hasSoundOverride_twoSites h
  have hexit : (run ["--root=w", "-k", "twins", "-s", "a", "-s", "b"] none twoSites).1.exit = 0 := by
    have horder : Workspace.inOrder ["a", "b"] = ["a", "b"] := by
      simp [Workspace.inOrder, Workspace.dropRepeats, List.mergeSort]
    rw [run_of_sites hread (by decide) (by decide), horder]
    decide +kernel
  refine ⟨hsame _ ["b", "a", "b"] (by decide +kernel) (by simp [or_comm]), hexit, ?_⟩
  exact (halone hexit "b" (by simp) _ (by decide +kernel)).2

end SiteGen.CommandLine
