import SiteGen.Proofs.Glob.Match
import SiteGen.Proofs.Path.Text
import SiteGen.Proofs.Run.Ends
import SiteGen.Proofs.Run.Steps
import SiteGen.Proofs.Tree.Select
import SiteGen.Replacement.Apply

/-!
# Replacements in the files of a site

* `FilesetReplacement.Selects`: the files that the globs of a replacement select.
* `FilesetReplacement.apply_confined`: carrying out a replacement overwrites only such files.
* `FilesetReplacement.Picks`, `FilesetReplacement.selects_iff`: the override file is not among them, whatever
  the globs are.
-/

namespace SiteGen

open Disk SiteGen.Path Run

namespace Disk

variable {d d₁ d₂ : Disk} {p : Path} {home : Place}

theorem select_of_stands (h : Stands home p d) (hp : p.Accepted) (includes excludes : List String) :
    d.select p includes excludes = (do
      let includes ← (Glob.ofPatterns includes).mapError Error.glob
      let excludes ← (Glob.ofPatterns excludes).mapError Error.glob
      let visits ← (walked (visits d d.depthBound (p.place home) p [])).mapError fun (path, fault) =>
        Error.walk path fault
      .ok (selectVisits includes excludes visits)) := by
  obtain ⟨ht, rfl, hleads⟩ := h
  exact select_of_look ht.nested (lookFor_of_leads hleads hp) includes excludes

theorem select_congr {R : Place → Prop} (h₁ : Stands home p d₁) (h₂ : Stands home p d₂)
    (hp : p.Accepted) (h : SameOn R d₁ d₂) (hR : ∀ m, R (p.place home ++ m))
    (includes excludes : List String) :
    d₁.select p includes excludes = d₂.select p includes excludes := by
  rw [select_of_stands h₁ hp, select_of_stands h₂ hp,
    visits_congr h₁.tree h₂.tree d₁.depthBound d₂.depthBound (fun m => h.find? _ (hR m))
      (by rw [h₁.place]; rfl) (by simp only [depthBound, pathLimit]; omega)
      (by simp only [depthBound, pathLimit]; omega)]

end Disk

namespace FilesetReplacement

/-- Whether the globs of a replacement **select** a file, called by the names on the way to it. -/
def Selects (r : FilesetReplacement) (names : List String) : Prop :=
  ∃ includes excludes, Glob.ofPatterns (r.includes.getD [defaultInclude]) = .ok includes ∧
    Glob.ofPatterns (r.excludes.getD [] ++ [overrideName]) = .ok excludes ∧
    selects includes excludes (Path.mk names).text = true

instance (r : FilesetReplacement) (names : List String) : Decidable (r.Selects names) :=
  match hi : Glob.ofPatterns (r.includes.getD [defaultInclude]),
    he : Glob.ofPatterns (r.excludes.getD [] ++ [overrideName]) with
  | .ok includes, .ok excludes =>
    decidable_of_iff (selects includes excludes (Path.mk names).text = true)
      ⟨fun h => ⟨includes, excludes, hi, he, h⟩, fun ⟨i, e, hi', he', h⟩ => by
        rw [Except.ok.inj (hi.symm.trans hi'), Except.ok.inj (he.symm.trans he')]
        exact h⟩
  | .error _, _ => isFalse fun ⟨_, _, hi', _⟩ => by cases hi.symm.trans hi'
  | _, .error _ => isFalse fun ⟨_, _, _, he', _⟩ => by cases he.symm.trans he'

/-- The paths that a replacement **has resolved to** on a disk. -/
def resolved (r : FilesetReplacement) (d : Disk) (root : Path) : Except Error (List Path) :=
  d.select root (r.includes.getD [defaultInclude]) (r.excludes.getD [] ++ [overrideName])

theorem resolve_on (r : FilesetReplacement) (root : Path) (w : World) :
    (r.resolve root).on w = (r.resolved w.disk root, w) := selectPaths_on ..

theorem resolve_ends {r : FilesetReplacement} {root : Path} {d : Disk} :
    Ends (· = d) (r.resolve root) fun paths d' => d' = d ∧ r.resolved d root = .ok paths := by
  rintro w paths w' rfl hon
  rw [resolve_on] at hon
  obtain ⟨hpaths, rfl⟩ := Prod.mk.inj hon
  exact ⟨rfl, hpaths⟩

variable {S : Scope} {home : Place} {p : Path}

/-- What is selected on a disk: **the names of all that is below** the directory and is selected, each
once. -/
theorem select_names {d : Disk} (h : Stands home p d) (hp : p.Accepted)
    (r : FilesetReplacement) {paths : List Path}
    (hs : r.resolved d p = .ok paths) :
    ∃ list : List (List String), paths = list.map (fun m => p.join ⟨m⟩) ∧ list.Nodup ∧
      (∀ m ∈ list, m ≠ [] ∧ (∀ n ∈ m, IsDiskName n) ∧ r.Selects m) ∧
      ∀ m, m ≠ [] → (d.find? (p.place home ++ m)).isSome = true → r.Selects m → m ∈ list := by
  rw [resolved, select_of_stands h hp] at hs
  obtain ⟨includes, hincludes, hs⟩ := ok_of_bind hs
  obtain ⟨excludes, hexcludes, hs⟩ := ok_of_bind hs
  obtain ⟨vs, hvs, hs⟩ := ok_of_bind hs
  have hi := ok_of_mapError hincludes
  have he := ok_of_mapError hexcludes
  obtain ⟨rfl, -⟩ := walked_eq_ok.mp (ok_of_mapError hvs)
  obtain ⟨list, hlist, hsorted, hmem⟩ := exists_selected h.tree.nested (p.place home) p includes excludes
  refine ⟨list, (Except.ok.inj hs).symm.trans hlist, hsorted.imp ne_of_lt, fun m hm => ?_,
    fun m hne hm hsel => ?_⟩
  · obtain ⟨hne, hsome, hsel⟩ := (hmem m).mp hm
    exact ⟨hne, fun n hn => h.tree.isDiskName_of_mem hsome (List.mem_append_right _ hn),
      includes, excludes, hi, he, hsel⟩
  · obtain ⟨includes', excludes', hi', he', hsel⟩ := hsel
    obtain rfl := Except.ok.inj (hi.symm.trans hi')
    obtain rfl := Except.ok.inj (he.symm.trans he')
    exact (hmem m).mpr ⟨hne, hm, hsel⟩

/-- Whether a scope **serves replacements** below a directory: all that leads there and is below may
be read, and files that they select may be overwritten. -/
structure Serves (S : Scope) (home : Place) (p : Path) (rs : List FilesetReplacement) : Prop where
  accepted : p.Accepted
  seen : ∀ x ∈ p.trail home, S.reads x
  below : ∀ m, S.reads (p.place home ++ m)
  rewrites : ∀ r ∈ rs, ∀ m, r.Selects m → S.rewrites (p.place home ++ m)

variable {rs : List FilesetReplacement}

theorem Serves.trail (hs : Serves S home p rs) {q : Path} (hq : Descends q) :
    ∀ x ∈ (p.join q).trail home, S.reads x := by
  intro x hx
  rcases mem_trail_join home hq hx with hx | ⟨m, -, -, rfl⟩
  · exact hs.seen x hx
  · exact hs.below m

theorem applyTo_confined (hs : Serves S home p rs) {r : FilesetReplacement} (hr : r ∈ rs)
    {m : List String} (hne : m ≠ []) (hm : ∀ n ∈ m, IsDiskName n) (hsel : r.Selects m) :
    Confined S (Stands home p) (r.applyTo (p.join ⟨m⟩)) fun _ d => Stands home p d := by
  have hplain : ∀ n ∈ m, IsPlainName n := fun n hn => (hm n hn).toIsPlainName
  have hdown := descends_names hne hplain
  have hplace : (p.join ⟨m⟩).place home = p.place home ++ m := place_names home hne hplain
  have htrail := hs.trail hdown
  unfold applyTo applyToBy
  refine (inspect_congr (fun d hd => ⟨hd.tree, hd.home_eq⟩) htrail
    fun _ _ h hS hx => hasFile_congr h hS hx).bind fun b => .ite (fun hb => ?_) (fun _ => ?_)
  · subst hb
    have hread : Confined S (fun d => Stands home p d ∧ d.hasFile (p.join ⟨m⟩) = true)
        (Run.query (·.readText (p.join ⟨m⟩))) fun _ d =>
          Stands home p d ∧ d.hasFile (p.join ⟨m⟩) = true :=
      (Confined.query fun _ d₁ d₂ h₁ _ hS =>
        readText_congr h₁.1.tree.noLink hS (by rwa [h₁.1.home_eq])).post fun _ d hd => hd.1
    refine hread.seq fun text => .ite (fun _ => .pure fun d hd => hd.1) fun _ => ?_
    refine (putText_confined hdown (fun d hd => hd.1) (fun d hd => Or.inr ⟨?_, ?_⟩) htrail _).seq
      fun _ => .pure fun _ hd => hd
    · rw [hplace]
      exact hs.rewrites r hr m hsel
    · have := isFile_of_hasFile hd.1.tree.noLink hd.2
      rwa [hd.1.home_eq] at this
  · refine ((inspect_congr (fun d hd => ⟨hd.1.tree, hd.1.home_eq⟩) htrail
      fun _ _ h hS hx => hasDirectory_congr h hS hx).post fun _ d hd => hd.1.1).seq fun b =>
      .ite (fun _ => .pure fun _ hd => hd) fun _ => ?_
    exact (Confined.warn _).seq fun _ => .pure fun _ hd => hd

theorem applyEach_confined (hs : Serves S home p rs) {r : FilesetReplacement} (hr : r ∈ rs) :
    ∀ {paths : List Path}, (∀ path ∈ paths, ∃ m, m ≠ [] ∧ (∀ n ∈ m, IsDiskName n) ∧
      path = p.join ⟨m⟩ ∧ r.Selects m) →
      Confined S (Stands home p) (r.applyEach paths) fun _ d => Stands home p d
  | [], _ => .pure fun _ hd => hd
  | path :: rest, h => by
    obtain ⟨m, hne, hm, rfl, hsel⟩ := h path List.mem_cons_self
    rw [applyEach_cons]
    refine (applyTo_confined hs hr hne hm hsel).seq fun changed => ?_
    refine (applyEach_confined hs hr fun q hq => h q (List.mem_cons_of_mem _ hq)).seq fun n => ?_
    exact .pure fun _ hd => hd

/-- **Carrying out a replacement** overwrites only files that it selects. -/
theorem apply_confined (hs : Serves S home p rs) {r : FilesetReplacement} (hr : r ∈ rs) :
    Confined S (Stands home p) (r.apply p) fun _ d => Stands home p d := by
  rw [apply_eq]
  unfold resolve selectPaths
  have hselect : Confined S (Stands home p) (Run.inspect (·.select p
      (r.includes.getD [defaultInclude]) (r.excludes.getD [] ++ [overrideName])))
      fun selected d => Stands home p d ∧ ∀ paths, selected = .ok paths → ∀ path ∈ paths,
        ∃ m, m ≠ [] ∧ (∀ n ∈ m, IsDiskName n) ∧ path = p.join ⟨m⟩ ∧ r.Selects m := by
    refine (Confined.inspect fun _ d₁ d₂ h₁ h₂ hS =>
      select_congr h₁ h₂ hs.accepted hS hs.below _ _).post fun selected d hd => ⟨hd.1, ?_⟩
    rintro paths rfl path hm
    obtain ⟨list, rfl, -, hlist, -⟩ := select_names hd.1 hs.accepted r hd.2
    obtain ⟨m, hmem, rfl⟩ := List.mem_map.mp hm
    obtain ⟨hne, hdisk, hsel⟩ := hlist m hmem
    exact ⟨m, hne, hdisk, rfl, hsel⟩
  have hresult : Confined S (Stands home p) (do
      let selected ← Run.inspect (·.select p
        (r.includes.getD [defaultInclude]) (r.excludes.getD [] ++ [overrideName]))
      Run.ofResult selected) fun paths d => Stands home p d ∧ ∀ path ∈ paths,
        ∃ m, m ≠ [] ∧ (∀ n ∈ m, IsDiskName n) ∧ path = p.join ⟨m⟩ ∧ r.Selects m :=
    hselect.bind fun selected => .of_pre fun hpaths =>
      (Confined.ofResult selected).post fun paths d hd => ⟨hd.1, hpaths paths hd.2⟩
  exact hresult.bind fun paths => .of_pre fun hpaths => applyEach_confined hs hr hpaths

/-! ## The override file -/

/-- The glob of the override file matches **nothing else**. -/
theorem accepts_override :
    ∃ g, Glob.ofPattern overrideName = .ok g ∧ ∀ text, g.accepts text = true ↔ text = overrideName :=
  Glob.accepts_of_literals (by simp [overrideName, Glob.special]) (by decide +kernel)

theorem text_override : (Path.mk [overrideName]).text = overrideName := String.intercalate_singleton

theorem text_eq_override {names : List String} (hne : names ≠ []) (h : ∀ n ∈ names, '/' ∉ n.toList) :
    (Path.mk names).text = overrideName ↔ names = [overrideName] := by
  constructor
  · intro htext
    have hsplit := split_text hne h
    rw [htext, split_of_no_slash (by decide)] at hsplit
    obtain ⟨name, rfl, hname⟩ := List.map_eq_singleton_iff.mp hsplit.symm
    rw [String.toList_inj.mp hname]
  · rintro rfl
    exact text_override

theorem ofPatterns_concat {patterns : List String} {pattern : String} {g : Glob} (hg : Glob.ofPattern pattern = .ok g)
    {globs : List Glob} : Glob.ofPatterns (patterns ++ [pattern]) = .ok globs ↔
      ∃ l, Glob.ofPatterns patterns = .ok l ∧ globs = l ++ [g] := by
  unfold Glob.ofPatterns
  rw [List.mapM_append]
  cases hl : patterns.mapM Glob.ofPattern with
  | error e => simp [bind, Except.bind]
  | ok l => simp [List.mapM_cons, hg, bind, Except.bind, pure, Except.pure, eq_comm]

/-- Whether the globs that a replacement is **given** select a file, the override file or not. -/
def Picks (r : FilesetReplacement) (names : List String) : Prop :=
  ∃ includes excludes, Glob.ofPatterns (r.includes.getD [defaultInclude]) = .ok includes ∧
    Glob.ofPatterns (r.excludes.getD []) = .ok excludes ∧
    selects includes excludes (Path.mk names).text = true

/-- A replacement selects **what its globs select but for the override file**. -/
theorem selects_iff (r : FilesetReplacement) {names : List String} (hne : names ≠ [])
    (h : ∀ n ∈ names, '/' ∉ n.toList) : r.Selects names ↔ names ≠ [overrideName] ∧ r.Picks names := by
  obtain ⟨g, hg, haccepts⟩ := accepts_override
  have hselects : ∀ includes excludes : List Glob, selects includes (excludes ++ [g]) (Path.mk names).text = true ↔
      names ≠ [overrideName] ∧ selects includes excludes (Path.mk names).text = true := fun includes excludes => by
    have hg : g.accepts (Path.mk names).text = decide (names = [overrideName]) := by
      rw [Bool.eq_iff_iff, haccepts, text_eq_override hne h, decide_eq_true_iff]
    simp only [selects, Glob.anyAccepts, List.any_append, List.any_cons, List.any_nil, hg, Bool.or_false, Bool.not_or,
      Bool.and_eq_true, Bool.not_eq_true', decide_eq_false_iff_not]
    constructor
    · rintro ⟨hi, he, hne⟩
      exact ⟨hne, hi, he⟩
    · rintro ⟨hne, hi, he⟩
      exact ⟨hi, he, hne⟩
  constructor
  · rintro ⟨includes, excludes, hi, he, hsel⟩
    obtain ⟨l, hl, rfl⟩ := (ofPatterns_concat hg).mp he
    obtain ⟨hname, hsel⟩ := (hselects includes l).mp hsel
    exact ⟨hname, includes, l, hi, hl, hsel⟩
  · rintro ⟨hname, includes, excludes, hi, he, hsel⟩
    exact ⟨includes, excludes ++ [g], hi, (ofPatterns_concat hg).mpr ⟨_, he, rfl⟩, (hselects _ _).mpr ⟨hname, hsel⟩⟩

/-- **The override file is never selected**. -/
theorem not_selects_override (r : FilesetReplacement) : ¬r.Selects [overrideName] := fun h =>
  ((r.selects_iff (List.cons_ne_nil _ _) (List.forall_mem_singleton.mpr (by decide))).mp h).1 rfl

end FilesetReplacement

end SiteGen
