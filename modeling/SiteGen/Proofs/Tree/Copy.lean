import SiteGen.Proofs.Run.Steps

/-!
# Copying trees

* `Disk.Covers`, `Run.Short`: what may lie over what, and when no path is too long to copy a tree.
* `Run.copyMet`: copying one thing that a walk meets; `copyMet_confined`: this changes only what is below the goal.
* `Run.copyTree_eq`: copying a tree that is apart from the goal copies what a walk meets at the start.
* `Run.copyTree_confined`: copying a tree is confined to the goal, whatever the source.
-/

namespace SiteGen

namespace Disk

open SiteGen.Path

variable {d : Disk} {p : Path}

theorem resolve_name_eq (hd : d.Linkless) {links : Nat} {place : Place} {segments : List String} :
    d.resolve .name links place segments = d.resolve .use links place segments := by
  induction segments generalizing place with
  | nil => rw [resolve_nil, resolve_nil]
  | cons segment rest ih =>
    rw [resolve_cons, resolve_cons]
    split
    · exact ih
    · split
      · exact ih
      · cases hf : d.find? (place ++ [segment]) with
        | none => rfl
        | some e =>
          cases e with
          | directory => exact ih
          | file content => rfl
          | link target => exact absurd hf (hd _ _)

theorem lookAt_eq_look (hd : d.Linkless) : d.lookAt p = d.look p := by
  have : d.locate .name p = d.locate .use p := by
    cases ha : p.accept with
    | error fault => rw [locate_of_refused ha, locate_of_refused ha]
    | ok u =>
      have haccepted := accept_eq_ok.mp ha
      rw [locate_of_accepted haccepted, locate_of_accepted haccepted, resolve_name_eq hd]
  rw [lookAt, look, lookFor, lookFor, this]

theorem rootEntry_of_hasDirectory (hd : d.Linkless) (h : d.hasDirectory p = true) :
    d.rootEntry p = .ok .directory := by
  unfold hasDirectory at h
  unfold rootEntry
  rw [lookAt_eq_look hd]
  cases hl : d.look p with
  | error fault => simp [hl, Except.toOption] at h
  | ok r =>
    obtain ⟨q, e⟩ := r
    simp only [hl, Except.toOption, Option.any_some] at h
    cases e with
    | directory => rfl
    | file content => cases h
    | link target => cases h

/-- Whether something **covers** what is at the end of names: it is of the same kind, or nothing is there and
the name is not too long. -/
def Covers (m : List String) (e : Entry) : Option Entry → Prop
  | none => missing (m.getLast?.getD "") = .notFound
  | some old => e.isDirectory = old.isDirectory

theorem covers_directory {m : List String} {old : Option Entry}
    (hlink : ∀ target, old ≠ some (.link target)) (h : Covers m .directory old) :
    old = some .directory ∨ old = none ∧ missing (m.getLast?.getD "") = .notFound := by
  rcases old with _ | ⟨⟨⟩ | content | target⟩
  · exact Or.inr ⟨rfl, h⟩
  · exact Or.inl rfl
  · cases h
  · exact absurd rfl (hlink target)

theorem covers_file {m : List String} {content : ByteArray} {old : Option Entry}
    (h : Covers m (.file content) old) :
    old ≠ some .directory ∧ (old = none → missing (m.getLast?.getD "") = .notFound) := by
  rcases old with _ | e
  · exact ⟨by simp, fun _ => h⟩
  · refine ⟨?_, by simp⟩
    rintro he
    rw [Option.some.inj he] at h
    cases h

end Disk

namespace Run

open Disk SiteGen.Path

/-! ## The paths of a copy -/

section Paths

variable {source goal : Path} {m : List String}

/-- The path by which a walk **calls** what is in a tree. -/
def called (source : Path) (m : List String) : Path := if m = [] then source else source.join ⟨m⟩

/-- The path by which a copy **writes** what is called by names. -/
def beneath (goal : Path) (m : List String) : Path := goal.join ⟨if m = [] then [""] else m⟩

/-- Whether **no path is too long** by which something in a tree is read or written when it is copied. -/
def Short (d : Disk) (source goal : Path) (S : Place) : Prop :=
  ∀ m, (d.find? (S ++ m)).isSome = true → (called source m).isLong = false ∧ (beneath goal m).isLong = false

theorem short_congr {d d' : Disk} {S : Place} (h : ∀ m, d.find? (S ++ m) = d'.find? (S ++ m)) :
    Short d source goal S ↔ Short d' source goal S := by
  simp only [Short, h]

@[simp]
theorem called_nil : called source [] = source := if_pos rfl

theorem called_of_ne (hm : m ≠ []) : called source m = source.join ⟨m⟩ := if_neg hm

theorem beneath_nil : beneath goal [] = goal.join ⟨[""]⟩ := rfl

theorem beneath_of_ne (hm : m ≠ []) : beneath goal m = goal.join ⟨m⟩ := by
  rw [beneath, if_neg hm]

end Paths

/-! ## The goal of a copy -/

/-- Where a tree is copied to: a path that **goes down from** a directory by names, the first of which
is `top`. -/
structure Goal (base : Path) (top : String) (goal : Path) : Prop where
  names : ∃ others, (∀ n ∈ top :: others, IsDiskName n) ∧ goal = base.join ⟨top :: others⟩

/-- The places at and below a name in a directory. -/
def Under (home : Place) (base : Path) (top : String) (q : Place) : Prop :=
  base.place home ++ [top] <+: q

instance (home : Place) (base : Path) (top : String) : DecidablePred (Under home base top) :=
  fun q => inferInstanceAs (Decidable (_ <+: q))

theorem under_append {home : Place} {base : Path} {top : String} {m : List String} (hm : m ≠ [])
    (hpre : m.head? = some top) : Under home base top (base.place home ++ m) := by
  obtain ⟨first, others, rfl⟩ := List.exists_cons_of_ne_nil hm
  obtain rfl : first = top := by simpa using hpre
  exact ⟨others, by simp⟩

theorem under_of_below {home : Place} {base : Path} {top : String} {others m : List String}
    (hm : m ≠ []) (hpre : m <+: top :: others) : Under home base top (base.place home ++ m) := by
  refine under_append hm ?_
  obtain ⟨first, rest, rfl⟩ := List.exists_cons_of_ne_nil hm
  rw [(List.cons_prefix_cons.mp hpre).1]
  rfl

variable {S : Scope} {home : Place} {base goal source : Path} {top : String}

theorem isGoal_slash {others : List String} (ho : ∀ n ∈ top :: others, IsDiskName n) :
    IsGoal base (top :: others) ((base.join ⟨top :: others⟩).join ⟨[""]⟩) := by
  have hplain : ∀ n ∈ top :: others, IsPlainName n := fun n hm => (ho n hm).toIsPlainName
  refine ⟨by simp, ho, Or.inr (join_join (continues_names (by simp) hplain) ?_ (continues_single ""))⟩
  intro hlast
  exact (hplain "" (List.mem_of_getLast? hlast)).ne_empty rfl

/-! ## Copying one thing -/

/-- What copying one thing does: a directory is made; of a file the directory is made first. -/
theorem copyVisit_eq {others : List String} (ho : ∀ n ∈ top :: others, IsDiskName n) {v : Visit}
    (hne : v.names ≠ []) (hv : ∀ n ∈ v.names, IsDiskName n) :
    ∃ init last, v.names = init ++ [last] ∧ copyVisit (base.join ⟨top :: others⟩) v =
      if v.entry.isDirectory then makeDirectories (base.join ⟨top :: others ++ v.names⟩)
      else (do
        makeDirectories (base.join ⟨top :: others ++ init⟩)
        Run.change (·.copyFile v.path (base.join ⟨top :: others ++ v.names⟩))) := by
  obtain ⟨init, last, hlast⟩ := List.eq_nil_or_concat v.names |>.resolve_left hne
  rw [List.concat_eq_append] at hlast
  have hop : ∀ n ∈ top :: others, IsPlainName n := fun n hn => (ho n hn).toIsPlainName
  have hvp : ∀ n ∈ v.names, IsPlainName n := fun n hn => (hv n hn).toIsPlainName
  have hend : ∀ {l : List String}, (∀ n ∈ l, IsPlainName n) → l.getLast? ≠ some "" := fun hl h =>
    (hl "" (List.mem_of_getLast? h)).ne_empty rfl
  have hjoin : (base.join ⟨top :: others⟩).join ⟨v.names⟩ = base.join ⟨top :: others ++ v.names⟩ :=
    join_join (continues_names (by simp) hop) (hend hop) (continues_names hne hvp)
  have hinit : ∀ n ∈ top :: others ++ init, IsPlainName n := fun n hn => by
    rcases List.mem_append.mp hn with hn | hn
    · exact hop n hn
    · exact hvp n (by rw [hlast]; exact List.mem_append_left _ hn)
  have hstep : (base.join ⟨top :: others ++ init⟩).EndsInStep := by
    obtain ⟨l, m, hl⟩ := List.eq_nil_or_concat (top :: others ++ init) |>.resolve_left (by simp)
    rw [List.concat_eq_append] at hl
    rw [hl] at hinit ⊢
    exact endsInStep_join (continues_names (by simp) hinit) (hinit m (by simp)).not_idle
  have hparent : (base.join ⟨top :: others ++ v.names⟩).parent? =
      some (base.join ⟨top :: others ++ init⟩) := by
    rw [hlast, ← List.append_assoc, ← join_join (continues_names (by simp) hinit) (hend hinit)
      (continues_single last)]
    exact parent?_child hstep (hvp last (by rw [hlast]; simp)).not_idle
  have hrel : v.relative = ⟨v.names⟩ := by
    rw [Visit.relative]
    simp [hne]
  refine ⟨init, last, hlast, ?_⟩
  unfold copyVisit
  simp only [hrel, hjoin, hparent]

theorem copyVisit_start {v : Visit} (hnil : v.names = []) (hv : v.entry.isDirectory = true) :
    copyVisit goal v = makeDirectories (goal.join ⟨[""]⟩) := by
  have hrel : v.relative = ⟨[""]⟩ := by rw [Visit.relative, hnil]; rfl
  unfold copyVisit
  simp only [hrel, hv, if_true]

/-- **Copying one thing** met on a walk is confined to what is below the goal. -/
theorem copyVisit_confined (hg : Goal base top goal) {v : Visit} (hv : ∀ n ∈ v.names, IsDiskName n)
    (hroot : v.names = [] → v.entry.isDirectory = true)
    (hW : ∀ q, Under home base top q → S.writes q)
    (hbase : ∀ q ∈ base.trail home, S.reads q) (hR : ∀ q, Under home base top q → S.reads q)
    (hsource : S.blind → ∀ q ∈ v.path.trail home, S.reads q) :
    Confined S (Stands home base) (copyVisit goal v) fun _ d => Stands home base d := by
  have make : ∀ {names : List String} {target : Path}, IsGoal base (top :: names) target →
      Confined S (Stands home base) (makeDirectories target) fun _ d => Stands home base d :=
    fun hgoal => (makeDirectories_confined hgoal (fun m hne hm => hW _ (under_of_below hne hm))
      fun m hne hm => hR _ (under_of_below hne hm)).post fun _ _ hd => hd.1
  obtain ⟨others, ho, rfl⟩ := hg.names
  by_cases hnil : v.names = []
  · rw [copyVisit_start hnil (hroot hnil)]
    exact make (isGoal_slash ho)
  · obtain ⟨init, last, hlast, heq⟩ := @copyVisit_eq base _ _ ho _ hnil hv
    have hall : ∀ n ∈ top :: others ++ v.names, IsDiskName n := fun n hn =>
      (List.mem_append.mp hn).elim (ho n) (hv n)
    have hplain : ∀ n ∈ top :: others ++ v.names, IsPlainName n := fun n hn => (hall n hn).toIsPlainName
    have hinit : ∀ n ∈ top :: others ++ init, IsDiskName n := fun n hn => hall n (by
      rw [hlast, ← List.append_assoc]
      exact List.mem_append_left _ hn)
    rw [heq]
    refine .ite (fun _ => make ⟨by simp, hall, Or.inl rfl⟩) (fun _ => ?_)
    refine (make ⟨by simp, hinit, Or.inl rfl⟩).seq fun _ => ?_
    have hdown := descends_names (by simp) hplain
    have hsteps : (Path.mk (top :: others ++ v.names)).steps = top :: (others ++ v.names) :=
      filter_plain hplain
    refine copyFile_confined hdown (fun _ hd => hd) (hW _ ?_) hsource fun x hx => ?_
    · rw [place_down home hdown, hsteps]
      exact under_of_below (by simp) (List.prefix_refl _)
    · rcases mem_trail_join home hdown hx with hx | ⟨m, hne, hm, rfl⟩
      · exact hbase x hx
      · rw [hsteps] at hm
        exact hR _ (under_of_below hne hm)

/-- Copying one thing that **a walk meets**, which fails after that at a directory that it cannot list. -/
def copyMet (goal : Path) (v : Visit) : Run Unit := do
  copyVisit goal v
  if v.isLongDirectory then Run.fail (.walk v.path .nameTooLong) else pure ()

theorem copyMet_of_short {v : Visit} (h : v.isLongDirectory = false) : copyMet goal v = copyVisit goal v := by
  unfold copyMet
  rw [h]
  exact bind_pure _

theorem copyMet_confined (hg : Goal base top goal) {v : Visit} (hv : ∀ n ∈ v.names, IsDiskName n)
    (hroot : v.names = [] → v.entry.isDirectory = true)
    (hW : ∀ q, Under home base top q → S.writes q)
    (hbase : ∀ q ∈ base.trail home, S.reads q) (hR : ∀ q, Under home base top q → S.reads q)
    (hsource : S.blind → ∀ q ∈ v.path.trail home, S.reads q) :
    Confined S (Stands home base) (copyMet goal v) fun _ d => Stands home base d :=
  (copyVisit_confined hg hv hroot hW hbase hR hsource).seq fun _ =>
    .ite (fun _ => .fail _) fun _ => .pure fun _ hd => hd

/-! ## Copying a tree -/

/-- The scope of a copy about which only the changes matter. -/
def copying (home : Place) (base : Path) (top : String) : Scope :=
  ⟨Under home base top, fun _ => False, fun _ => True, False⟩

theorem copying_copyVisit (hg : Goal base top goal) {v : Visit} (hv : ∀ n ∈ v.names, IsDiskName n)
    (hroot : v.names = [] → v.entry.isDirectory = true) :
    Confined (copying home base top) (Stands home base) (copyVisit goal v)
      fun _ d => Stands home base d :=
  copyVisit_confined hg hv hroot (fun _ hq => hq) (fun _ _ => trivial) (fun _ _ => trivial)
    fun hb => hb.elim

theorem copying_copyMet (hg : Goal base top goal) {v : Visit} (hv : ∀ n ∈ v.names, IsDiskName n)
    (hroot : v.names = [] → v.entry.isDirectory = true) :
    Confined (copying home base top) (Stands home base) (copyMet goal v) fun _ d => Stands home base d :=
  copyMet_confined hg hv hroot (fun _ hq => hq) (fun _ _ => trivial) (fun _ _ => trivial) fun hb => hb.elim

theorem copying_copyFrom (hg : Goal base top goal) : ∀ (n : Nat) (descend : Bool) {v : Visit},
    (∀ n ∈ v.names, IsDiskName n) → (v.names = [] → v.entry.isDirectory = true) →
      Confined (copying home base top) (Stands home base) (copyFrom goal n descend v)
        fun _ d => Stands home base d
  | 0, _, _, _, _ => .pure fun _ hd => hd
  | n + 1, descend, v, hv, hroot => by
    unfold copyFrom
    refine .ite (fun _ => ?_) (fun _ => copying_copyVisit hg hv hroot)
    have hlist : Confined (copying home base top) (Stands home base)
        (Run.inspect (·.listing v.path)) fun children d => Stands home base d ∧
          ∀ list, children = .ok list → ∀ child ∈ list, IsDiskName child.1 := by
      refine (Confined.inspect (S := copying home base top) False.elim).post fun children d hd => ⟨hd.1, ?_⟩
      rintro list hlist ⟨name, e⟩ hm
      exact (mem_listing hd.1.tree (hd.2.trans hlist) hm).1
    refine hlist.bind fun children => .of_pre fun hchildren => ?_
    refine (copying_copyVisit hg hv hroot).seq fun _ => ?_
    cases children with
    | error fault => exact .fail _
    | ok children =>
      refine .forM ?_
      rintro ⟨name, e⟩ hm
      have hname := hchildren children rfl _ hm
      exact copying_copyFrom hg n e.isDirectory
        (List.forall_mem_append.mpr ⟨hv, List.forall_mem_singleton.mpr hname⟩) (by simp)

/-- Whether the source of a copy is **apart** from the goal: none of what leads to it or is below it
is at the goal. -/
structure Apart (home : Place) (base : Path) (top : String) (source : Path) : Prop where
  accepted : source.Accepted
  trail : ∀ q ∈ source.trail home, ¬Under home base top q
  below : ∀ m, ¬Under home base top (source.place home ++ m)

/-- What a copy reads: what leads to the source and what is below it. -/
def Seen (home : Place) (source : Path) (q : Place) : Prop :=
  q ∈ source.trail home ∨ source.place home <+: q

theorem seen_of_child {name : String} (hn : IsPlainName name) {q : Place}
    (h : Seen home (source.join ⟨[name]⟩) q) : Seen home source q := by
  rcases h with h | h
  · rcases mem_trail_child home hn h with h | rfl
    · exact Or.inl h
    · exact Or.inr (List.prefix_append _ _)
  · rw [place_child home hn] at h
    exact Or.inr ((List.prefix_append _ _).trans h)

theorem find?_of_seen {d d₀ : Disk} (h : SameOn (Seen home source) d d₀) (m : List String) :
    d.find? (source.place home ++ m) = d₀.find? (source.place home ++ m) :=
  h.find? _ (Or.inr (List.prefix_append _ _))

theorem hasDirectory_of_seen {d d₀ : Disk} (hd : d.Linkless) (h : SameOn (Seen d₀.home source) d d₀) :
    d.hasDirectory source = d₀.hasDirectory source :=
  hasDirectory_congr hd h fun _ hx => Or.inl (h.home ▸ hx)

theorem Apart.not_under (h : Apart home base top source) {q : Place} (hq : Seen home source q) :
    ¬Under home base top q := by
  rcases hq with hq | ⟨m, rfl⟩
  · exact h.trail q hq
  · exact h.below m

/-- Copying apart from the source **keeps the source**. -/
theorem Apart.keeps (hapart : Apart home base top source) {d₀ : Disk} {x : Run PUnit}
    (hx : Confined (copying home base top) (Stands home base) x fun _ d => Stands home base d)
    {w w' : World} (hw : Stands home base w.disk ∧ SameOn (Seen home source) w.disk d₀)
    (hon : x.on w = (.ok ⟨⟩, w')) :
    Stands home base w'.disk ∧ SameOn (Seen home source) w'.disk d₀ := by
  have hwithin := hx.within w hw.1
  rw [hon] at hwithin
  refine ⟨hx.ends w _ w' hw.1 hon, (hwithin.sameOn fun q hq => ?_).symm.trans hw.2⟩
  exact ⟨hapart.not_under hq, fun h => h⟩

theorem forM_pure {β : Type} (l : List β) (w : World) :
    (l.forM fun _ => (Pure.pure ⟨⟩ : Run PUnit)).on w = (.ok ⟨⟩, w) := by
  induction l with
  | nil => rfl
  | cons b l ih => exact (bind_of_ok (pure_on _ _)).trans ih

/-- A **directory of the source** that a walk meets. -/
structure InSource (d₀ : Disk) (source p : Path) : Prop where
  leads : d₀.Leads p
  nonempty : p.isEmpty = false
  trail : ∀ q ∈ p.trail d₀.home, Seen d₀.home source q
  below : source.place d₀.home <+: p.place d₀.home

namespace InSource

variable {d₀ : Disk} {p : Path}

theorem self (h : d₀.Leads source) (hne : source.isEmpty = false) : InSource d₀ source source :=
  ⟨h, hne, fun _ hq => Or.inl hq, List.prefix_refl _⟩

theorem child (h : InSource d₀ source p) {name : String} (hname : IsDiskName name)
    (hf : d₀.find? (p.place d₀.home ++ [name]) = some .directory) :
    InSource d₀ source (p.join ⟨[name]⟩) := by
  have hbelow := h.below.trans (List.prefix_append (p.place d₀.home) [name])
  refine ⟨h.leads.child hname hf, isEmpty_join_child p hname.toIsPlainName, fun q hq => ?_, ?_⟩
  · rcases mem_trail_child _ hname.toIsPlainName hq with hq | rfl
    · exact h.trail q hq
    · exact Or.inr hbelow
  · rwa [place_child _ hname.toIsPlainName]

/-- A directory of the source is **listed as at the start** as long as the source is what it was, if its path is
not too long. -/
theorem listing (h : InSource d₀ source p) {d : Disk} (hd : d.Linkless)
    (hsame : SameOn (Seen d₀.home source) d d₀) (hlong : p.isLong = false) :
    d.listing p = .ok (d₀.names (p.place d₀.home)) := by
  rw [listing_congr hd hsame (by rw [hsame.home]; exact h.trail) fun name => ?_,
    listing_of_leads h.leads ⟨h.leads.noNull, h.nonempty, hlong⟩]
  rw [hsame.home]
  exact Or.inr (h.below.trans (List.prefix_append _ _))

theorem listing_of_isLong (h : InSource d₀ source p) (d : Disk) (hlong : p.isLong = true) :
    d.listing p = .error .nameTooLong :=
  listing_of_refused (accept_of_isLong h.leads.noNull h.nonempty hlong)

end InSource

/-- Copying something met on a walk and what is below it is confined to the goal. -/
theorem copying_visits (hg : Goal base top goal) {d₀ : Disk} (hd₀ : d₀.IsNested) (n : Nat) {v : Visit}
    (hv : ∀ n ∈ v.names, IsDiskName n) (hne : v.names ≠ []) (place : Place) :
    Confined (copying home base top) (Stands home base)
      ((v :: if v.entry.isDirectory then visits d₀ n place v.path v.names else []).forM (copyMet goal))
      fun _ d => Stands home base d := by
  refine .forM fun u hu => ?_
  rcases List.mem_cons.mp hu with rfl | hu
  · exact copying_copyMet hg hv fun h => absurd h hne
  · split at hu
    · obtain ⟨m, -, hm, -, hnames, -⟩ := mem_visits hd₀ n hu
      refine copying_copyMet hg ?_ (by simp [hnames, hne])
      rw [hnames]
      exact List.forall_mem_append.mpr ⟨hv, hm⟩
    · simp at hu

theorem copyFrom_long {v : Visit} (hdir : v.entry.isDirectory = true) (hlong : v.path.isLong = true) (n : Nat)
    (rest : List Visit) {w : World} (hlist : w.disk.listing v.path = .error .nameTooLong) :
    (copyFrom goal (n + 1) true v).on w = ((v :: rest).forM (copyMet goal)).on w := by
  have hstuck : v.isLongDirectory = true := by rw [Visit.isLongDirectory, hdir, hlong]; rfl
  have hmet : copyMet goal v = copyVisit goal v >>= fun _ => Run.fail (.walk v.path .nameTooLong) := by
    unfold copyMet
    rw [hstuck, if_pos rfl]
  rw [copyFrom, if_pos rfl, bind_of_ok (inspect_on _ _), hlist, forM_cons, hmet, bind_assoc]
  refine bind_on_congr rfl fun _ w' _ => ?_
  exact (bind_of_error rfl).symm

/-- A directory of the source is copied by itself, and then its children as long as its path is not too long. -/
theorem copyFrom_directory {d₀ : Disk} {p : Path} (hp : InSource d₀ source p) {names : List String} {w : World}
    (hd : w.disk.Linkless) (hsame : SameOn (Seen d₀.home source) w.disk d₀) {n : Nat} {rest : List Visit}
    (hrest : ∀ w', (copyVisit goal ⟨p, names, .directory⟩).on w = (.ok (), w') →
      ((d₀.names (p.place d₀.home)).forM fun child =>
        copyFrom goal n child.2.isDirectory ⟨p.join ⟨[child.1]⟩, names ++ [child.1], child.2⟩).on w' =
          (rest.forM (copyMet goal)).on w') :
    (copyFrom goal (n + 1) true ⟨p, names, .directory⟩).on w =
      ((⟨p, names, .directory⟩ :: rest).forM (copyMet goal)).on w := by
  cases hlong : p.isLong with
  | true => exact copyFrom_long rfl hlong _ _ (hp.listing_of_isLong _ hlong)
  | false =>
    rw [copyFrom, if_pos rfl, bind_of_ok (inspect_on _ _), hp.listing hd hsame hlong, forM_cons,
      copyMet_of_short (by simp [Visit.isLongDirectory, hlong])]
    exact bind_on_congr rfl fun _ w' hw' => hrest w' hw'

/-- What a walk meets below a directory of the source is **copied one by one**. -/
theorem copyFrom_eq (hg : Goal base top goal) {d₀ : Disk} (hapart : Apart d₀.home base top source)
    (ht₀ : d₀.IsTree) (n : Nat) :
    ∀ {p : Path} {names : List String}, InSource d₀ source p → (∀ n ∈ names, IsDiskName n) →
      ∀ w : World, Stands d₀.home base w.disk ∧ SameOn (Seen d₀.home source) w.disk d₀ →
        (copyFrom goal (n + 1) true ⟨p, names, .directory⟩).on w =
          ((⟨p, names, .directory⟩ :: visits d₀ n (p.place d₀.home) p names).forM (copyMet goal)).on w := by
  induction n with
  | zero =>
    intro p names hp hn w hw
    exact copyFrom_directory hp hw.1.tree.noLink hw.2 fun w' _ => forM_pure _ _
  | succ n ih =>
    intro p names hp hn w hw
    refine copyFrom_directory hp hw.1.tree.noLink hw.2 fun w' hw' => ?_
    have hkeep := hapart.keeps (copying_copyVisit hg hn fun _ => rfl) hw hw'
    have hchild : ∀ {name : String} {e : Entry}, (name, e) ∈ d₀.names (p.place d₀.home) →
        IsDiskName name ∧ ∀ m ∈ names ++ [name], IsDiskName m := fun {name e} hm => by
      have hname : IsDiskName name := ht₀.name _ _ (by rw [mem_names.mp hm]; rfl)
      exact ⟨hname, List.forall_mem_append.mpr ⟨hn, List.forall_mem_singleton.mpr hname⟩⟩
    show _ = ((visits d₀ (n + 1) (p.place d₀.home) p names).forM (copyMet goal)).on w'
    rw [visits, forM_flatMap]
    refine forM_on_congr (K := fun d => Stands d₀.home base d ∧ SameOn (Seen d₀.home source) d d₀)
      ?_ ?_ w' hkeep
    · -- one child: it is copied with what is below it
      rintro ⟨name, e⟩ hm w hw
      obtain ⟨hname, hnames⟩ := hchild hm
      have hf := mem_names.mp hm
      cases e with
      | directory =>
        have hdown := ih (hp.child hname hf) hnames w hw
        rwa [place_child _ hname.toIsPlainName] at hdown
      | file content =>
        show (copyFrom goal (n + 1) false _).on w = ([_].forM (copyMet goal)).on w
        rw [copyFrom, if_neg (by simp), forM_cons, copyMet_of_short rfl]
        exact (congrArg (·.on w) (bind_pure (copyVisit goal _))).symm
      | link target => exact absurd hf (ht₀.noLink _ _)
    · -- the source is what it was when the next one is copied
      rintro ⟨name, e⟩ hm w w' hw hon
      exact hapart.keeps (copying_visits hg ht₀.nested n (hchild hm).2 (by simp) _) hw hon

/-- Copying a tree that is apart from the goal **copies what a walk meets** at the start. -/
theorem copyTree_eq (hg : Goal base top goal) (hapart : Apart home base top source) {w : World}
    (hw : Stands home base w.disk) (hs : w.disk.Leads source) :
    (copyTree source goal).on w =
      ((⟨source, [], .directory⟩ ::
        visits w.disk w.disk.depthBound (source.place home) source []).forM (copyMet goal)).on w := by
  unfold copyTree
  rw [bind_of_ok (inspect_on _ _), rootEntry_of_leads hs hapart.accepted]
  simp only
  rw [bind_of_ok (inspect_on _ _), bind_of_ok (inspect_on _ _), entrance_of_leads hs hapart.accepted]
  obtain rfl := hw.home_eq
  exact copyFrom_eq hg hapart hw.tree _ (.self hs hapart.accepted.not_empty) (by simp) w ⟨hw, SameOn.refl _ _⟩

theorem makeDirectories_there {d : Disk} (hs : Stands home base d) {others : List String}
    (ho : ∀ n ∈ top :: others, IsDiskName n)
    (hlong : ((base.join ⟨top :: others⟩).join ⟨[""]⟩).isLong = false)
    (hd : d.find? (base.place home ++ top :: others) = some .directory) :
    d.makeDirectories ((base.join ⟨top :: others⟩).join ⟨[""]⟩) = (d, none) := by
  have hplain : ∀ n ∈ top :: others, IsPlainName n := fun n hn => (ho n hn).toIsPlainName
  obtain ⟨ht, rfl, hleads⟩ := hs
  have hreaches : d.Reaches (base.place d.home) (top :: others) :=
    (reaches_names hplain).mpr fun m _ hm => by
      by_cases heq : m = top :: others
      · rw [heq, hd]
      · refine ht.find?_prefix (by rw [hd]; rfl) ((List.prefix_append_right_inj _).mpr hm) ?_
        exact fun h => heq (List.append_cancel_left h)
  have hpave := pave_of_reaches hplain hreaches []
  rw [List.append_nil] at hpave
  rw [makeDirectories_join ht hleads (isGoal_slash ho), hlong, if_neg (by simp), hpave]
  rfl

/-- Copying a tree to a goal that has to be made is copying it **after the goal has been made**. -/
theorem copyTree_on_made (hg : Goal base top goal) (hapart : Apart home base top source) {w : World}
    {d₁ : Disk} (ht : w.disk.IsTree) (hhome : w.disk.home = home) (hleads : w.disk.Leads source)
    (hmake : w.disk.makeDirectories (goal.join ⟨[""]⟩) = (d₁, none)) (hs : Stands home base d₁)
    (hd : d₁.find? (goal.place home) = some .directory) (hsame : SameOn (Seen home source) d₁ w.disk) :
    (copyTree source goal).on w = (copyTree source goal).on { w with disk := d₁ } := by
  obtain ⟨others, ho, rfl⟩ := id hg.names
  have hlong := not_long_of_makeDirectories (by rw [hmake] : (w.disk.makeDirectories _).2 = none)
  have hleads₁ : d₁.Leads source := hsame.symm.leads (fun q hq => Or.inl (hhome ▸ hq)) hleads
  have hbelow : ∀ m, w.disk.find? (source.place home ++ m) = d₁.find? (source.place home ++ m) :=
    fun m => (hsame.find? _ (Or.inr (List.prefix_append _ _))).symm
  rw [place_names home (by simp) fun n hn => (ho n hn).toIsPlainName] at hd
  have hstart : ∀ v : Visit, v.names = [] → v.entry = .directory → ∀ w' : World,
      w'.disk.makeDirectories ((base.join ⟨top :: others⟩).join ⟨[""]⟩) = (d₁, none) →
      (copyVisit (base.join ⟨top :: others⟩) v).on w' = (.ok (), { w' with disk := d₁ }) :=
    fun v hn he w' hw' => by
      rw [copyVisit_start hn (by rw [he]; rfl), makeDirectories, tryChange_on, hw']
      rfl
  have hlist : w.disk.listing source = .ok (d₁.names (source.place home)) := by
    rw [listing_of_leads hleads hapart.accepted, hhome, names_congr fun name => hbelow [name]]
  have hlist₁ : d₁.listing source = .ok (d₁.names (source.place home)) := by
    rw [listing_of_leads hleads₁ hapart.accepted, hs.home_eq]
  have hfirst : ∀ n, (copyFrom (base.join ⟨top :: others⟩) (n + 1) true ⟨source, [], .directory⟩).on w =
      (copyFrom (base.join ⟨top :: others⟩) (n + 1) true ⟨source, [], .directory⟩).on
        { w with disk := d₁ } := fun n => by
    have hmade := hstart ⟨source, [], .directory⟩ rfl rfl w hmake
    have hthere := hstart ⟨source, [], .directory⟩ rfl rfl { w with disk := d₁ }
      (makeDirectories_there hs ho hlong hd)
    rw [copyFrom, if_pos rfl, bind_of_ok (inspect_on _ w), bind_of_ok (inspect_on _ { w with disk := d₁ }),
      hlist, hlist₁, bind_of_ok hmade, bind_of_ok hthere]
  have hvisits := @visits_congr _ _ ht hs.tree w.disk.depthBound d₁.depthBound (source.place home) source
    [] hbelow (by rw [← hhome, hleads.place]; rfl) (by simp only [depthBound, pathLimit]; omega)
    (by simp only [depthBound, pathLimit]; omega)
  rw [copyTree_eq (w := { w with disk := d₁ }) hg hapart hs hleads₁, ← hvisits]
  unfold copyTree
  rw [bind_of_ok (inspect_on _ _), rootEntry_of_leads hleads hapart.accepted]
  simp only
  rw [bind_of_ok (inspect_on _ _), bind_of_ok (inspect_on _ _), entrance_of_leads hleads hapart.accepted,
    hfirst]
  subst hhome
  exact copyFrom_eq hg hapart ht _ (.self hleads hapart.accepted.not_empty) (by simp) { w with disk := d₁ } ⟨hs, hsame⟩

/-- Where the goal of a copy cannot be made, **nothing is copied**. -/
theorem copyTree_unmade {w : World} (hleads : w.disk.Leads source)
    (haccepted : source.Accepted) {fault : Fault}
    (hmake : (w.disk.makeDirectories (goal.join ⟨[""]⟩)).2 = some fault) :
    (copyTree source goal).on w =
      (.error (.disk fault), { w with disk := (w.disk.makeDirectories (goal.join ⟨[""]⟩)).1 }) := by
  have hstart : (copyVisit goal ⟨source, [], .directory⟩).on w = (.error (.disk fault),
      { w with disk := (w.disk.makeDirectories (goal.join ⟨[""]⟩)).1 }) := by
    rw [copyVisit_start rfl rfl, makeDirectories, tryChange_on, hmake]
    rfl
  unfold copyTree
  rw [bind_of_ok (inspect_on _ _), rootEntry_of_leads hleads haccepted]
  simp only
  rw [bind_of_ok (inspect_on _ _), bind_of_ok (inspect_on _ _), entrance_of_leads hleads haccepted, copyFrom,
    if_pos rfl, bind_of_ok (inspect_on _ _), bind_of_error hstart]

/-- To a goal that is **too long** nothing is copied. -/
theorem copyTree_of_isLong (hlong : (goal.join ⟨[""]⟩).isLong = true) {I : Disk → Prop}
    (hI : ∀ d, I d → d.Linkless ∧ d.hasDirectory source = true) :
    Confined S I (copyTree source goal) fun _ _ => False := by
  obtain ⟨fault, hmake⟩ := makeDirectories_of_isLong hlong
  have hcopy : ∀ w : World, I w.disk → (copyTree source goal).on w = (.error (.disk fault), w) := fun w hw => by
    obtain ⟨hleads, haccepted⟩ := leads_of_hasDirectory (hI _ hw).1 (hI _ hw).2
    rw [copyTree_unmade hleads haccepted (by rw [hmake]), hmake]
  refine ⟨fun w hw => ?_, fun w a w' hw hon => ?_, fun _ w₁ w₂ h₁ h₂ _ => ?_⟩
  · rw [hcopy w hw]
    exact Within.refl _ _ _
  · rw [hcopy w hw] at hon
    cases (Prod.mk.inj hon).1
  · rw [hcopy w₁ h₁, hcopy w₂ h₂]
    exact ⟨rfl, fun _ h => by cases h⟩

theorem copying_copyTree (hg : Goal base top goal) {I : Disk → Prop}
    (hI : ∀ d, I d → Stands home base d ∧ d.hasDirectory source = true) :
    Confined (copying home base top) I (copyTree source goal) fun _ d => Stands home base d := by
  unfold copyTree
  have hroot : Confined (copying home base top) I (Run.inspect (·.rootEntry source))
      fun root d => Stands home base d ∧ root = .ok .directory := by
    refine (Confined.inspect (S := copying home base top) False.elim).post fun root d hd => ?_
    obtain ⟨hd, rfl⟩ := hd
    exact ⟨(hI d hd).1, rootEntry_of_hasDirectory (hI d hd).1.tree.noLink (hI d hd).2⟩
  refine hroot.bind fun root => .of_pre fun hr => ?_
  subst hr
  have hinspect : ∀ {α : Type} (f : Disk → α), Confined (copying home base top) (Stands home base)
      (Run.inspect f) fun _ d => Stands home base d := fun f =>
    (Confined.inspect (S := copying home base top) False.elim).post fun _ _ hd => hd.1
  refine (hinspect _).seq fun n => (hinspect _).seq fun descend => ?_
  exact copying_copyFrom hg (n + 1) descend (by simp) (fun _ => rfl)

/-- **Copying a tree** is confined to the goal; if it matters what is read, the source must be apart
from the goal. -/
theorem copyTree_confined (hg : Goal base top goal) {I : Disk → Prop}
    (hI : ∀ d, I d → Stands home base d ∧ d.hasDirectory source = true)
    (hW : ∀ q, Under home base top q → S.writes q)
    (hbase : ∀ q ∈ base.trail home, S.reads q) (hR : ∀ q, Under home base top q → S.reads q)
    (hsource : S.blind → Apart home base top source ∧ (∀ q, Seen home source q → S.reads q) ∧
      ∀ d, I d → d.Leads source) :
    Confined S I (copyTree source goal) fun _ d => Stands home base d := by
  have hcopy := copying_copyTree hg hI
  refine ⟨fun w hw => (hcopy.within w hw).mono hW fun _ h => h.elim, hcopy.ends,
    fun hb w₁ w₂ h₁ h₂ hS => ?_⟩
  obtain ⟨hapart, hseen, hleads⟩ := hsource hb
  have hs₁ := (hI _ h₁).1
  have hs₂ := (hI _ h₂).1
  have hvisits : visits w₁.disk w₁.disk.depthBound (source.place home) source [] =
      visits w₂.disk w₂.disk.depthBound (source.place home) source [] := by
    refine visits_congr hs₁.tree hs₂.tree _ _ (fun m => hS.find? _ (hseen _ (Or.inr ?_))) ?_ ?_ ?_
    · exact List.prefix_append _ _
    · have := (hleads _ h₁).place
      rw [hs₁.home_eq] at this
      rw [this]
      rfl
    · simp only [depthBound, pathLimit]
      omega
    · simp only [depthBound, pathLimit]
      omega
  rw [copyTree_eq hg hapart hs₁ (hleads _ h₁), copyTree_eq hg hapart hs₂ (hleads _ h₂), hvisits]
  refine Confined.same (S := S) (I := Stands home base) (J := fun _ d => Stands home base d)
    (.forM fun v hv => ?_) hb w₁ w₂ hs₁ hs₂ hS
  rcases List.mem_cons.mp hv with rfl | hv
  · exact copyMet_confined hg (by simp) (fun _ => rfl) hW hbase hR
      fun _ q hq => hseen q (Or.inl hq)
  · obtain ⟨m, hne, hm, -, hnames, hpath⟩ := mem_visits hs₂.tree.nested _ hv
    have hplain : ∀ n ∈ m, IsPlainName n := fun n hn => (hm n hn).toIsPlainName
    refine copyMet_confined hg (by rwa [hnames]) (by simp [hnames, hne]) hW hbase hR
      fun _ q hq => hseen q ?_
    rw [hpath] at hq
    rcases mem_trail_join home (descends_names hne hplain) hq with hq | ⟨l, -, -, rfl⟩
    · exact Or.inl hq
    · exact Or.inr (List.prefix_append _ _)

end Run

end SiteGen
