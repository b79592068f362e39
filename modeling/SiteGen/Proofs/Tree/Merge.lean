import SiteGen.Proofs.Disk.Inside
import SiteGen.Proofs.Disk.Visits
import SiteGen.Proofs.Tree.Copy

/-!
# Merging trees

Copying a tree into a directory puts what is in the tree at the same names in the directory, one thing after the
other. It goes on as long as the directory takes what is put there; if it does not, the copy stops, and what has been
put there stays.

* `Run.Merging`: when a tree can be merged into a directory: neither is inside the other, and no links are in the way.
* `Run.Takes`, `Run.Mergeable`: whether something can be put at its place, and whether all of a tree can.
* `Run.Merges`, `Merges.takes_iff`: what a copy has done to a disk at any time, which does not matter for what can be
  put there later.
* `Run.copyVisit_lays`, `Run.copyFrom_lays`: what is put in place by a step, and by all steps from a place on.
* `Run.copyTree_merges`: **what comes of copying a tree**.
-/

namespace SiteGen.Run

open Disk SiteGen.Path

/-! ## Putting something at its place -/

/-- When a tree can be **merged** into a directory: both are there, neither is inside the other, and there are no
links in the tree, nor in the directory at names that are in the tree. -/
structure Merging (d : Disk) (source goal : Path) (S D : Place) : Prop where
  nested : d.IsNested
  start : d.lookAt source = .ok (S, .directory)
  source : d.look source = .ok (S, .directory)
  goal : d.look goal = .ok (D, .directory)
  not_above : ¬S <+: D
  not_below : ¬D <+: S
  noLink : ∀ m target, d.find? (S ++ m) ≠ some (.link target)
  noLink_goal : ∀ m e target, d.find? (S ++ m) = some e → d.find? (D ++ m) ≠ some (.link target)

/-- Whether something can be **put** where names lead from the goal: the path is not too long, and it covers what is
there. -/
def Takes (d : Disk) (goal : Path) (D : Place) (m : List String) (e : Entry) : Prop :=
  (beneath goal m).isLong = false ∧ Covers m e (d.find? (D ++ m))

/-- Whether **all of a tree** can be read, and put at its place. -/
def Mergeable (d : Disk) (source goal : Path) (S D : Place) : Prop :=
  ∀ m e, d.find? (S ++ m) = some e → (called source m).isLong = false ∧ Takes d goal D m e

/-- Whether what is called by names in a tree **has been put** in the directory, by paths that are not too long. -/
def Placed (d₀ : Disk) (source goal : Path) (S D : Place) (d : Disk) (m : List String) : Prop :=
  ∀ e, d₀.find? (S ++ m) = some e →
    d.find? (D ++ m) = some e ∧ (called source m).isLong = false ∧ (beneath goal m).isLong = false

/-- What merging **does to a disk**: something in the tree is put at its place, if that takes it. -/
structure Merges (d₀ : Disk) (goal : Path) (S D : Place) (d d' : Disk) : Prop where
  nested : d.IsNested → d'.IsNested
  home : d'.home = d.home
  find? : ∀ q, d'.find? q = d.find? q ∨ ∃ m e, q = D ++ m ∧ d₀.find? (S ++ m) = some e ∧ d'.find? q = some e ∧
    Takes d₀ goal D m e

variable {d₀ d d' : Disk} {source goal : Path} {S D : Place} {m : List String} {e : Entry}

namespace Merges

theorem refl (d : Disk) : Merges d₀ goal S D d d := ⟨id, rfl, fun _ => Or.inl rfl⟩

theorem trans {d'' : Disk} (h : Merges d₀ goal S D d d') (h' : Merges d₀ goal S D d' d'') :
    Merges d₀ goal S D d d'' := by
  refine ⟨fun hd => h'.nested (h.nested hd), h'.home.trans h.home, fun q => ?_⟩
  rcases h'.find? q with heq | hput
  · rw [heq]
    exact h.find? q
  · exact Or.inr hput

/-- What has been put in place **stays**. -/
theorem placed (h : Merges d₀ goal S D d d') (hm : Placed d₀ source goal S D d m) :
    Placed d₀ source goal S D d' m := by
  intro e he
  refine ⟨?_, (hm e he).2⟩
  rcases h.find? (D ++ m) with heq | ⟨m', e', hq, he', hput, -⟩
  · rw [heq]
    exact (hm e he).1
  · rw [hput, ← he, ← he', List.append_cancel_left hq]

/-- **Whether something can be put** at its place does not depend on what has been put there already. -/
theorem takes_iff (h : Merges d₀ goal S D d₀ d) (he : d₀.find? (S ++ m) = some e) :
    Takes d goal D m e ↔ Takes d₀ goal D m e := by
  rcases h.find? (D ++ m) with heq | ⟨m', e', hq, he', hput, htakes⟩
  · unfold Takes
    rw [heq]
  · obtain rfl := List.append_cancel_left hq
    obtain rfl := Option.some.inj (he'.symm.trans he)
    refine iff_of_true ⟨htakes.1, ?_⟩ htakes
    rw [hput]
    rfl

end Merges

namespace Merging

variable (h : Merging d₀ source goal S D)

include h

theorem directory : d₀.find? S = some .directory := (lookFor_eq_ok.mp h.source).2

theorem ne_nil : D ≠ [] := fun hnil => h.not_below (hnil ▸ List.nil_prefix)

theorem apart (m m' : List String) : S ++ m ≠ D ++ m' := fun heq =>
  (List.prefix_or_prefix_of_prefix (List.prefix_append S m) (heq ▸ List.prefix_append D m')).elim h.not_above
    h.not_below

/-- Merging leaves **the tree** as it is. -/
theorem find?_source (hd : Merges d₀ goal S D d₀ d) (m : List String) : d.find? (S ++ m) = d₀.find? (S ++ m) := by
  rcases hd.find? (S ++ m) with heq | ⟨m', e, hq, -⟩
  · exact heq
  · exact absurd hq (h.apart m m')

theorem retains (hd : Merges d₀ goal S D d₀ d) : Retains d₀ d := by
  refine ⟨hd.home, fun q old hq hfile => ?_⟩
  rcases hd.find? q with heq | ⟨m, e, rfl, he, hput, htakes⟩
  · rw [heq, hq]
  · have hsame := htakes.2
    rw [hq] at hsame
    cases old with
    | file content => cases hfile
    | link target => exact absurd hq (h.noLink_goal m e target he)
    | directory => cases e <;> first | exact hput | cases hsame

theorem look_source (hd : Merges d₀ goal S D d₀ d) {p : Path} (hp : d₀.look p = .ok (S ++ m, e)) :
    d.look p = .ok (S ++ m, e) :=
  (h.retains hd).lookFor hp (by rw [h.find?_source hd, (lookFor_eq_ok.mp hp).2])

theorem inside (hd : Merges d₀ goal S D d₀ d) {init : List String} {last : String}
    (he : d₀.find? (S ++ (init ++ [last])) = some e) (hup : d.find? (D ++ init) = some .directory) :
    Inside d goal D init last := by
  have hsome : (d₀.find? (S ++ (init ++ [last]))).isSome := by rw [he]; rfl
  refine ⟨(h.retains hd).lookFor h.goal ((h.retains hd).find? _ _ (lookFor_eq_ok.mp h.goal).2 rfl), fun m hm => ?_,
    fun n hn => h.nested.isDiskName_of_mem hsome (List.mem_append_right _ hn), fun target hlink => ?_⟩
  · by_cases hne : m = init
    · rw [hne, hup]
    · have hnested := hd.nested h.nested
      exact hnested.find?_prefix (by rw [hup]; rfl) ((List.prefix_append_right_inj D).mpr hm)
        fun heq => hne (List.append_cancel_left heq)
  · rcases hd.find? (D ++ (init ++ [last])) with heq | ⟨m, e', hq, he', hput, -⟩
    · exact h.noLink_goal _ _ _ he (heq ▸ hlink)
    · rw [hput] at hlink
      exact h.noLink m target (hlink ▸ he')

/-- **Something in the tree put at its place**. -/
theorem put (hd : Merges d₀ goal S D d₀ d) {init : List String} {last : String}
    (he : d₀.find? (S ++ (init ++ [last])) = some e) (hup : d.find? (D ++ init) = some .directory)
    (htakes : Takes d goal D (init ++ [last]) e) :
    Merges d₀ goal S D d (d.insert (D ++ (init ++ [last])) e) ∧ ((called source (init ++ [last])).isLong = false →
      Placed d₀ source goal S D (d.insert (D ++ (init ++ [last])) e) (init ++ [last])) := by
  have hfind := fun q => find?_insert d (D ++ (init ++ [last])) q e Inside.ne_nil
  refine ⟨⟨fun hnested => ?_, rfl, fun q => ?_⟩, fun hlong e' he' => ⟨?_, hlong, htakes.1⟩⟩
  · rw [← List.append_assoc]
    refine hnested.insert hup (h.nested.name (S ++ init) last (by rw [List.append_assoc, he]; rfl)) fun hdir => ?_
    rw [List.append_assoc] at hdir
    have hsame := htakes.2
    rw [hdir] at hsame
    cases e <;> first | rfl | cases hsame
  · rw [hfind]
    split
    · next heq => exact Or.inr ⟨_, e, heq.symm, he, rfl, (hd.takes_iff he).mp htakes⟩
    · exact Or.inl rfl
  · rw [hfind, if_pos rfl, ← he, ← he']

end Merging

/-! ## Runs that put things at their places -/

/-- Whether a run **lays** things in the directory: it merges, and either ends when certain names have been put in
place, or stops with an error, because not all of the tree can be put in place. -/
def Lays (d₀ : Disk) (source goal : Path) (S D : Place) (T : List String → Prop) (x : Run PUnit) (w : World) : Prop :=
  ∃ d, Merges d₀ goal S D w.disk d ∧
    (x.on w = (.ok ⟨⟩, { w with disk := d }) ∧ (∀ m, T m → Placed d₀ source goal S D d m) ∨
      (∃ e, x.on w = (.error e, { w with disk := d })) ∧ ¬Mergeable d₀ source goal S D)

namespace Lays

variable {T T' : List String → Prop} {x : Run PUnit} {w : World}

theorem mono (h : Lays d₀ source goal S D T x w) (hT : ∀ m, (d₀.find? (S ++ m)).isSome → T' m → T m) :
    Lays d₀ source goal S D T' x w := by
  obtain ⟨d, hd, ⟨hx, hall⟩ | hfails⟩ := h
  · exact ⟨d, hd, Or.inl ⟨hx, fun m hm e he => hall m (hT m (by rw [he]; rfl) hm) e he⟩⟩
  · exact ⟨d, hd, Or.inr hfails⟩

theorem inspect {α : Type} {f : Disk → α} {g : α → Run PUnit} (h : Lays d₀ source goal S D T (g (f w.disk)) w) :
    Lays d₀ source goal S D T (Run.inspect f >>= g) w := by
  unfold Lays
  rwa [bind_of_ok (inspect_on f w)]

/-- Runs **after one another** lay what each of them lays. -/
theorem bind (h : Lays d₀ source goal S D T x w) {f : PUnit → Run PUnit}
    (hf : ∀ d, Merges d₀ goal S D w.disk d → (∀ m, T m → Placed d₀ source goal S D d m) →
      Lays d₀ source goal S D T' (f ⟨⟩) { w with disk := d }) :
    Lays d₀ source goal S D (fun m => T m ∨ T' m) (x >>= f) w := by
  obtain ⟨d, hd, ⟨hx, hall⟩ | ⟨⟨e, hx⟩, hno⟩⟩ := h
  · obtain ⟨d', hd', hend⟩ := hf d hd hall
    refine ⟨d', hd.trans hd', ?_⟩
    rw [bind_of_ok hx]
    exact hend.imp_left fun ⟨hy, hall'⟩ => ⟨hy, fun m hm => hm.elim (fun h => hd'.placed (hall m h)) (hall' m)⟩
  · exact ⟨d, hd, Or.inr ⟨⟨e, bind_of_error hx⟩, hno⟩⟩

/-- A run **for each of a list** lays what each of them lays. -/
theorem forM {β : Type} {l : List β} {f : β → Run PUnit} {T : β → List String → Prop} :
    ∀ {w : World}, (∀ b ∈ l, ∀ d, Merges d₀ goal S D w.disk d → Lays d₀ source goal S D (T b) (f b) { w with disk := d }) →
      Lays d₀ source goal S D (fun m => ∃ b ∈ l, T b m) (l.forM f) w := by
  induction l with
  | nil => exact fun {w} _ => ⟨w.disk, .refl _, Or.inl ⟨rfl, by simp⟩⟩
  | cons b l ih =>
    intro w hf
    have hfirst := hf b List.mem_cons_self w.disk (.refl _)
    refine (hfirst.bind fun d hd _ => @ih { w with disk := d } fun c hc d' hd' =>
      hf c (List.mem_cons_of_mem _ hc) d' (hd.trans hd')).mono fun m _ hm => ?_
    simpa using hm

end Lays

/-! ## What a walk meets in the tree -/

/-- Something that a walk **meets in the tree**. -/
structure InTree (d₀ : Disk) (source : Path) (S : Place) (v : Visit) : Prop where
  path : v.path = called source v.names
  entry : d₀.find? (S ++ v.names) = some v.entry

namespace Merging

variable {v : Visit} {init : List String} {last : String} (h : Merging d₀ source goal S D)

include h

theorem plain_of_isSome (hm : (d₀.find? (S ++ m)).isSome) : ∀ n ∈ m, IsPlainName n := fun _ hn =>
  (h.nested.isDiskName_of_mem hm (List.mem_append_right _ hn)).toIsPlainName

theorem inside_source (he : d₀.find? (S ++ (init ++ [last])) = some e) : Inside d₀ source S init last := by
  have hsome : (d₀.find? (S ++ (init ++ [last]))).isSome := by rw [he]; rfl
  refine ⟨h.source, fun m hm => ?_, fun n hn => h.nested.isDiskName_of_mem hsome (List.mem_append_right _ hn),
    fun target => h.noLink _ target⟩
  refine h.nested.find?_prefix hsome
    ((List.prefix_append_right_inj S).mpr (hm.trans (List.prefix_append _ _))) fun heq => ?_
  have hlength := hm.length_le
  rw [List.append_cancel_left heq, List.length_append, List.length_singleton] at hlength
  omega

theorem look_inTree (hv : InTree d₀ source S v) (hlong : v.path.isLong = false) :
    d₀.look v.path = .ok (S ++ v.names, v.entry) := by
  have he := hv.entry
  rw [hv.path] at hlong ⊢
  rcases List.eq_nil_or_concat v.names with hnil | ⟨init, last, hnames⟩
  · rw [hnil, List.append_nil] at he ⊢
    rw [called_nil, h.source, Option.some.inj (h.directory.symm.trans he)]
  · rw [List.concat_eq_append] at hnames
    rw [hnames] at he hlong ⊢
    rw [called_of_ne (by simp)] at hlong ⊢
    exact (h.inside_source he).lookFor_eq hlong .use he

theorem accept_inTree (hv : InTree d₀ source S v) (hlong : v.path.isLong = true) :
    v.path.accept = .error .nameTooLong := by
  have he := hv.entry
  rw [hv.path] at hlong ⊢
  rcases List.eq_nil_or_concat v.names with hnil | ⟨init, last, hnames⟩
  · rw [hnil, called_nil, (accepted_of_lookFor h.source).not_long] at hlong
    cases hlong
  · rw [List.concat_eq_append] at hnames
    rw [hnames] at he hlong ⊢
    rw [called_of_ne (by simp)] at hlong ⊢
    exact (h.inside_source he).refused hlong

theorem inTree_child (hv : InTree d₀ source S v) {name : String} (he : d₀.find? (S ++ (v.names ++ [name])) = some e) :
    InTree d₀ source S ⟨v.path.join ⟨[name]⟩, v.names ++ [name], e⟩ := by
  refine ⟨?_, he⟩
  have hplain := h.plain_of_isSome (m := v.names ++ [name]) (by rw [he]; rfl)
  show v.path.join ⟨[name]⟩ = called source (v.names ++ [name])
  rw [hv.path, called, called, if_neg (by simp : ¬v.names ++ [name] = [])]
  split
  · next hnil => rw [hnil, List.nil_append]
  · next hne =>
    have hinit : ∀ n ∈ v.names, IsPlainName n := fun n hn => hplain n (List.mem_append_left _ hn)
    exact join_join (continues_names hne hinit) (fun hl => (hinit "" (List.mem_of_getLast? hl)).ne_empty rfl)
      (continues_single name)

end Merging

/-! ## Copying one thing -/

section Visit

variable {v : Visit} {w : World} {init : List String} {last : String} {x : Run PUnit} {T : List String → Prop}

/-- Whether **the directory is there** in which a copy puts something, by a path that is not too long. -/
def Ready (d : Disk) (goal : Path) (D : Place) (init : List String) : Prop :=
  d.find? (D ++ init) = some .directory ∧ (beneath goal init).isLong = false

theorem Merging.lays_put (h : Merging d₀ source goal S D) (hd : Merges d₀ goal S D d₀ w.disk)
    (he : d₀.find? (S ++ (init ++ [last])) = some e) (hup : w.disk.find? (D ++ init) = some .directory)
    (htakes : Takes w.disk goal D (init ++ [last]) e)
    (hx : x.on w = (.ok ⟨⟩, { w with disk := w.disk.insert (D ++ (init ++ [last])) e })) :
    Lays d₀ source goal S D (fun m => m = init ++ [last] ∧ (called source m).isLong = false) x w := by
  obtain ⟨hmerges, hplaced⟩ := h.put hd he hup htakes
  exact ⟨_, hmerges, Or.inl ⟨hx, fun m ⟨hm, hlong⟩ => hm ▸ hplaced (hm ▸ hlong)⟩⟩

theorem lays_there (he : d₀.find? (S ++ m) = some e) (hf : w.disk.find? (D ++ m) = some e)
    (hlong : (beneath goal m).isLong = false) (hx : x.on w = (.ok ⟨⟩, w)) :
    Lays d₀ source goal S D (fun m' => m' = m ∧ (called source m').isLong = false) x w := by
  refine ⟨_, .refl _, Or.inl ⟨hx, fun m' ⟨hm, hlong'⟩ e' he' => ?_⟩⟩
  subst hm
  exact ⟨by rw [hf, ← he, he'], hlong', hlong⟩

theorem lays_refused (hno : ¬Mergeable d₀ source goal S D) {r : Error} (hx : x.on w = (.error r, w)) :
    Lays d₀ source goal S D T x w :=
  ⟨_, .refl _, Or.inr ⟨⟨r, hx⟩, hno⟩⟩

theorem not_mergeable_of_takes (hd : Merges d₀ goal S D d₀ d) (he : d₀.find? (S ++ m) = some e)
    (htakes : ¬Takes d goal D m e) : ¬Mergeable d₀ source goal S D := fun hall =>
  htakes ((hd.takes_iff he).mpr (hall m e he).2)

theorem not_mergeable_of_long (he : d₀.find? (S ++ m) = some e) (hlong : (called source m).isLong = true) :
    ¬Mergeable d₀ source goal S D := fun hall => by
  rw [(hall m e he).1] at hlong
  cases hlong

/-- Whether something is taken depends on **what is there**. -/
theorem takes_of_some {old : Entry} (hf : d.find? (D ++ m) = some old) :
    Takes d goal D m e ↔ (beneath goal m).isLong = false ∧ e.isDirectory = old.isDirectory := by
  rw [Takes, hf, Covers]

theorem takes_of_none (hf : d.find? (D ++ m) = none) :
    Takes d goal D m e ↔ (beneath goal m).isLong = false ∧ missing (m.getLast?.getD "") = .notFound := by
  rw [Takes, hf, Covers]

theorem takes_last_of_none (hf : d.find? (D ++ (init ++ [last])) = none) :
    Takes d goal D (init ++ [last]) e ↔
      (beneath goal (init ++ [last])).isLong = false ∧ missing last = .notFound := by
  rw [takes_of_none hf, List.getLast?_append_of_ne_nil _ (List.cons_ne_nil last []), List.getLast?_singleton,
    Option.getD_some]

theorem not_takes_of_long (hlong : (beneath goal m).isLong = true) : ¬Takes d goal D m e := fun h => by
  rw [h.1] at hlong
  cases hlong

theorem makeDirectories_lays (h : Merging d₀ source goal S D) (hd : Merges d₀ goal S D d₀ w.disk)
    (he : d₀.find? (S ++ (init ++ [last])) = some .directory) (hup : w.disk.find? (D ++ init) = some .directory) :
    Lays d₀ source goal S D (fun m => m = init ++ [last] ∧ (called source m).isLong = false)
      (makeDirectories (goal.join ⟨init ++ [last]⟩)) w := by
  have hinside := h.inside hd he hup
  have hbeneath := @beneath_of_ne goal (init ++ [last]) (by simp)
  have hon : (makeDirectories (goal.join ⟨init ++ [last]⟩)).on w = _ := tryChange_on _ w
  rw [hinside.makeDirectories_eq, ← hbeneath] at hon
  rw [← hbeneath]
  cases hlong : (beneath goal (init ++ [last])).isLong with
  | true =>
    rw [hlong, if_pos rfl] at hon
    exact lays_refused (not_mergeable_of_takes hd he (not_takes_of_long hlong)) hon
  | false =>
    rw [hlong, if_neg (by simp)] at hon
    cases hf : w.disk.find? (D ++ (init ++ [last])) with
    | none =>
      rw [hf] at hon
      by_cases hroom : missing last = .notFound
      · simp only [hroom, if_true] at hon
        exact h.lays_put hd he hup ((takes_last_of_none hf).mpr ⟨hlong, hroom⟩) hon
      · simp only [hroom, if_false] at hon
        exact lays_refused (not_mergeable_of_takes hd he fun ht => hroom ((takes_last_of_none hf).mp ht).2) hon
    | some old =>
      rw [hf] at hon
      cases old with
      | directory => exact lays_there he hf hlong hon
      | file content =>
        refine lays_refused (not_mergeable_of_takes hd he fun ht => ?_) hon
        cases ((takes_of_some hf).mp ht).2
      | link target => exact absurd hf (hinside.noLink target)

/-- **Copying a file** that is met in the tree. -/
theorem copyFile_lays (h : Merging d₀ source goal S D) (hd : Merges d₀ goal S D d₀ w.disk) {p : Path}
    {content : ByteArray} (hp : d₀.look p = .ok (S ++ (init ++ [last]), .file content))
    (hup : w.disk.find? (D ++ init) = some .directory) :
    Lays d₀ source goal S D (fun m => m = init ++ [last] ∧ (called source m).isLong = false)
      (Run.change (·.copyFile p (goal.join ⟨init ++ [last]⟩))) w := by
  have he := (lookFor_eq_ok.mp hp).2
  have hinside := h.inside hd he hup
  have hbeneath := @beneath_of_ne goal (init ++ [last]) (by simp)
  have hcopy := hinside.copyFile_eq (h.look_source hd hp) (h.apart _ _)
  rw [← hbeneath] at hcopy ⊢
  cases hlong : (beneath goal (init ++ [last])).isLong with
  | true =>
    rw [hlong, if_pos rfl] at hcopy
    exact lays_refused (not_mergeable_of_takes hd he (not_takes_of_long hlong)) (change_on_error hcopy)
  | false =>
    rw [hlong, if_neg (by simp)] at hcopy
    cases hf : w.disk.find? (D ++ (init ++ [last])) with
    | none =>
      rw [hf] at hcopy
      by_cases hroom : missing last = .notFound
      · rw [if_neg (by simp), if_pos (Or.inr hroom)] at hcopy
        exact h.lays_put hd he hup ((takes_last_of_none hf).mpr ⟨hlong, hroom⟩) (change_on_ok hcopy)
      · rw [if_neg (by simp), if_neg (by simp [hroom])] at hcopy
        exact lays_refused (not_mergeable_of_takes hd he fun ht => hroom ((takes_last_of_none hf).mp ht).2) (change_on_error hcopy)
    | some old =>
      rw [hf] at hcopy
      cases old with
      | directory =>
        rw [if_pos rfl] at hcopy
        refine lays_refused (not_mergeable_of_takes hd he fun ht => ?_) (change_on_error hcopy)
        cases ((takes_of_some hf).mp ht).2
      | file old =>
        rw [if_neg (by simp), if_pos (by simp)] at hcopy
        exact h.lays_put hd he hup ((takes_of_some hf).mpr ⟨hlong, rfl⟩) (change_on_ok hcopy)
      | link target => exact absurd hf (hinside.noLink target)

theorem look_of_refused {p : Path} {fault : Fault} (h : p.accept = .error fault) (d : Disk) :
    d.look p = .error fault := by
  unfold Disk.look lookFor
  rw [locate_of_refused h]
  rfl

theorem Merging.makeParent_on (h : Merging d₀ source goal S D) (hd : Merges d₀ goal S D d₀ w.disk)
    (he : d₀.find? (S ++ (init ++ [last])) = some e) (hup : Ready w.disk goal D init) :
    ∃ parent, (goal.join ⟨init ++ [last]⟩).parent? = some parent ∧
      (makeDirectories parent).on w = (.ok ⟨⟩, w) := by
  obtain ⟨parent, hparent, hmake⟩ := (h.inside hd he hup.1).makeDirectories_parent fun hne => by
    rw [← beneath_of_ne hne]
    exact hup.2
  refine ⟨parent, hparent, ?_⟩
  rw [makeDirectories, tryChange_on, hmake]
  rfl

theorem copyVisit_refused (h : Merging d₀ source goal S D) (hd : Merges d₀ goal S D d₀ w.disk)
    (hv : InTree d₀ source S v) (hup : ∀ init last, v.names = init ++ [last] → Ready w.disk goal D init)
    (hdir : v.entry.isDirectory = false) (hlong : v.path.isLong = true) :
    ∃ e, (copyVisit goal v).on w = (.error e, w) := by
  have he := hv.entry
  rcases List.eq_nil_or_concat v.names with hnil | ⟨init, last, hnames⟩
  · rw [hnil, List.append_nil, h.directory] at he
    rw [← Option.some.inj he] at hdir
    cases hdir
  rw [List.concat_eq_append] at hnames
  obtain ⟨parent, hparent, hon⟩ := h.makeParent_on hd (hnames ▸ he) (hup init last hnames)
  have hcopy : w.disk.copyFile v.path (goal.join ⟨init ++ [last]⟩) = .error .nameTooLong := by
    unfold copyFile
    rw [look_of_refused (h.accept_inTree hv hlong)]
    rfl
  have hrelative : v.relative = ⟨init ++ [last]⟩ := by simp [Visit.relative, hnames]
  refine ⟨.disk .nameTooLong, ?_⟩
  unfold copyVisit
  simp only [hrelative, hdir, Bool.false_eq_true, if_false, hparent]
  rw [bind_of_ok hon, change_on_error hcopy]

/-- **Copying one thing** puts it in place, if the directory in which it is to be is there. -/
theorem copyVisit_lays (h : Merging d₀ source goal S D) (hd : Merges d₀ goal S D d₀ w.disk)
    (hv : InTree d₀ source S v) (hlong : v.entry.isDirectory = false → v.path.isLong = false)
    (hup : ∀ init last, v.names = init ++ [last] → Ready w.disk goal D init) :
    Lays d₀ source goal S D (fun m => m = v.names ∧ (called source m).isLong = false) (copyVisit goal v) w := by
  have he := hv.entry
  rcases List.eq_nil_or_concat v.names with hnil | ⟨init, last, hnames⟩
  · -- the start of the walk, where the directory is there
    rw [hnil, List.append_nil, h.directory] at he
    have hgoal := (h.retains hd).lookFor h.goal ((h.retains hd).find? _ _ (lookFor_eq_ok.mp h.goal).2 rfl)
    have hstart : d₀.find? (S ++ []) = some .directory := by rw [List.append_nil, h.directory]
    have hthere : w.disk.find? (D ++ []) = some .directory := by rw [List.append_nil, (lookFor_eq_ok.mp hgoal).2]
    rw [copyVisit_start hnil (by rw [← Option.some.inj he]; rfl), hnil]
    cases hlong : (goal.join ⟨[""]⟩).isLong with
    | false =>
      refine lays_there hstart hthere hlong ?_
      rw [makeDirectories, tryChange_on, makeDirectories_slash hgoal hlong]
      rfl
    | true =>
      obtain ⟨fault, hmake⟩ := makeDirectories_of_isLong hlong
      refine lays_refused (r := .disk fault) (not_mergeable_of_takes hd hstart (not_takes_of_long hlong)) ?_
      rw [makeDirectories, tryChange_on, hmake]
      rfl
  · rw [List.concat_eq_append] at hnames
    have hrelative : v.relative = ⟨init ++ [last]⟩ := by simp [Visit.relative, hnames]
    have hup := hup init last hnames
    have he' := he
    rw [hnames] at he' ⊢
    unfold copyVisit
    rw [hrelative]
    cases hentry : v.entry with
    | directory => exact makeDirectories_lays h hd (hentry ▸ he') hup.1
    | link target => exact absurd (hentry ▸ he') (h.noLink _ target)
    | file content =>
      obtain ⟨parent, hparent, hon⟩ := h.makeParent_on hd he' hup
      simp only [Entry.isDirectory, Bool.false_eq_true, if_false, hparent]
      unfold Lays
      rw [bind_of_ok hon]
      have hlook := h.look_inTree hv (hlong (by rw [hentry]; rfl))
      rw [hnames, hentry] at hlook
      exact copyFile_lays h hd hlook hup.1

end Visit

/-! ## Copying a tree -/

theorem Merging.find?_listed (h : Merging d₀ source goal S D) (hd : Merges d₀ goal S D d₀ d) {c : String × Entry}
    (hc : c ∈ d.names (S ++ m)) : d₀.find? (S ++ (m ++ [c.1])) = some c.2 := by
  rw [← h.find?_source hd, ← List.append_assoc]
  exact mem_names.mp hc

theorem Merging.below_cases (h : Merging d₀ source goal S D) (hd : Merges d₀ goal S D d₀ d) {l : List String}
    (hm : (d₀.find? (S ++ m)).isSome) (hpre : l <+: m) :
    m = l ∨ ∃ c ∈ d.names (S ++ l), l ++ [c.1] <+: m := by
  obtain ⟨rest, rfl⟩ := hpre
  rcases rest with _ | ⟨name, rest⟩
  · exact Or.inl (List.append_nil _)
  · have hpre : l ++ [name] <+: l ++ name :: rest := ⟨rest, by simp⟩
    obtain ⟨e, hname⟩ := Option.isSome_iff_exists.mp
      (h.nested.isSome_prefix hm ((List.prefix_append_right_inj S).mpr hpre))
    rw [← h.find?_source hd, ← List.append_assoc] at hname
    exact Or.inr ⟨(name, e), mem_names.mpr hname, hpre⟩

theorem Merging.eq_of_below (h : Merging d₀ source goal S D) {l : List String} (he : d₀.find? (S ++ l) = some e)
    (hdir : e.isDirectory = false) (hm : (d₀.find? (S ++ m)).isSome) (hpre : l <+: m) : m = l := by
  by_contra hne
  have hup := h.nested.find?_prefix hm ((List.prefix_append_right_inj S).mpr hpre) fun heq =>
    hne (List.append_cancel_left heq).symm
  rw [he] at hup
  rw [Option.some.inj hup] at hdir
  cases hdir

/-- What is met at a place of the tree **and all that is below it** is put in place. -/
theorem copyFrom_lays (h : Merging d₀ source goal S D) : ∀ (n : Nat) {v : Visit} {w : World},
    d₀.size < S.length + v.names.length + n → InTree d₀ source S v →
    Merges d₀ goal S D d₀ w.disk →
    (∀ init last, v.names = init ++ [last] → Ready w.disk goal D init) →
      Lays d₀ source goal S D (v.names <+: ·) (copyFrom goal n v.entry.isDirectory v) w
  | 0, v, w, hn, hv, _, _ => by
    have := h.nested.length_le_size (p := S ++ v.names) (by rw [hv.entry]; rfl)
    rw [List.length_append] at this
    omega
  | n + 1, v, w, hn, hv, hd, hup => by
    have he := hv.entry
    unfold copyFrom
    cases hdir : v.entry.isDirectory with
    | false =>
      rw [if_neg (by simp)]
      cases hlong : v.path.isLong with
      | true =>
        obtain ⟨error, hon⟩ := copyVisit_refused h hd hv hup hdir hlong
        exact lays_refused (not_mergeable_of_long he (hv.path ▸ hlong)) hon
      | false =>
        exact (copyVisit_lays h hd hv (fun _ => hlong) hup).mono fun m hm hpre => by
          obtain rfl := h.eq_of_below he hdir hm hpre
          exact ⟨rfl, hv.path ▸ hlong⟩
    | true =>
      have hentry : v.entry = .directory := by
        cases hv : v.entry with
        | directory => rfl
        | file content => rw [hv] at hdir; cases hdir
        | link target => rw [hv] at hdir; cases hdir
      have hvisit := copyVisit_lays h hd hv (fun hfile => by rw [hdir] at hfile; cases hfile) hup
      rw [if_pos rfl]
      refine .inspect ?_
      cases hlong : v.path.isLong with
      | true =>
        -- the directory is made, and then it cannot be listed
        rw [listing_of_refused (h.accept_inTree hv hlong)]
        have hrest : ∀ d, Lays d₀ source goal S D (v.names <+: ·) (Run.fail (.walk v.path .nameTooLong))
            { w with disk := d } := fun d => lays_refused (not_mergeable_of_long he (hv.path ▸ hlong)) rfl
        exact (hvisit.bind fun d _ _ => hrest d).mono fun _ _ hpre => Or.inr hpre
      | false =>
        have hshort : (called source v.names).isLong = false := hv.path ▸ hlong
        have hlist := h.look_source hd (h.look_inTree hv hlong)
        rw [hentry] at hlist he
        rw [listing_of_look hlist]
        refine (hvisit.bind fun d hd' hplaced => Lays.forM (T := fun (c : String × Entry) m => v.names ++ [c.1] <+: m)
          fun c hc d' hd'' => ?_).mono fun m hm hpre =>
            (h.below_cases hd hm hpre).imp_left fun heq => ⟨heq, heq ▸ hshort⟩
        obtain ⟨hdown, -, hbeneath⟩ := hd''.placed (hplaced _ ⟨rfl, hshort⟩) _ he
        refine @copyFrom_lays h n ⟨v.path.join ⟨[c.1]⟩, v.names ++ [c.1], c.2⟩ { w with disk := d' } ?_
          (h.inTree_child hv (h.find?_listed hd hc)) (hd.trans (hd'.trans hd'')) fun init last hnames => ?_
        · simp only [List.length_append, List.length_singleton]
          omega
        · obtain ⟨rfl, -⟩ := List.append_inj' hnames rfl
          exact ⟨hdown, hbeneath⟩

/-- **What comes of copying a tree** into a directory: if all of it can be put in place, it is; if not, the copy stops
with an error. In any case only what is in the tree has been put there. -/
theorem copyTree_merges {w : World} (h : Merging w.disk source goal S D) :
    ∃ d, Merges w.disk goal S D w.disk d ∧
      (Mergeable w.disk source goal S D ∧ (copyTree source goal).on w = (.ok ⟨⟩, { w with disk := d }) ∧
          (∀ m, Placed w.disk source goal S D d m) ∨
        ¬Mergeable w.disk source goal S D ∧ ∃ e, (copyTree source goal).on w = (.error e, { w with disk := d })) := by
  have hroot : w.disk.rootEntry source = .ok .directory := by
    unfold rootEntry
    rw [h.start]
    rfl
  have hlays : Lays w.disk source goal S D ([] <+: ·) (copyTree source goal) w := by
    unfold copyTree
    refine .inspect ?_
    rw [hroot]
    refine .inspect (.inspect ?_)
    rw [entrance_of_look h.source]
    refine @copyFrom_lays _ _ _ _ _ h (w.disk.depthBound + 1) ⟨source, [], .directory⟩ w ?_ ?_ (.refl _) ?_
    · simp only [depthBound]
      omega
    · exact ⟨rfl, by rw [List.append_nil, h.directory]⟩
    · simp
  obtain ⟨d, hmerges, ⟨hon, hall⟩ | ⟨hfails, hno⟩⟩ := hlays
  · have hplaced : ∀ m, Placed w.disk source goal S D d m := fun m => hall m List.nil_prefix
    refine ⟨d, hmerges, Or.inl ⟨fun m e he => ?_, hon, hplaced⟩⟩
    obtain ⟨hput, hlong, hbeneath⟩ := hplaced m e he
    exact ⟨hlong, (hmerges.takes_iff he).mp ((takes_of_some hput).mpr ⟨hbeneath, rfl⟩)⟩
  · exact ⟨d, hmerges, Or.inr ⟨hno, hfails⟩⟩

end SiteGen.Run
