import SiteGen.Proofs.Disk.Linked
import SiteGen.Proofs.Disk.Pave
import SiteGen.Proofs.Run.Result

/-!
# What a walk meets

A walk below a directory meets every place below it once, in the order of the names on the way to it.

* `Disk.visits`: what is met, with the bound on the depth that `Disk.below` has.
* `Disk.walked`, `Disk.walk_of_look`: a walk from a path where there is a directory meets this, or fails at
  the first directory whose path is too long.
* `Disk.mem_visits`, `Disk.exists_mem_visits`: each place below.
* `Disk.visits_sorted`: in order, and once.
* `Disk.visits_congr`: what is met depends only on what is below, once the bound is high enough.
* `Disk.LongBelow`, `Disk.walked_of_short`, `Disk.walked_of_long`: the directories at which a walk fails.
-/

namespace SiteGen

/-- Whether something met is **a directory whose path is too long**, so that it cannot be listed. -/
def Visit.isLongDirectory (v : Visit) : Bool := v.entry.isDirectory && v.path.isLong

namespace Disk

open SiteGen.Path

variable {d d₁ d₂ : Disk} {p : Path} {place : Place}

theorem listing_of_look (h : d.look p = .ok (place, .directory)) : d.listing p = .ok (d.names place) := by
  unfold listing
  rw [h]
  rfl

theorem listing_of_leads (h : d.Leads p) (hp : p.Accepted) :
    d.listing p = .ok (d.names (p.place d.home)) := listing_of_look (lookFor_of_leads h hp)

theorem listing_of_refused {fault : Fault} (h : p.accept = .error fault) :
    d.listing p = .error fault := by
  unfold listing look lookFor
  rw [locate_of_refused h]
  rfl

theorem listing_congr {R : Place → Prop} (h₁ : d₁.Linkless) (h : SameOn R d₁ d₂)
    (hp : ∀ q ∈ p.trail d₁.home, R q) (hbelow : ∀ name, R (p.place d₁.home ++ [name])) :
    d₁.listing p = d₂.listing p := by
  unfold listing look
  rw [← lookFor_congr h₁ h hp]
  cases hl : d₁.lookFor .use p with
  | error fault => rfl
  | ok r =>
    obtain ⟨q, e⟩ := r
    simp only [bind, Except.bind]
    cases e with
    | directory =>
      simp only
      rw [names_congr fun name => h.find? _ ((find?_of_lookFor h₁ hl).1 ▸ hbelow name)]
    | file content => rfl
    | link target => rfl

theorem mem_listing (ht : d.IsTree) {children : List (String × Entry)}
    (h : d.listing p = .ok children) {name : String} {e : Entry} (hm : (name, e) ∈ children) :
    IsDiskName name ∧ d.find? (p.place d.home ++ [name]) = some e := by
  unfold listing at h
  cases hl : d.look p with
  | error fault => simp [hl, bind, Except.bind] at h
  | ok r =>
    obtain ⟨q, e'⟩ := r
    simp only [hl, bind, Except.bind] at h
    cases e' with
    | file content => cases h
    | link target => cases h
    | directory =>
      obtain rfl := Except.ok.inj h
      rw [(find?_of_lookFor ht.noLink hl).1] at hm
      have hf := mem_names.mp hm
      exact ⟨ht.name _ _ (by rw [hf]; rfl), hf⟩

/-! ## The things met -/

/-- **What is met** below a directory, by the bound on the depth, the place of the directory, its path
and the names on the way to it. -/
def visits (d : Disk) : Nat → Place → Path → List String → List Visit
  | 0, _, _, _ => []
  | n + 1, place, path, names => (d.names place).flatMap fun (name, e) =>
    ⟨path.join ⟨[name]⟩, names ++ [name], e⟩ ::
      if e.isDirectory then visits d n (place ++ [name]) (path.join ⟨[name]⟩) (names ++ [name])
      else []

/-- **What a walk comes to** that meets certain things: it fails at the first directory whose path is too
long. -/
def walked (vs : List Visit) : Except (Path × Fault) (List Visit) :=
  match vs.find? Visit.isLongDirectory with
  | some v => .error (v.path, .nameTooLong)
  | none => .ok vs

theorem walked_eq_ok {vs vs' : List Visit} :
    walked vs = .ok vs' ↔ vs' = vs ∧ ∀ v ∈ vs, v.isLongDirectory = false := by
  unfold walked
  cases h : vs.find? Visit.isLongDirectory with
  | some v =>
    constructor
    · intro h'
      cases h'
    · rintro ⟨-, hall⟩
      exact absurd (List.find?_some h) (by simp [hall v (List.mem_of_find?_eq_some h)])
  | none =>
    rw [List.find?_eq_none] at h
    simp only [Except.ok.injEq]
    exact ⟨fun h' => ⟨h'.symm, fun v hv => by simpa using h v hv⟩, fun h' => h'.1.symm⟩

theorem walked_append (vs ws : List Visit) :
    walked (vs ++ ws) = (do let vs ← walked vs; let ws ← walked ws; .ok (vs ++ ws)) := by
  unfold walked
  rw [List.find?_append]
  cases vs.find? Visit.isLongDirectory with
  | some v => rfl
  | none => cases ws.find? Visit.isLongDirectory <;> rfl

theorem mapM_walked {α : Type} {f : α → Except (Path × Fault) (List Visit)} {g : α → List Visit} {l : List α}
    (h : ∀ a ∈ l, f a = walked (g a)) : (l.mapM f).map List.flatten = walked (l.flatMap g) := by
  induction l with
  | nil => rfl
  | cons a l ih =>
    rw [List.mapM_cons, h a List.mem_cons_self, List.flatMap_cons, walked_append,
      ← ih fun b hb => h b (List.mem_cons_of_mem _ hb)]
    cases walked (g a) with
    | error e => rfl
    | ok vs => cases l.mapM f <;> rfl

theorem accept_join_of_isLong (h : d.look p = .ok (place, .directory)) {name : String} (hn : IsDiskName name)
    (hlong : (p.join ⟨[name]⟩).isLong = true) : (p.join ⟨[name]⟩).accept = .error .nameTooLong := by
  have hp := accepted_of_locate (lookFor_eq_ok.mp h).1
  refine accept_of_isLong ?_ (isEmpty_join_child p hn.toIsPlainName) hlong
  rw [text_join_null (continues_single name), not_or]
  exact ⟨hp.noNull, by simpa using hn.no_null⟩

/-- A walk below a directory fails **only at a path that is too long**. -/
theorem below_of_look (hd : d.IsNested) : ∀ (n : Nat) {p : Path} {place : Place} {names : List String},
    d.size < place.length + n → d.look p = .ok (place, .directory) →
      d.below n p names = walked (visits d n place p names)
  | 0, _, _, _, _, _ => rfl
  | n + 1, p, place, names, hn, h => by
    rw [below, listing_of_look h, visits, ← mapM_walked]
    · simp only
      rfl
    · rintro ⟨name, e⟩ hm
      have hf := mem_names.mp hm
      have hname : IsDiskName name := hd.name _ _ (by rw [hf]; rfl)
      cases e with
      | directory =>
        have hlength := hd.length_le_size (p := place ++ [name]) (by rw [hf]; rfl)
        rw [List.length_append, List.length_singleton] at hlength
        obtain ⟨n, rfl⟩ : ∃ k, n = k + 1 := ⟨n - 1, by omega⟩
        simp only [Entry.isDirectory, if_true]
        cases hlong : (p.join ⟨[name]⟩).isLong with
        | true =>
          rw [below, listing_of_refused (accept_join_of_isLong h hname hlong), walked,
            List.find?_cons_of_pos (by simp [Visit.isLongDirectory, hlong, Entry.isDirectory])]
          rfl
        | false =>
          rw [below_of_look hd (n + 1) (by rw [List.length_append, List.length_singleton]; omega)
            (look_child h hname hlong hf)]
          rw [walked, walked, List.find?_cons_of_neg (by simp [Visit.isLongDirectory, hlong])]
          cases (visits d (n + 1) (place ++ [name]) (p.join ⟨[name]⟩) (names ++ [name])).find?
            Visit.isLongDirectory <;> rfl
      | file content => rfl
      | link target => rfl

theorem entrance_of_look (h : d.look p = .ok (place, .directory)) : d.entrance p = true := by
  unfold entrance hasDirectory
  rw [h]
  rfl

theorem entrance_of_leads (h : d.Leads p) (hp : p.Accepted) : d.entrance p = true :=
  entrance_of_look (lookFor_of_leads h hp)

/-- A **walk** meets everything below its start, or fails at a path that is too long. -/
theorem walk_of_look (hd : d.IsNested) (h : d.look p = .ok (place, .directory)) :
    d.walk p = walked (visits d d.depthBound place p []) := by
  obtain ⟨e, he⟩ := rootEntry_of_look h
  unfold walk
  rw [he, entrance_of_look h, below_of_look hd _ (by simp only [depthBound, pathLimit]; omega) h]
  rfl

theorem rootEntry_of_leads (h : d.Leads p) (hp : p.Accepted) :
    d.rootEntry p = .ok .directory := by
  unfold rootEntry lookAt
  rw [lookFor_of_leads h hp]
  rfl

/-- Everything met is below the start, and is called by the names on the way. -/
theorem mem_visits (hd : d.IsNested) : ∀ (n : Nat) {place : Place} {p : Path} {names : List String}
    {v : Visit}, v ∈ visits d n place p names →
      ∃ m, m ≠ [] ∧ (∀ x ∈ m, IsDiskName x) ∧ d.find? (place ++ m) = some v.entry ∧
        v.names = names ++ m ∧ v.path = p.join ⟨m⟩
  | 0, _, _, _, _, hv => by simp [visits] at hv
  | n + 1, place, p, names, v, hv => by
    rw [visits, List.mem_flatMap] at hv
    obtain ⟨⟨name, e⟩, hm, hv⟩ := hv
    have hf := mem_names.mp hm
    have hn : IsDiskName name := hd.name _ _ (by rw [hf]; rfl)
    rcases List.mem_cons.mp hv with rfl | hv
    · exact ⟨[name], by simp, by simpa using hn, hf, rfl, rfl⟩
    · split at hv
      · obtain ⟨m, hne, hdisk, hfm, hnames, hpath⟩ := mem_visits hd n hv
        have hplain : ∀ x ∈ m, IsPlainName x := fun x hx => (hdisk x hx).toIsPlainName
        refine ⟨name :: m, by simp, by simpa using ⟨hn, hdisk⟩, ?_, ?_, ?_⟩
        · rwa [List.append_assoc, List.singleton_append] at hfm
        · rwa [List.append_assoc, List.singleton_append] at hnames
        · rw [hpath, join_join (continues_single name) (by simpa using hn.ne_empty)
            (continues_names hne hplain)]
          rfl
      · simp at hv

/-- Everything below the start **is met**, if the bound is high enough. -/
theorem exists_mem_visits (hd : d.IsNested) : ∀ (n : Nat) {place : Place} {p : Path}
    {names m : List String} {e : Entry}, d.size < place.length + n → m ≠ [] →
      d.find? (place ++ m) = some e → ⟨p.join ⟨m⟩, names ++ m, e⟩ ∈ visits d n place p names
  | 0, place, p, names, m, e, hn, hne, hf => by
    have := hd.length_le_size (p := place ++ m) (by rw [hf]; rfl)
    rw [List.length_append] at this
    omega
  | n + 1, place, p, names, [], e, hn, hne, hf => absurd rfl hne
  | n + 1, place, p, names, [name], e, hn, hne, hf => by
    rw [visits, List.mem_flatMap]
    exact ⟨(name, e), mem_names.mpr hf, List.mem_cons_self⟩
  | n + 1, place, p, names, name :: next :: m, e, hn, hne, hf => by
    have hsome : (d.find? (place ++ name :: next :: m)).isSome := by rw [hf]; rfl
    have hdir : d.find? (place ++ [name]) = some .directory :=
      hd.find?_prefix hsome ⟨next :: m, by simp⟩ (by simp)
    have hplain : ∀ x ∈ name :: next :: m, IsPlainName x := fun x hx =>
      (hd.isDiskName_of_mem hsome (List.mem_append_right _ hx)).toIsPlainName
    have hm := @exists_mem_visits hd n (place ++ [name]) (p.join ⟨[name]⟩) (names ++ [name])
      (next :: m) e
      (by rw [List.length_append, List.length_singleton]; omega) (by simp)
      (by rwa [List.append_assoc, List.singleton_append])
    rw [join_join (continues_single name) (by simpa using (hplain name (by simp)).ne_empty)
      (continues_names (by simp) fun x hx => hplain x (List.mem_cons_of_mem _ hx)),
      List.append_assoc, List.singleton_append] at hm
    rw [visits, List.mem_flatMap]
    exact ⟨(name, .directory), mem_names.mpr hdir, List.mem_cons_of_mem _ hm⟩

/-- What is met depends **only on what is below**. -/
theorem visits_congr (h₁ : d₁.IsTree) (h₂ : d₂.IsTree) : ∀ (n₁ n₂ : Nat) {place : Place} {p : Path}
    {names : List String}, (∀ m, d₁.find? (place ++ m) = d₂.find? (place ++ m)) →
      (d₁.find? place).isSome → d₁.size < place.length + n₁ → d₂.size < place.length + n₂ →
      visits d₁ n₁ place p names = visits d₂ n₂ place p names
  | 0, _, place, _, _, _, hplace, hn₁, _ => by
    have := h₁.nested.length_le_size hplace
    omega
  | _, 0, place, _, _, h, hplace, _, hn₂ => by
    have hsame := h []
    rw [List.append_nil] at hsame
    have := h₂.nested.length_le_size (hsame ▸ hplace)
    omega
  | n₁ + 1, n₂ + 1, place, p, names, h, hplace, hn₁, hn₂ => by
    rw [visits, visits, ← names_congr fun name => h [name]]
    refine List.flatMap_congr ?_
    rintro ⟨name, e⟩ hm
    have hf := mem_names.mp hm
    simp only
    split
    · rw [visits_congr h₁ h₂ n₁ n₂ (fun m => by simpa using h (name :: m)) (by rw [hf]; rfl)
        (by rw [List.length_append, List.length_singleton]; omega)
        (by rw [List.length_append, List.length_singleton]; omega)]
    · rfl

theorem names_of_mem_visits (hd : d.IsNested) {n : Nat} {names l : List String}
    (h : l ∈ (visits d n place p names).map (·.names)) : ∃ m, m ≠ [] ∧ l = names ++ m := by
  obtain ⟨v, hv, rfl⟩ := List.mem_map.mp h
  obtain ⟨m, hne, -, -, hnames, -⟩ := mem_visits hd n hv
  exact ⟨m, hne, hnames⟩

/-- Things are met **in the order of the names** on the way to them, a directory before what is in it. -/
theorem visits_sorted (hd : d.IsNested) : ∀ (n : Nat) (place : Place) (p : Path) (names : List String),
    ((visits d n place p names).map (·.names)).Pairwise (· < ·)
  | 0, _, _, _ => by simp [visits]
  | n + 1, place, p, names => by
    -- whatever is met by way of a child has the name of the child after the names so far
    have hchild : ∀ (child : String × Entry) (l : List String),
        l ∈ ((⟨p.join ⟨[child.1]⟩, names ++ [child.1], child.2⟩ : Visit) ::
          if child.2.isDirectory then
            visits d n (place ++ [child.1]) (p.join ⟨[child.1]⟩) (names ++ [child.1])
          else []).map (·.names) → ∃ m, l = names ++ child.1 :: m := by
      intro child l hl
      rw [List.map_cons, List.mem_cons] at hl
      rcases hl with rfl | hl
      · exact ⟨[], rfl⟩
      · split at hl
        · obtain ⟨m, -, rfl⟩ := names_of_mem_visits hd hl
          exact ⟨m, by rw [List.append_assoc, List.singleton_append]⟩
        · simp at hl
    rw [visits, List.map_flatMap, List.pairwise_flatMap]
    constructor
    · rintro ⟨name, e⟩ -
      rw [List.map_cons, List.pairwise_cons]
      constructor
      · intro l hl
        split at hl
        · obtain ⟨m, hne, rfl⟩ := names_of_mem_visits hd hl
          obtain ⟨x, m, rfl⟩ := List.exists_cons_of_ne_nil hne
          have hlt : names ++ [name] ++ [] < names ++ [name] ++ x :: m := List.append_left_lt (List.nil_lt_cons x m)
          rwa [List.append_nil] at hlt
        · simp at hl
      · split
        · exact visits_sorted hd n _ _ _
        · exact List.Pairwise.nil
    · refine (names_sorted d place).imp ?_
      intro a b hab l hla l' hlb
      obtain ⟨m, rfl⟩ := hchild a l hla
      obtain ⟨m', rfl⟩ := hchild b l' hlb
      exact List.append_left_lt (List.cons_lt_cons_iff.mpr (Or.inl hab))

/-! ## Directories whose path is too long -/

/-- Whether names lead below a directory to another one whose path is **too long**. -/
structure LongBelow (d : Disk) (place : Place) (p : Path) (names : List String) : Prop where
  below : names ≠ []
  directory : d.find? (place ++ names) = some .directory
  long : (p.join ⟨names⟩).isLong = true

theorem longBelow_of_mem_visits (hd : d.IsNested) {n : Nat} {v : Visit} (hv : v ∈ visits d n place p [])
    (hlong : v.isLongDirectory = true) : d.LongBelow place p v.names ∧ v.path = p.join ⟨v.names⟩ := by
  obtain ⟨m, hne, -, hf, hnames, hpath⟩ := mem_visits hd n hv
  rw [List.nil_append] at hnames
  subst hnames
  rw [Visit.isLongDirectory, Bool.and_eq_true, hpath] at hlong
  refine ⟨⟨hne, hf.trans ?_, hlong.2⟩, hpath⟩
  cases he : v.entry <;> simp_all [Entry.isDirectory]

theorem LongBelow.exists_mem_visits (hd : d.IsNested) {names : List String} (h : d.LongBelow place p names) :
    ∃ v ∈ visits d d.depthBound place p [], v.isLongDirectory = true ∧ v.names = names :=
  ⟨_, Disk.exists_mem_visits hd d.depthBound (by simp only [depthBound, pathLimit]; omega) h.below h.directory,
    by simp [Visit.isLongDirectory, Entry.isDirectory, h.long], List.nil_append _⟩

/-- What is at and below a place is **among what is on the disk**. -/
theorem forall_below_iff (hne : place ≠ []) {P : List String → Entry → Prop} :
    (∀ m e, d.find? (place ++ m) = some e → P m e) ↔ ∀ x ∈ d.toList, place <+: x.1 → P (x.1.drop place.length) x.2 := by
  have hfind : ∀ m, d.find? (place ++ m) = d.entries[place ++ m]? := fun m => find?_of_ne (by simp [hne])
  constructor
  · rintro h ⟨q, e⟩ hx ⟨m, rfl⟩
    rw [List.drop_left]
    exact h m e ((hfind m).trans (mem_toList.mp hx))
  · intro h m e he
    have := h (place ++ m, e) (mem_toList.mpr ((hfind m).symm.trans he)) (List.prefix_append _ _)
    rwa [List.drop_left] at this

theorem not_longBelow (hne : place ≠ []) (h : ∀ x ∈ d.toList, place <+: x.1 → x.2 = .directory →
    (p.join ⟨x.1.drop place.length⟩).isLong = false) (names : List String) : ¬d.LongBelow place p names :=
  fun hlong => by
    have hshort := (forall_below_iff (P := fun m e => e = .directory → (p.join ⟨m⟩).isLong = false) hne).mpr h
      names .directory hlong.directory rfl
    rw [hlong.long] at hshort
    cases hshort

/-- If no directory has a path that is too long, a walk **meets everything**. -/
theorem walked_of_short (hd : d.IsNested) (h : ∀ names, ¬d.LongBelow place p names) :
    walked (visits d d.depthBound place p []) = .ok (visits d d.depthBound place p []) := by
  refine walked_eq_ok.mpr ⟨rfl, fun v hv => ?_⟩
  by_contra hlong
  exact h _ (longBelow_of_mem_visits hd hv (by simpa using hlong)).1

/-- If some directory has, a walk fails at **the first one**. -/
theorem walked_of_long (hd : d.IsNested) (h : ∃ names, d.LongBelow place p names) :
    ∃ names, d.LongBelow place p names ∧ (∀ other, d.LongBelow place p other → ¬other < names) ∧
      walked (visits d d.depthBound place p []) = .error (p.join ⟨names⟩, .nameTooLong) := by
  obtain ⟨names, hnames⟩ := h
  obtain ⟨v, hv, hlong, -⟩ := hnames.exists_mem_visits hd
  unfold walked
  cases hfind : (visits d d.depthBound place p []).find? Visit.isLongDirectory with
  | none => exact absurd hlong (by simpa using List.find?_eq_none.mp hfind v hv)
  | some first =>
    obtain ⟨hfirst, before, after, heq, hbefore⟩ := List.find?_eq_some_iff_append.mp hfind
    obtain ⟨hbelow, hpath⟩ := longBelow_of_mem_visits hd (List.mem_of_find?_eq_some hfind) hfirst
    refine ⟨first.names, hbelow, fun other hother hlt => ?_, by rw [← hpath]⟩
    -- another one is met after the first, so that its names are greater
    obtain ⟨u, hu, hulong, rfl⟩ := hother.exists_mem_visits hd
    have hsorted := visits_sorted hd d.depthBound place p []
    rw [heq, List.map_append, List.map_cons, List.pairwise_append, List.pairwise_cons] at hsorted
    rw [heq, List.mem_append, List.mem_cons] at hu
    rcases hu with hu | rfl | hu
    · simpa [hulong] using hbefore u hu
    · exact lt_irrefl _ hlt
    · exact lt_asymm hlt (hsorted.2.1.1 _ (List.mem_map_of_mem hu))

end Disk

end SiteGen
