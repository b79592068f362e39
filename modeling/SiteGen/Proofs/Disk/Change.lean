import SiteGen.Proofs.Disk.Lead

/-!
# What operations change

Each operation on a tree changes it only at the place of its path, and leaves it a tree.

* `Disk.Calls`: a path calls a place that is, or may be made, in a directory.
-/

namespace SiteGen.Disk

open SiteGen.Path

variable {d d' : Disk} {p : Path} {q : Place}

/-! ## Places that can be written -/

/-- Where a path **calls** a place: it ends in the name of that place in a directory. -/
structure Calls (d : Disk) (p : Path) (q : Place) : Prop where
  noNull : '\x00' ∉ p.text.toList
  place_eq : p.place d.home = q
  mem_trail : q ∈ p.trail d.home
  onTrail : ∀ x ∈ p.trail d.home, d.find? x = some .directory ∨ x = q
  above : ∃ r name, q = r ++ [name] ∧ d.find? r = some .directory ∧
    ('/' ∉ name.toList → IsDiskName name)

theorem EndsIn.calls {r : Place} {name : String} (h : d.EndsIn p r name)
    (hnull : '\x00' ∉ p.text.toList) : d.Calls p (r ++ [name]) :=
  ⟨hnull, h.place_eq, h.mem_trail, fun _ hx => h.trail_cases hx, r, name, rfl, h.directory,
    h.isDiskName⟩

theorem Calls.ne_nil (h : d.Calls p q) : q ≠ [] := by
  obtain ⟨r, name, rfl, -⟩ := h.above
  exact concat_ne_nil r name

/-- Where all that is **missing** on the trail of a path has a name without slash. -/
def Admits (d : Disk) (p : Path) : Prop :=
  ∀ r name, r ++ [name] ∈ p.trail d.home → d.find? (r ++ [name]) = none → '/' ∉ name.toList

theorem Calls.insert (ht : d.IsTree) (h : d.Calls p q) (hp : d.Admits p) {e : Entry}
    (he : ∀ target, e ≠ .link target) (hold : d.find? q = some .directory → e = .directory) :
    (d.insert q e).IsTree := by
  obtain ⟨r, name, rfl, hr, hname⟩ := h.above
  refine ht.insert hr ?_ he hold
  cases hf : d.find? (r ++ [name]) with
  | none => exact hname (hp r name h.mem_trail hf)
  | some e' => exact ht.name r name (by rw [hf]; rfl)

theorem Calls.leads_insert (h : d.Calls p q) : (d.insert q .directory).Leads p := by
  refine ⟨h.noNull, fun x hx => ?_⟩
  rw [find?_insert _ _ _ _ h.ne_nil]
  rcases h.onTrail x hx with hd | rfl
  · split
    · rfl
    · exact hd
  · rw [if_pos rfl]

theorem accepted_of_lookFor {purpose : Purpose} {r : Place × Entry} (h : d.lookFor purpose p = .ok r) :
    p.Accepted := by
  unfold lookFor at h
  cases hl : d.locate purpose p with
  | error fault => simp [hl, bind, Except.bind] at h
  | ok q => exact accepted_of_locate hl

/-! ## Writing files -/

theorem writeBytes_cases (ht : d.IsTree) (hp : d.Grounded p)
    {content : ByteArray} (h : d.writeBytes p content = .ok d') :
    ∃ q, d.Calls p q ∧ d.find? q ≠ some .directory ∧ d' = d.insert q (.file content) := by
  unfold writeBytes at h
  cases hl : d.locate .make p with
  | error fault => simp [hl, bind, Except.bind] at h
  | ok r =>
    simp only [hl, bind, Except.bind] at h
    obtain ⟨hr, hcase⟩ := locate_cases ht hp hl
    rcases hcase with hleads | ⟨above, name, hends, rfl, hnot⟩
    · rw [hr, hleads.place] at h
      cases h
    · refine ⟨above ++ [name], hends.calls (accepted_of_locate hl).noNull, hnot, ?_⟩
      split at h
      · cases h
      · exact (Except.ok.inj h).symm

theorem removeFile_cases (ht : d.IsTree) (hp : d.Grounded p)
    (h : d.removeFile p = .ok d') :
    ∃ q, d.Calls p q ∧ (∃ content, d.find? q = some (.file content)) ∧ d' = d.erase q := by
  unfold removeFile at h
  cases hl : d.lookAt p with
  | error fault => simp [hl, bind, Except.bind] at h
  | ok r =>
    obtain ⟨q, e⟩ := r
    simp only [hl, bind, Except.bind] at h
    obtain ⟨-, hf, hcase⟩ := lookFor_cases ht hp hl
    cases e with
    | directory => cases h
    | link target => exact absurd hf (ht.noLink _ _)
    | file content =>
      rcases hcase with ⟨-, he⟩ | ⟨above, name, hends, rfl, -⟩
      · cases he
      · exact ⟨_, hends.calls (accepted_of_lookFor hl).noNull, ⟨content, hf⟩, (Except.ok.inj h).symm⟩

theorem find?_of_lookFor (hd : d.Linkless) {purpose : Purpose} {e : Entry}
    (h : d.lookFor purpose p = .ok (q, e)) : q = p.place d.home ∧ d.find? q = some e := by
  unfold lookFor at h
  cases hl : d.locate purpose p with
  | error fault => simp [hl, bind, Except.bind] at h
  | ok r =>
    simp only [hl, bind, Except.bind] at h
    cases hf : d.find? r with
    | none => simp [hf] at h
    | some e' =>
      simp only [hf, Except.ok.injEq, Prod.mk.injEq] at h
      obtain ⟨rfl, rfl⟩ := h
      exact ⟨place_of_locate hd hl, hf⟩

theorem find?_of_readBytes (hd : d.Linkless) {content : ByteArray}
    (h : d.readBytes p = .ok content) : d.find? (p.place d.home) = some (.file content) := by
  unfold readBytes at h
  cases hl : d.look p with
  | error fault => simp [hl, bind, Except.bind] at h
  | ok r =>
    obtain ⟨q, e⟩ := r
    simp only [hl, bind, Except.bind] at h
    obtain ⟨rfl, hf⟩ := find?_of_lookFor hd hl
    cases e with
    | directory => cases h
    | link target => cases h
    | file content' =>
      obtain rfl := Except.ok.inj h
      exact hf

/-- Of what is written at a place one after the other, **the last** is there. -/
theorem find?_insert_insert (hq : q ≠ []) (d : Disk) (e e' : Entry) (x : Place) :
    ((d.insert q e).insert q e').find? x = if q = x then some e' else d.find? x := by
  rw [find?_insert _ _ _ _ hq, find?_insert _ _ _ _ hq]
  split <;> rfl

/-- **Copying a file** writes what is read, unless the file is copied to itself. -/
theorem copyFile_cases (ht : d.IsTree) {source goal : Path} (hgoal : d.Grounded goal)
    (hadmits : d.Admits goal) (h : d.copyFile source goal = .ok d') :
    ∃ q content, d.Calls goal q ∧ d.find? q ≠ some .directory ∧ d'.IsTree ∧
      d' = (d.insert q (.file ByteArray.empty)).insert q (.file content) ∧
      (source.place d.home ≠ q → d.find? (source.place d.home) = some (.file content)) := by
  unfold copyFile at h
  cases hl : d.look source with
  | error fault => simp [hl, bind, Except.bind] at h
  | ok r =>
    obtain ⟨s, e⟩ := r
    simp only [hl, bind, Except.bind] at h
    cases e with
    | directory => cases h
    | link target => cases h
    | file content₀ =>
      simp only at h
      cases hw : d.writeBytes goal ByteArray.empty with
      | error fault => simp [hw] at h
      | ok d₁ =>
        simp only [hw] at h
        obtain ⟨q, hcalls, hnot, rfl⟩ := writeBytes_cases ht hgoal hw
        have ht₁ : (d.insert q (.file ByteArray.empty)).IsTree :=
          hcalls.insert ht hadmits (by simp) (fun hd => absurd hd hnot)
        have hfind := fun x => find?_insert d q x (.file ByteArray.empty) hcalls.ne_nil
        have hgoal₁ : (d.insert q (.file ByteArray.empty)).Grounded goal := by
          refine hgoal.mono (home_insert ..) fun x hx => ?_
          rw [hfind, if_neg]
          · exact hx
          · rintro rfl
            exact hnot hx
        cases hr : (d.insert q (.file ByteArray.empty)).readBytes source with
        | error fault => simp [hr] at h
        | ok content =>
          simp only [hr] at h
          have hread := find?_of_readBytes ht₁.noLink hr
          obtain ⟨q', hcalls', hnot', rfl⟩ := writeBytes_cases ht₁ hgoal₁ h
          obtain rfl : q' = q := hcalls'.place_eq.symm.trans hcalls.place_eq
          have hadmits₁ : (d.insert q' (.file ByteArray.empty)).Admits goal := by
            intro r name hr hf
            rw [hfind] at hf
            split at hf
            · cases hf
            · exact hadmits r name hr hf
          refine ⟨q', content, hcalls, hnot, hcalls'.insert ht₁ hadmits₁ (by simp)
            (fun hd => absurd hd hnot'), rfl, fun hne => ?_⟩
          rw [home_insert, hfind, if_neg (Ne.symm hne)] at hread
          exact hread

theorem look_of_copyFile {source goal : Path} (h : d.copyFile source goal = .ok d') :
    ∃ s content, d.look source = .ok (s, .file content) := by
  unfold copyFile at h
  cases hl : d.look source with
  | error fault => simp [hl, bind, Except.bind] at h
  | ok r =>
    obtain ⟨s, e⟩ := r
    simp only [hl, bind, Except.bind] at h
    cases e with
    | directory => cases h
    | link target => cases h
    | file content => exact ⟨s, content, rfl⟩

theorem Leads.admits (h : d.Leads p) {q : Path} (hq : Descends q) : d.Admits (p.join q) := by
  intro r name hr hf
  rcases mem_trail_join _ hq hr with hr | ⟨names, hne, hpre, heq⟩
  · rw [h.onTrail _ hr] at hf
    cases hf
  · obtain ⟨l, last, rfl⟩ := List.eq_nil_or_concat names |>.resolve_left hne
    rw [List.concat_eq_append] at heq hpre
    rw [← List.append_assoc] at heq
    obtain ⟨-, hlast⟩ := List.append_inj' heq rfl
    obtain rfl : name = last := (List.cons.inj hlast).1
    have hmem : name ∈ q.steps := hpre.subset (by simp)
    exact hq.noSlash name (List.mem_of_mem_filter hmem)

/-! ## Names in a directory -/

/-- **Writing** a name in a directory. -/
theorem writeBytes_child (ht : d.IsTree) (h : d.Leads p) {name : String} (hn : IsDiskName name)
    (content : ByteArray) : d.writeBytes (p.join ⟨[name]⟩) content =
      if (p.join ⟨[name]⟩).isLong then .error .nameTooLong
      else if d.find? (p.place d.home ++ [name]) = some .directory then .error .isDirectory
      else if (d.find? (p.place d.home ++ [name])).isSome || missing name == .notFound then
        .ok (d.insert (p.place d.home ++ [name]) (.file content))
      else .error (missing name) := by
  unfold writeBytes
  rw [locate_child ht h hn]
  by_cases hlong : (p.join ⟨[name]⟩).isLong = true
  · rw [if_pos hlong, if_pos hlong]
    rfl
  rw [if_neg hlong, if_neg hlong]
  cases hf : d.find? (p.place d.home ++ [name]) with
  | some e => cases e <;> simp [bind, Except.bind, hf]
  | none =>
    simp only [Option.isSome_none, Bool.false_or, reduceCtorEq, if_false]
    split
    · simp only [bind, Except.bind, hf]
    · rfl

theorem look_insert (hd : d.Linkless) {s : Place} {e : Entry} (hl : d.look p = .ok (s, e)) {q : Place}
    (hne : q ≠ []) (hs : s ≠ q) (hq : d.find? q ≠ some .directory) (new : Entry) :
    (d.insert q new).look p = .ok (s, e) := by
  have hsame : SameOn (· ≠ q) d (d.insert q new) := ⟨rfl, fun x hx => by
    rw [find?_insert _ _ _ _ hne, if_neg (Ne.symm hx)]⟩
  rw [← hl]
  refine (lookFor_congr hd hsame fun x hx => ?_).symm
  unfold look lookFor at hl
  cases hloc : d.locate .use p with
  | error fault => simp [hloc, bind, Except.bind] at hl
  | ok r =>
    have hr : r = s := by
      simp only [hloc, bind, Except.bind] at hl
      split at hl
      · exact (Prod.mk.inj (Except.ok.inj hl)).1
      · cases hl
    subst hr
    rcases List.mem_cons.mp hx with rfl | hx
    · rwa [← place_of_locate hd hloc]
    · rcases passed_of_resolve hd (locate_eq_ok.mp hloc).2 x hx with rfl | hdir
      · exact hs
      · rintro rfl
        exact hq hdir

/-- **Copying a file** to a name in a directory. -/
theorem copyFile_child (ht : d.IsTree) (h : d.Leads p) {name : String} (hn : IsDiskName name)
    {source : Path} {s : Place} {content : ByteArray} (hl : d.look source = .ok (s, .file content))
    (hs : s ≠ p.place d.home ++ [name]) : d.copyFile source (p.join ⟨[name]⟩) =
      if (p.join ⟨[name]⟩).isLong then .error .nameTooLong
      else if d.find? (p.place d.home ++ [name]) = some .directory then .error .isDirectory
      else if (d.find? (p.place d.home ++ [name])).isSome || missing name == .notFound then
        .ok ((d.insert (p.place d.home ++ [name]) (.file ByteArray.empty)).insert
          (p.place d.home ++ [name]) (.file content))
      else .error (missing name) := by
  have hne := concat_ne_nil (p.place d.home) name
  unfold copyFile
  rw [hl]
  simp only [bind, Except.bind]
  rw [writeBytes_child ht h hn]
  by_cases hlong : (p.join ⟨[name]⟩).isLong = true
  · rw [if_pos hlong, if_pos hlong]
  rw [if_neg hlong, if_neg hlong]
  by_cases hdir : d.find? (p.place d.home ++ [name]) = some .directory
  · rw [if_pos hdir, if_pos hdir]
  rw [if_neg hdir, if_neg hdir]
  by_cases hroom : ((d.find? (p.place d.home ++ [name])).isSome || missing name == .notFound) = true
  · rw [if_pos hroom, if_pos hroom]
    have hkeep : ∀ x, d.find? x = some .directory →
        (d.insert (p.place d.home ++ [name]) (.file ByteArray.empty)).find? x = some .directory := by
      intro x hx
      rw [find?_insert _ _ _ _ hne, if_neg]
      · exact hx
      · rintro rfl
        exact hdir hx
    have ht' : (d.insert (p.place d.home ++ [name]) (.file ByteArray.empty)).IsTree :=
      ht.insert h.place hn (by simp) fun hd => absurd hd hdir
    have h' : (d.insert (p.place d.home ++ [name]) (.file ByteArray.empty)).Leads p :=
      ⟨h.noNull, fun x hx => hkeep x (h.onTrail x hx)⟩
    have hfind : (d.insert (p.place d.home ++ [name]) (.file ByteArray.empty)).find?
        (p.place d.home ++ [name]) = some (.file ByteArray.empty) := by
      rw [find?_insert _ _ _ _ hne, if_pos rfl]
    have hread : (d.insert (p.place d.home ++ [name]) (.file ByteArray.empty)).readBytes source =
        .ok content := by
      rw [readBytes, look_insert ht.noLink hl hne hs hdir]
      rfl
    simp only [hread]
    rw [writeBytes_child ht' h' hn, if_neg hlong, home_insert, hfind, if_neg (by simp), if_pos (by simp)]
  · rw [if_neg hroom, if_neg hroom]

theorem lastSegment_child {name : String} (hn : IsPlainName name) :
    lastSegment (p.join ⟨[name]⟩) = name := by
  obtain ⟨l, hl, -⟩ := segments_join (p := p) (continues_single name)
  have htrim := trimSlashes_concat (l := l) hn.ne_empty (k := 0)
  rw [List.replicate_zero] at htrim
  rw [lastSegment, hl, htrim, List.getLast?_concat, Option.getD_some]

/-- **Removing** a name in a directory with all that is below. -/
theorem removeAll_child (ht : d.IsTree) (h : d.Leads p) {name : String} (hn : IsDiskName name)
    (hlong : (p.join ⟨[name]⟩).isLong = false) {e : Entry} (he : d.find? (p.place d.home ++ [name]) = some e) :
    d.removeAll (p.join ⟨[name]⟩) =
      if e.isDirectory then (d.eraseBelow (p.place d.home ++ [name]), none)
      else (d, some .notDirectory) := by
  unfold removeAll lookAt
  rw [lookFor_child ht h hn hlong he, lastSegment_child hn.toIsPlainName]
  cases e with
  | directory =>
    have hdot : (name == ".") = false := by simpa using hn.ne_dot
    have hdots : (name == "..") = false := by simpa using hn.ne_dots
    simp only [hdot, hdots, Bool.false_eq_true, if_false]
    rfl
  | file content => rfl
  | link target => exact absurd he (ht.noLink _ _)

theorem removeAll_of_isLong (h : d.Leads p) {name : String} (hn : IsDiskName name)
    (hlong : (p.join ⟨[name]⟩).isLong = true) :
    d.removeAll (p.join ⟨[name]⟩) = (d, some .nameTooLong) := by
  unfold removeAll lookAt lookFor
  rw [locate_of_refused (h.accept_child_of_isLong hn hlong)]
  rfl

theorem locateName_child (p : Path) {name : String} (hn : IsPlainName name) :
    d.locateName (p.join ⟨[name]⟩) = d.locate .name (p.join ⟨[name]⟩) := by
  have hslash := withoutSlash_append (endsInStep_child (p := p) hn) 0
  rw [List.replicate_zero, List.append_nil] at hslash
  rw [locateName, hslash]
  rfl

theorem endsInDots_child {name : String} (hn : IsPlainName name) :
    endsInDots (p.join ⟨[name]⟩) = false := by
  rw [endsInDots, lastSegment_child hn]
  simp [hn.ne_empty, hn.ne_dot, hn.ne_dots]

theorem endsInSlash_child {name : String} (hn : IsPlainName name) :
    endsInSlash (p.join ⟨[name]⟩) = false := by
  unfold endsInSlash
  simpa using (endsInStep_child (p := p) hn).getLast?_ne

/-- **Moving** a name in a directory to where nothing is. -/
theorem rename_child (ht : d.IsTree) {p₁ p₂ : Path} (h₁ : d.Leads p₁) (h₂ : d.Leads p₂)
    {a b : String} (ha : IsDiskName a) (hb : IsDiskName b)
    (hsource : d.find? (p₁.place d.home ++ [a]) = some .directory)
    (hgoal : d.find? (p₂.place d.home ++ [b]) = none)
    (hnot : ¬p₁.place d.home ++ [a] <+: p₂.place d.home ++ [b]) :
    d.rename (p₁.join ⟨[a]⟩) (p₂.join ⟨[b]⟩) =
      if (p₁.join ⟨[a]⟩).isLong || (p₂.join ⟨[b]⟩).isLong then .error .nameTooLong
      else if missing b = .notFound then
        .ok (d.moveBelow (p₁.place d.home ++ [a]) (p₂.place d.home ++ [b]))
      else .error (missing b) := by
  have hne : p₁.place d.home ++ [a] ≠ p₂.place d.home ++ [b] := by
    intro heq
    rw [heq, hgoal] at hsource
    cases hsource
  have hnot' : ¬p₂.place d.home ++ [b] <+: p₁.place d.home ++ [a] := by
    intro hpre
    rw [ht.find?_none hgoal hpre] at hsource
    cases hsource
  unfold rename
  rw [locateName_child _ ha.toIsPlainName, locateName_child _ hb.toIsPlainName,
    locate_child ht h₁ ha, locate_child ht h₂ hb, hsource, hgoal]
  cases hlong₁ : (p₁.join ⟨[a]⟩).isLong with
  | true => rfl
  | false =>
    cases hlong₂ : (p₂.join ⟨[b]⟩).isLong with
    | true => rfl
    | false =>
      simp only [Option.isSome_some, Bool.true_or, if_true, Option.isSome_none, Bool.false_or, bind,
        Except.bind, endsInDots_child ha.toIsPlainName, endsInDots_child hb.toIsPlainName,
        endsInSlash_child ha.toIsPlainName, endsInSlash_child hb.toIsPlainName, Bool.or_self]
      by_cases hroom : missing b = .notFound
      · simp only [hroom, beq_self_eq_true, if_true, Bool.false_eq_true, if_false, hsource, hgoal,
          Entry.isDirectory, Bool.not_true, Bool.false_and, beq_iff_eq, hne, List.isPrefixOf_iff_prefix,
          hnot, hnot']
      · simp only [hroom, beq_iff_eq, Bool.false_eq_true, if_false]

/-! ## Outcomes on two disks -/

/-- Whether an operation ends **alike** on two disks: with the same fault, or with the same on
certain places. -/
def Alike (R : Place → Prop) : Except Fault Disk → Except Fault Disk → Prop
  | .ok d₁, .ok d₂ => SameOn R d₁ d₂
  | .error fault₁, .error fault₂ => fault₁ = fault₂
  | _, _ => False

section Two

variable {R : Place → Prop} {d₁ d₂ : Disk}

theorem Alike.cases {r₁ r₂ : Except Fault Disk} (h : Alike R r₁ r₂) :
    (∃ fault, r₁ = .error fault ∧ r₂ = .error fault) ∨
      ∃ d₁ d₂, r₁ = .ok d₁ ∧ r₂ = .ok d₂ ∧ SameOn R d₁ d₂ := by
  rcases r₁ with fault₁ | d₁ <;> rcases r₂ with fault₂ | d₂
  · obtain rfl : fault₁ = fault₂ := h
    exact Or.inl ⟨fault₁, rfl, rfl⟩
  · exact h.elim
  · exact h.elim
  · exact Or.inr ⟨d₁, d₂, rfl, rfl, h⟩

theorem SameOn.insert (h : SameOn R d₁ d₂) (q : Place) (e : Entry) :
    SameOn R (d₁.insert q e) (d₂.insert q e) := by
  refine ⟨h.home, fun x hx => ?_⟩
  by_cases hq : q = []
  · subst hq
    by_cases hx' : x = []
    · rw [hx', Disk.find?_nil, Disk.find?_nil]
    · have := h.find? x hx
      rw [find?_of_ne hx', find?_of_ne hx'] at this ⊢
      simpa [Disk.insert, Std.ExtTreeMap.getElem?_insert, Ne.symm hx'] using this
  · rw [find?_insert _ _ _ _ hq, find?_insert _ _ _ _ hq, h.find? x hx]

theorem SameOn.erase (h : SameOn R d₁ d₂) {q : Place} (hq : q ≠ []) :
    SameOn R (d₁.erase q) (d₂.erase q) :=
  ⟨h.home, fun x hx => by rw [find?_erase _ _ _ hq, find?_erase _ _ _ hq, h.find? x hx]⟩

theorem SameOn.eraseBelow (h : SameOn R d₁ d₂) (q : Place) :
    SameOn R (d₁.eraseBelow q) (d₂.eraseBelow q) := by
  refine ⟨h.home, fun x hx => ?_⟩
  by_cases hx' : x = []
  · subst hx'
    rw [find?_nil, find?_nil]
  · rw [find?_eraseBelow _ _ _ hx', find?_eraseBelow _ _ _ hx', h.find? x hx]

theorem Linkless.insert_file (h : d.Linkless) (q : Place) (content : ByteArray) :
    (d.insert q (.file content)).Linkless := by
  intro x target hx
  by_cases hq : q = []
  · subst hq
    by_cases hx' : x = []
    · subst hx'
      simp [find?] at hx
    · refine h x target ?_
      rw [find?_of_ne hx'] at hx ⊢
      simpa [Disk.insert, Std.ExtTreeMap.getElem?_insert, Ne.symm hx'] using hx
  · rw [find?_insert _ _ _ _ hq] at hx
    split at hx
    · cases hx
    · exact h x target hx

theorem readBytes_congr (h₁ : d₁.Linkless) (h : SameOn R d₁ d₂) (hp : ∀ q ∈ p.trail d₁.home, R q) :
    d₁.readBytes p = d₂.readBytes p := by
  unfold readBytes look
  rw [lookFor_congr h₁ h hp]

theorem readText_congr (h₁ : d₁.Linkless) (h : SameOn R d₁ d₂) (hp : ∀ q ∈ p.trail d₁.home, R q) :
    d₁.readText p = d₂.readText p := by
  unfold readText
  rw [readBytes_congr h₁ h hp]

theorem linkless_of_writeBytes (h : d.Linkless) {content : ByteArray} (hw : d.writeBytes p content = .ok d') :
    d'.home = d.home ∧ d'.Linkless := by
  unfold writeBytes at hw
  cases hl : d.locate .make p with
  | error fault => simp [hl, bind, Except.bind] at hw
  | ok q =>
    simp only [hl, bind, Except.bind] at hw
    split at hw
    · cases hw
    · obtain rfl := Except.ok.inj hw
      exact ⟨rfl, h.insert_file _ _⟩

theorem writeBytes_congr (h₁ : d₁.Linkless) (h : SameOn R d₁ d₂) (hp : ∀ q ∈ p.trail d₁.home, R q)
    (content : ByteArray) : Alike R (d₁.writeBytes p content) (d₂.writeBytes p content) := by
  unfold writeBytes
  rw [← locate_congr h₁ h hp]
  cases hl : d₁.locate .make p with
  | error fault => rfl
  | ok q =>
    simp only [bind, Except.bind]
    rw [← h.find? q (hp q (place_of_locate h₁ hl ▸ List.mem_cons_self))]
    split
    · rfl
    · exact h.insert q _

theorem copyFile_congr (h₁ : d₁.Linkless) (h : SameOn R d₁ d₂) {source goal : Path}
    (hsource : ∀ q ∈ source.trail d₁.home, R q) (hgoal : ∀ q ∈ goal.trail d₁.home, R q) :
    Alike R (d₁.copyFile source goal) (d₂.copyFile source goal) := by
  unfold copyFile look
  rw [← lookFor_congr h₁ h hsource]
  cases hl : d₁.lookFor .use source with
  | error fault => rfl
  | ok r =>
    obtain ⟨s, e⟩ := r
    simp only [bind, Except.bind]
    cases e with
    | directory => rfl
    | link target => rfl
    | file content₀ =>
      have hw := writeBytes_congr h₁ h hgoal ByteArray.empty
      simp only
      rcases hw.cases with ⟨fault, hw₁, hw₂⟩ | ⟨d₁', d₂', hw₁, hw₂, h'⟩
      · rw [hw₁, hw₂]
        rfl
      · obtain ⟨hhome, hlinkless⟩ := linkless_of_writeBytes h₁ hw₁
        rw [hw₁, hw₂]
        simp only
        rw [← readBytes_congr hlinkless h' (by rwa [hhome])]
        cases hr : d₁'.readBytes source with
        | error fault => rfl
        | ok content => exact writeBytes_congr hlinkless h' (by rwa [hhome]) content

theorem removeFile_congr (h₁ : d₁.IsTree) (h : SameOn R d₁ d₂) (hp : ∀ q ∈ p.trail d₁.home, R q) :
    Alike R (d₁.removeFile p) (d₂.removeFile p) := by
  unfold removeFile lookAt
  rw [← lookFor_congr h₁.noLink h hp]
  cases hl : d₁.lookFor .name p with
  | error fault => rfl
  | ok r =>
    obtain ⟨q, e⟩ := r
    have hf := (find?_of_lookFor h₁.noLink hl).2
    have hq : e ≠ .directory → q ≠ [] := by
      rintro hne rfl
      rw [find?_nil] at hf
      exact hne (Option.some.inj hf).symm
    simp only [bind, Except.bind]
    cases e with
    | directory => rfl
    | file content => exact h.erase (hq (by simp))
    | link target => exact h.erase (hq (by simp))

end Two

end SiteGen.Disk
