import SiteGen.Proofs.Disk.Change

/-!
# Making directories

The directories above a missing one are looked for from the bottom up. What comes of it is the same as
going down and making what is missing.

* `Disk.pave`: going down by names, with directories made where nothing is.
* `Disk.makeDirectories_join`: making a directory and those above it is going down so.
* `Disk.Paved`, `Disk.pave_grows`: this adds only directories, and if it succeeds, all are there.
* `Disk.pave_congr`: it does the same on disks that are the same on the way.
* `Disk.pave_eq_none`: it succeeds where no file is on the way and no name that is missing is too long.
* `Disk.makeDirectories_of_isLong`: nothing is made at a path that is too long.
-/

namespace SiteGen

namespace Path

theorem size_text_append {l m : List String} (hl : l ≠ []) (hm : m ≠ []) :
    (Path.mk (l ++ m)).text.utf8ByteSize =
      (Path.mk l).text.utf8ByteSize + 1 + (Path.mk m).text.utf8ByteSize := by
  have hslash : "/".utf8ByteSize = 1 := by decide
  obtain ⟨b, m, rfl⟩ := List.exists_cons_of_ne_nil hm
  unfold text
  induction l with
  | nil => exact absurd rfl hl
  | cons a l ih =>
    rcases l with _ | ⟨c, l⟩
    · simp only [List.cons_append, List.nil_append]
      rw [String.intercalate_cons_cons, String.intercalate_singleton, String.utf8ByteSize_append,
        String.utf8ByteSize_append, hslash]
    · have hrest := ih (by simp)
      simp only [List.cons_append] at hrest ⊢
      rw [String.intercalate_cons_cons, String.intercalate_cons_cons, String.utf8ByteSize_append,
        String.utf8ByteSize_append, String.utf8ByteSize_append, String.utf8ByteSize_append, hrest, hslash]
      omega

theorem isLong_of_left {l m : List String} (h : (Path.mk (l ++ m)).isLong = false) :
    (Path.mk l).isLong = false := by
  unfold isLong at h ⊢
  rw [decide_eq_false_iff_not, not_lt] at h ⊢
  by_cases hl : l = []
  · subst hl
    decide +kernel
  by_cases hm : m = []
  · rwa [hm, List.append_nil] at h
  · rw [size_text_append hl hm] at h
    omega

theorem size_text_dots (n : Nat) (a : String) (l : List String) :
    (Path.mk (List.replicate n "." ++ a :: l)).text.utf8ByteSize =
      2 * n + (Path.mk (a :: l)).text.utf8ByteSize := by
  have hdot : (Path.mk ["."]).text.utf8ByteSize = 1 := by decide +kernel
  induction n with
  | zero => simp
  | succ n ih =>
    rw [List.replicate_succ, List.cons_append, ← List.singleton_append,
      size_text_append (by simp) (by simp), hdot, ih]
    omega

theorem join_append {p : Path} {l m : List String} (hl : Continues ⟨l⟩) (hlm : Continues ⟨l ++ m⟩) :
    p.join ⟨l ++ m⟩ = ⟨(p.join ⟨l⟩).segments ++ m⟩ := by
  unfold join
  rw [hl.notAbsolute, hlm.notAbsolute]
  simp only [Bool.false_eq_true, if_false]
  split <;> simp

theorem isLong_of_append {p : Path} {l m : List String} (hl : Continues ⟨l⟩)
    (hlm : Continues ⟨l ++ m⟩) (h : (p.join ⟨l ++ m⟩).isLong = false) :
    (p.join ⟨l⟩).isLong = false := by
  rw [join_append hl hlm] at h
  exact isLong_of_left h

/-- A path that is not too long is not too long with **fewer bytes** at its end. -/
theorem isLong_of_le {p : Path} {l m : List String} (hl : Continues ⟨l⟩) (hm : Continues ⟨m⟩)
    (hle : (Path.mk l).text.utf8ByteSize ≤ (Path.mk m).text.utf8ByteSize)
    (h : (p.join ⟨m⟩).isLong = false) : (p.join ⟨l⟩).isLong = false := by
  obtain ⟨k, -, hk⟩ := exists_segments_join p
  rw [show p.join ⟨m⟩ = ⟨k ++ m⟩ from congrArg Path.mk (hk _ hm)] at h
  rw [show p.join ⟨l⟩ = ⟨k ++ l⟩ from congrArg Path.mk (hk _ hl)]
  unfold isLong at h ⊢
  rw [decide_eq_false_iff_not, not_lt] at h ⊢
  by_cases hne : k = []
  · rw [hne, List.nil_append] at h ⊢
    exact hle.trans h
  · rw [size_text_append hne (m := l) hl.segments_ne_nil]
    rw [size_text_append hne (m := m) hm.segments_ne_nil] at h
    omega

theorem isLong_above {p : Path} (h : p.EndsInStep) (hlong : (Path.mk p.segments.dropLast).isLong = false) :
    p.above.isLong = false := by
  obtain ⟨k, idle, hk, -, habove | ⟨rfl | rfl, habove⟩⟩ := h.above_cases
  · rw [hk] at hlong
    rw [show p.above = ⟨k⟩ from congrArg Path.mk habove]
    exact isLong_of_left hlong
  · rw [show p.above = ⟨[""]⟩ from congrArg Path.mk habove]
    decide +kernel
  · rw [show p.above = ⟨["", ""]⟩ from congrArg Path.mk habove]
    decide +kernel

theorem isEmpty_join_names (p : Path) {names : List String} (hne : names ≠ [])
    (hn : ∀ n ∈ names, IsPlainName n) : (p.join ⟨names⟩).isEmpty = false := by
  obtain ⟨l, hl, -⟩ := segments_join (p := p) (continues_names hne hn)
  obtain ⟨last, hlast⟩ : ∃ last, names.getLast? = some last :=
    ⟨names.getLast hne, List.getLast?_eq_some_getLast hne⟩
  have hmem : last ∈ names := List.mem_of_getLast? hlast
  simp only [isEmpty, hl, Bool.or_eq_false_iff, beq_eq_false_iff_ne]
  constructor
  · intro h
    have := congrArg List.getLast? h
    rw [List.getLast?_append_of_ne_nil l hne, hlast] at this
    exact (hn last hmem).ne_empty (Option.some.inj this)
  · simp [hne]

end Path

namespace Disk

open SiteGen.Path

variable {d d' d₁ d₂ : Disk} {p : Path}

/-! ## Going down by names -/

/-- With directories at all places that names go down to: **made from the top**, as far as they are
missing. -/
def pave (d : Disk) (place : Place) : List String → Disk × Option Fault
  | [] => (d, none)
  | name :: rest =>
    match d.find? (place ++ [name]) with
    | some .directory => pave d (place ++ [name]) rest
    | some _ => (d, some (if rest.isEmpty then .exists else .notDirectory))
    | none =>
      if missing name = .notFound then
        pave (d.insert (place ++ [name]) .directory) (place ++ [name]) rest
      else (d, some (missing name))

theorem reaches_names {place : Place} {names : List String} (hn : ∀ n ∈ names, IsPlainName n) :
    d.Reaches place names ↔
      ∀ m, m ≠ [] → m <+: names → d.find? (place ++ m) = some .directory := by
  unfold Reaches
  constructor
  · intro h m hne hm
    refine h _ ((mem_passed_down (not_mem_dots hn)).mpr ⟨m, hne, ?_, rfl⟩)
    rwa [filter_plain hn]
  · intro h q hq
    obtain ⟨m, hne, hm, rfl⟩ := (mem_passed_down (not_mem_dots hn)).mp hq
    rw [filter_plain hn] at hm
    exact h m hne hm

theorem reaches_or_stops (d : Disk) (place : Place) {names : List String}
    (hn : ∀ n ∈ names, IsPlainName n) :
    d.Reaches place names ∨ ∃ l name rest, names = l ++ name :: rest ∧ d.Reaches place l ∧
      d.find? (place ++ l ++ [name]) ≠ some .directory := by
  induction names generalizing place with
  | nil => exact Or.inl fun q hq => by simp [passed] at hq
  | cons first others ih =>
    have hfirst := hn first List.mem_cons_self
    by_cases hd : d.find? (place ++ [first]) = some .directory
    · rcases ih (place ++ [first]) fun n hm => hn n (List.mem_cons_of_mem _ hm) with
        hr | ⟨l, name, rest, rfl, hr, hnot⟩
      · exact Or.inl ((reaches_name hfirst.not_idle hfirst.ne_dots).mpr ⟨hd, hr⟩)
      · refine Or.inr ⟨first :: l, name, rest, rfl,
          (reaches_name hfirst.not_idle hfirst.ne_dots).mpr ⟨hd, hr⟩, ?_⟩
        rwa [List.append_assoc place [first], List.singleton_append] at hnot
    · exact Or.inr ⟨[], first, others, rfl, fun q hq => by simp [passed] at hq, by simpa using hd⟩

theorem pave_of_reaches {place : Place} {l : List String}
    (hn : ∀ n ∈ l, IsPlainName n) (h : d.Reaches place l) (rest : List String) :
    pave d place (l ++ rest) = pave d (place ++ l) rest := by
  induction l generalizing place with
  | nil => simp
  | cons first others ih =>
    have hfirst := hn first List.mem_cons_self
    obtain ⟨hd, hr⟩ := (reaches_name hfirst.not_idle hfirst.ne_dots).mp h
    rw [List.cons_append, pave, hd]
    show pave d (place ++ [first]) (others ++ rest) = _
    rw [ih (fun n hm => hn n (List.mem_cons_of_mem _ hm)) hr, List.append_assoc,
      List.singleton_append]

/-! ## Making one directory -/

theorem withoutSlash_join {names : List String} (hne : names ≠ []) (hn : ∀ n ∈ names, IsPlainName n)
    (hs : Continues ⟨names ++ [""]⟩) : withoutSlash (p.join ⟨names ++ [""]⟩) = p.join ⟨names⟩ := by
  obtain ⟨l, last, rfl⟩ := List.eq_nil_or_concat names |>.resolve_left hne
  rw [List.concat_eq_append] at *
  have hstep : (p.join ⟨l ++ [last]⟩).EndsInStep :=
    endsInStep_join (continues_names (by simp) hn) (hn last (by simp)).not_idle
  rw [join_append (continues_names (by simp) hn) hs]
  exact withoutSlash_append hstep 1

/-- The path of a directory that is to be made: names, and perhaps a slash. -/
structure IsGoal (p : Path) (names : List String) (goal : Path) : Prop where
  ne_nil : names ≠ []
  name : ∀ n ∈ names, IsDiskName n
  goal_eq : goal = p.join ⟨names⟩ ∨ goal = p.join ⟨names ++ [""]⟩

namespace IsGoal

variable {names : List String} {goal : Path}

theorem plain (h : IsGoal p names goal) : ∀ n ∈ names, IsPlainName n :=
  fun n hn => (h.name n hn).toIsPlainName

theorem descends (h : IsGoal p names goal) : ∃ q, Descends q ∧ q.steps = names ∧ goal = p.join q ∧
    (q.segments = names ∨ q.segments = names ++ [""]) := by
  rcases h.goal_eq with rfl | rfl
  · exact ⟨⟨names⟩, descends_names h.ne_nil h.plain, filter_plain h.plain, rfl, Or.inl rfl⟩
  · refine ⟨⟨names ++ [""]⟩, descends_slash h.ne_nil h.plain, ?_, rfl, Or.inr rfl⟩
    show List.filter _ _ = _
    rw [List.filter_append, filter_plain h.plain]
    simp [isIdle]

theorem isEmpty (h : IsGoal p names goal) : goal.isEmpty = false := by
  rcases h.goal_eq with rfl | rfl
  · exact isEmpty_join_names p h.ne_nil h.plain
  · obtain ⟨l, hl, -⟩ := segments_join (p := p) (descends_slash h.ne_nil h.plain).toContinues
    have hne := h.ne_nil
    simp [Path.isEmpty, hl, hne, List.append_eq_singleton_iff]

theorem noNull (h : IsGoal p names goal) (hp : '\x00' ∉ p.text.toList) : '\x00' ∉ goal.text.toList := by
  obtain ⟨⟨segments⟩, hq, -, rfl, hseg⟩ := h.descends
  rw [text_join_null hq.toContinues, not_or]
  refine ⟨hp, ?_⟩
  rintro ⟨s, hs, hnull⟩
  rcases hseg with rfl | rfl
  · exact (h.name s hs).no_null hnull
  · rcases List.mem_append.mp hs with hs | hs
    · exact (h.name s hs).no_null hnull
    · simp [List.mem_singleton.mp hs] at hnull

theorem accepted (h : IsGoal p names goal) (hp : d.Leads p) (hlong : goal.isLong = false) : goal.Accepted :=
  ⟨h.noNull hp.noNull, h.isEmpty, hlong⟩

theorem withoutSlash_eq (h : IsGoal p names goal) : withoutSlash goal = p.join ⟨names⟩ := by
  rcases h.goal_eq with rfl | rfl
  · have hslash := withoutSlash_append (p := p.join ⟨names⟩) (by
      obtain ⟨l, last, rfl⟩ := List.eq_nil_or_concat names |>.resolve_left h.ne_nil
      rw [List.concat_eq_append]
      refine endsInStep_join (continues_names (by simp) ?_) (h.plain last (by simp)).not_idle
      simpa using h.plain) 0
    rwa [List.replicate_zero, List.append_nil] at hslash
  · exact withoutSlash_join h.ne_nil h.plain (descends_slash h.ne_nil h.plain).toContinues

theorem locateName_eq (h : IsGoal p names goal) (hp : d.Leads p) (hlong : goal.isLong = false) :
    d.locateName goal = d.resolve .name linkLimit (p.place d.home) names := by
  have hc := continues_names h.ne_nil h.plain
  obtain ⟨l, hl, hr, hplace⟩ := hp.join hc
  have hstart : goal.start d.home = (p.join ⟨names⟩).start d.home := by
    obtain ⟨q, hq, -, rfl, -⟩ := h.descends
    rw [start_join _ hq.toContinues, start_join _ hc]
  have hlocate : d.locateName goal = d.resolve .name linkLimit (goal.start d.home) (withoutSlash goal).segments := by
    unfold locateName
    rw [accept_eq_ok.mpr (h.accepted hp hlong)]
    rfl
  rw [hlocate, hstart, h.withoutSlash_eq, hl, resolve_append hr, hplace]

theorem locateName_of_isLong (h : IsGoal p names goal) (hp : d.Leads p) (hlong : goal.isLong = true) :
    d.locateName goal = .error .nameTooLong := by
  unfold locateName
  rw [accept_of_isLong (h.noNull hp.noNull) h.isEmpty hlong]
  rfl

theorem leads (h : IsGoal p names goal) (hp : d.Leads p)
    (hr : d.Reaches (p.place d.home) names) : d.Leads goal := by
  refine ⟨h.noNull hp.noNull, fun x hx => ?_⟩
  obtain ⟨q, hq, hsteps, rfl, -⟩ := h.descends
  rcases mem_trail_join _ hq hx with hx | ⟨m, hne, hm, rfl⟩
  · exact hp.onTrail x hx
  · rw [hsteps] at hm
    exact (reaches_names h.plain).mp hr m hne hm

theorem place_eq (h : IsGoal p names goal) (home : Place) :
    goal.place home = p.place home ++ names := by
  obtain ⟨q, hq, hsteps, rfl, -⟩ := h.descends
  rw [place_down _ hq, hsteps]

theorem length_le (h : IsGoal p names goal) : names.length ≤ goal.segments.length := by
  obtain ⟨q, hq, -, rfl, hseg⟩ := h.descends
  obtain ⟨l, hl, -⟩ := segments_join (p := p) hq.toContinues
  rw [hl, List.length_append]
  rcases hseg with hseg | hseg
  · rw [hseg]
    omega
  · rw [hseg, List.length_append]
    omega

variable {l m : List String}

theorem left (h : IsGoal p (l ++ m) goal) (hl : l ≠ []) : IsGoal p l (p.join ⟨l⟩) :=
  ⟨hl, fun n hn => h.name n (List.mem_append_left _ hn), Or.inl rfl⟩

theorem join_right (h : IsGoal p (l ++ m) goal) (hl : l ≠ []) (hm : m ≠ []) :
    (p.join ⟨l⟩).join ⟨m⟩ = p.join ⟨l ++ m⟩ := by
  have hplain := (h.left hl).plain
  exact join_join (continues_names hl hplain)
    (fun hlast => (hplain "" (List.mem_of_getLast? hlast)).ne_empty rfl)
    (continues_names hm fun n hn => h.plain n (List.mem_append_right _ hn))

theorem right (h : IsGoal p (l ++ m) goal) (hl : l ≠ []) (hm : m ≠ []) :
    IsGoal (p.join ⟨l⟩) m goal := by
  have hplain := (h.left hl).plain
  have hmplain : ∀ n ∈ m, IsPlainName n := fun n hn => h.plain n (List.mem_append_right _ hn)
  refine ⟨hm, fun n hn => h.name n (List.mem_append_right _ hn), ?_⟩
  rw [h.join_right hl hm, join_join (continues_names hl hplain)
    (fun hlast => (hplain "" (List.mem_of_getLast? hlast)).ne_empty rfl)
    (descends_slash hm hmplain).toContinues, ← List.append_assoc]
  exact h.goal_eq

theorem isLong_left (h : IsGoal p (l ++ m) goal) (hl : l ≠ []) (hlong : goal.isLong = false) :
    (p.join ⟨l⟩).isLong = false := by
  have hc := continues_names hl (h.left hl).plain
  rcases h.goal_eq with rfl | rfl
  · exact isLong_of_append hc (continues_names h.ne_nil h.plain) hlong
  · have hs := (descends_slash h.ne_nil h.plain).toContinues
    rw [List.append_assoc] at hs hlong
    exact isLong_of_append hc hs hlong

end IsGoal

/-- A path **leads on** by names to the directories below. -/
theorem Leads.names (ht : d.IsTree) (h : d.Leads p) {names : List String} (hne : names ≠ [])
    (hn : ∀ n ∈ names, IsDiskName n) (hf : d.find? (p.place d.home ++ names) = some .directory) :
    d.Leads (p.join ⟨names⟩) := by
  refine IsGoal.leads ⟨hne, hn, Or.inl rfl⟩ h
    ((reaches_names fun n hm => (hn n hm).toIsPlainName).mpr fun m _ hm => ?_)
  by_cases heq : m = names
  · rw [heq, hf]
  · refine ht.find?_prefix (by rw [hf]; rfl) ((List.prefix_append_right_inj _).mpr hm) ?_
    exact fun h => heq (List.append_cancel_left h)

/-- What names lead to below a directory **is found** there. -/
theorem lookFor_names (ht : d.IsTree) (h : d.Leads p) {names : List String} (hne : names ≠ [])
    (hn : ∀ n ∈ names, IsDiskName n) (hlong : (p.join ⟨names⟩).isLong = false) {purpose : Purpose}
    {e : Entry} (he : d.find? (p.place d.home ++ names) = some e) :
    d.lookFor purpose (p.join ⟨names⟩) = .ok (p.place d.home ++ names, e) := by
  obtain ⟨init, last, rfl⟩ := List.eq_nil_or_concat names |>.resolve_left hne
  rw [List.concat_eq_append] at *
  have hlast : IsDiskName last := hn last (by simp)
  by_cases hinit : init = []
  · subst hinit
    exact lookFor_child ht h hlast hlong he
  · have hi : ∀ n ∈ init, IsDiskName n := fun n hm => hn n (List.mem_append_left _ hm)
    have hip : ∀ n ∈ init, IsPlainName n := fun n hm => (hi n hm).toIsPlainName
    rw [← List.append_assoc] at he ⊢
    have hleads := h.names ht hinit hi (ht.parent _ last (by rw [he]; rfl))
    rw [← join_join (continues_names hinit hip)
      (fun hl => (hip "" (List.mem_of_getLast? hl)).ne_empty rfl) (continues_single last)] at hlong ⊢
    rw [← place_names d.home hinit hip]
    exact lookFor_child ht hleads hlast hlong (by rwa [place_names d.home hinit hip])

/-- Following names up to the first place that is no directory. -/
theorem resolve_stop (ht : d.IsTree) {links : Nat} {place : Place} {l : List String}
    {name : String} {rest : List String} (hn : ∀ n ∈ l, IsPlainName n) (hname : IsPlainName name)
    (hr : d.Reaches place l) (hnot : d.find? (place ++ l ++ [name]) ≠ some .directory) :
    d.resolve .name links place (l ++ name :: rest) =
      if (d.find? (place ++ l ++ [name])).isSome then
        if rest.isEmpty then .ok (place ++ l ++ [name]) else .error .notDirectory
      else if rest.isEmpty && missing name == .notFound then .ok (place ++ l ++ [name])
      else .error (missing name) := by
  rw [resolve_append hr, follow_names hn, resolve_cons, if_neg (by simp [hname.not_idle]),
    if_neg hname.ne_dots]
  cases hf : d.find? (place ++ l ++ [name]) with
  | none =>
    have hmaking : (Purpose.name == Purpose.make) = false := rfl
    simp only [Option.isSome_none, Bool.false_eq_true, if_false, hmaking, Bool.false_and]
  | some e =>
    cases e with
    | directory => exact absurd hf hnot
    | file content =>
      simp only [Option.isSome_some, if_true]
      split
      · rfl
      · rfl
    | link target => exact absurd hf (ht.noLink _ _)

theorem missing_cases (name : String) : missing name = .notFound ∨ missing name = .nameTooLong := by
  unfold missing
  split
  · exact Or.inr rfl
  · exact Or.inl rfl

theorem ensureDirectory_of_reaches {names : List String} {goal : Path} (hg : IsGoal p names goal)
    (h : d.Leads p) (hlong : goal.isLong = false) (hr : d.Reaches (p.place d.home) names) :
    d.ensureDirectory goal = .ok d := by
  have hleads := hg.leads h hr
  have hsome : d.find? (p.place d.home ++ names) = some .directory := by
    rw [← hg.place_eq]
    exact hleads.place
  have hmake : d.makeDirectory goal = .error .exists := by
    have hres : d.resolve .name linkLimit (p.place d.home) (names ++ []) = _ := resolve_append hr []
    rw [List.append_nil] at hres
    unfold makeDirectory make
    rw [hg.locateName_eq h hlong, hres, resolve_nil, follow_names hg.plain]
    simp only [bind, Except.bind, hsome]
  unfold ensureDirectory
  rw [hmake]
  have : d.hasDirectory goal = true := by
    rw [hasDirectory, look, lookFor_of_leads hleads (hg.accepted h hlong)]
    rfl
  rw [this]
  rfl

/-- Making a directory that names go down to, up to **the first name** that is no directory. -/
theorem makeDirectory_of_stops (ht : d.IsTree) {l : List String} {name : String}
    {rest : List String} {goal : Path} (hg : IsGoal p (l ++ name :: rest) goal) (h : d.Leads p)
    (hlong : goal.isLong = false) (hr : d.Reaches (p.place d.home) l)
    (hnot : d.find? (p.place d.home ++ l ++ [name]) ≠ some .directory) :
    d.makeDirectory goal =
      if (d.find? (p.place d.home ++ l ++ [name])).isSome then
        .error (if rest.isEmpty then .exists else .notDirectory)
      else if rest.isEmpty && missing name == .notFound then
        .ok (d.insert (p.place d.home ++ l ++ [name]) .directory)
      else .error (missing name) := by
  have hl : ∀ n ∈ l, IsPlainName n := fun n hm => hg.plain n (by simp [hm])
  unfold makeDirectory make
  rw [hg.locateName_eq h hlong, resolve_stop ht hl (hg.plain name (by simp)) hr hnot]
  cases hf : d.find? (p.place d.home ++ l ++ [name]) with
  | some e =>
    simp only [Option.isSome_some, if_true]
    cases rest with
    | nil => simp only [List.isEmpty_nil, if_true, bind, Except.bind, hf]
    | cons s t => rfl
  | none =>
    simp only [Option.isSome_none, Bool.false_eq_true, if_false]
    split
    · simp only [bind, Except.bind, hf]
    · rfl

theorem hasDirectory_of_stops (ht : d.IsTree) {l : List String} {name : String}
    {rest : List String} {goal : Path} (hg : IsGoal p (l ++ name :: rest) goal)
    (hnot : d.find? (p.place d.home ++ l ++ [name]) ≠ some .directory) :
    d.hasDirectory goal = false := by
  rw [Bool.eq_false_iff, ne_eq, hasDirectory_iff ht.noLink]
  rintro ⟨hleads, -⟩
  have hplace := hleads.place
  rw [hg.place_eq, List.append_cons, ← List.append_assoc, ← List.append_assoc] at hplace
  by_cases hrest : rest = []
  · rw [hrest, List.append_nil] at hplace
    exact hnot hplace
  · exact hnot (ht.find?_prefix (by rw [hplace]; rfl) (List.prefix_append _ _) (by simpa using hrest))

theorem ensureDirectory_eq {goal : Path} (h : d.hasDirectory goal = false) :
    d.ensureDirectory goal = d.makeDirectory goal := by
  unfold ensureDirectory
  split
  · next hmake => rw [h, hmake, if_neg Bool.false_ne_true]
  · rfl

/-- A directory is **made** if only the last name is missing. -/
theorem ensureDirectory_of_stops (ht : d.IsTree) {l : List String} {name : String}
    {rest : List String} {goal : Path} (hg : IsGoal p (l ++ name :: rest) goal) (h : d.Leads p)
    (hlong : goal.isLong = false) (hr : d.Reaches (p.place d.home) l)
    (hnot : d.find? (p.place d.home ++ l ++ [name]) ≠ some .directory) :
    d.ensureDirectory goal =
      if (d.find? (p.place d.home ++ l ++ [name])).isSome then
        .error (if rest.isEmpty then .exists else .notDirectory)
      else if rest.isEmpty && missing name == .notFound then
        .ok (d.insert (p.place d.home ++ l ++ [name]) .directory)
      else .error (missing name) :=
  (ensureDirectory_eq (hasDirectory_of_stops ht hg hnot)).trans (makeDirectory_of_stops ht hg h hlong hr hnot)

theorem ensureDirectory_of_isLong (ht : d.IsTree) {names : List String} {goal : Path}
    (hg : IsGoal p names goal) (h : d.Leads p) (hlong : goal.isLong = true) :
    d.ensureDirectory goal = .error .nameTooLong := by
  have hnot : d.hasDirectory goal = false := by
    rw [Bool.eq_false_iff, ne_eq, hasDirectory_iff ht.noLink]
    rintro ⟨-, haccepted⟩
    rw [haccepted.not_long] at hlong
    cases hlong
  rw [ensureDirectory_eq hnot, makeDirectory, make, hg.locateName_of_isLong h hlong]
  rfl

/-! ## The first missing name -/

section FirstMissing

variable {l : List String} {name : String} (h : d.Leads p) (hn : ∀ n ∈ l ++ [name], IsDiskName n)
  (hr : d.Reaches (p.place d.home) l)

include h hn hr

theorem isTree_insert (ht : d.IsTree) :
    (d.insert (p.place d.home ++ l ++ [name]) .directory).IsTree := by
  refine ht.insert ?_ (hn name (by simp)) (by simp) (fun _ => rfl)
  have hplace := ht.find?_follow h.place hr
  rwa [follow_names fun n hm => (hn n (List.mem_append_left _ hm)).toIsPlainName] at hplace

/-- The way **leads to** a directory made at the first missing name. -/
theorem leads_insert :
    (d.insert (p.place d.home ++ l ++ [name]) .directory).Leads (p.join ⟨l ++ [name]⟩) := by
  have hg : IsGoal p (l ++ [name]) (p.join ⟨l ++ [name]⟩) := ⟨by simp, hn, Or.inl rfl⟩
  have hne : p.place d.home ++ l ++ [name] ≠ [] := by simp
  have hkeep : ∀ q, d.find? q = some .directory →
      (d.insert (p.place d.home ++ l ++ [name]) .directory).find? q = some .directory := fun q hq => by
    rw [find?_insert _ _ _ _ hne]
    split
    · rfl
    · exact hq
  refine hg.leads ⟨h.noNull, fun q hq => hkeep q (h.onTrail q hq)⟩ ?_
  rw [home_insert, reaches_append]
  have hl : ∀ n ∈ l, IsPlainName n := fun n hm => hg.plain n (by simp [hm])
  have hname := hg.plain name (by simp)
  refine ⟨fun q hq => hkeep q (hr q hq), ?_⟩
  rw [follow_names hl, reaches_name hname.not_idle hname.ne_dots, find?_insert _ _ _ _ hne, if_pos rfl]
  exact ⟨rfl, fun q hq => by simp [passed] at hq⟩

end FirstMissing

theorem find?_insert_below (ht : d.IsTree) {q : Place} (hq : q ≠ []) (hf : d.find? q = none)
    {m : List String} (hm : m ≠ []) (e : Entry) : (d.insert q e).find? (q ++ m) = none := by
  rw [find?_insert _ _ _ _ hq, if_neg (by simpa using hm)]
  exact ht.find?_none hf (List.prefix_append q m)

theorem ensureDirectory_missing (ht : d.IsTree) (h : d.Leads p) {name : String} {goal : Path}
    (hg : IsGoal p [name] goal) (hlong : goal.isLong = false)
    (hf : d.find? (p.place d.home ++ [name]) = none) :
    d.ensureDirectory goal = if missing name = .notFound then
      .ok (d.insert (p.place d.home ++ [name]) .directory) else .error (missing name) := by
  have hstop := ensureDirectory_of_stops ht (show IsGoal p ([] ++ name :: []) goal from hg) h hlong
    (by simp [Reaches, passed]) (by simp [hf])
  simpa [hf] using hstop

/-! ## Making a directory and those above it -/

/-- The paths **on the way down** by names to a goal. -/
def downTo (goal : Path) (p : Path) : List String → List Path
  | [] => []
  | [_] => [goal]
  | name :: next :: rest => p.join ⟨[name]⟩ :: downTo goal (p.join ⟨[name]⟩) (next :: rest)

theorem downTo_concat (goal : Path) {names : List String} (hn : ∀ n ∈ names, IsPlainName n)
    (p : Path) (last : String) :
    downTo goal p (names ++ [last]) = downTo (p.join ⟨names⟩) p names ++ [goal] := by
  induction names generalizing p with
  | nil => rfl
  | cons first others ih =>
    have ho : ∀ n ∈ others, IsPlainName n := fun n hm => hn n (List.mem_cons_of_mem _ hm)
    have hfirst := hn first List.mem_cons_self
    cases others with
    | nil => rfl
    | cons next rest =>
      have := ih ho (p.join ⟨[first]⟩)
      rw [join_join (continues_single first) (by simpa using hfirst.ne_empty)
        (continues_names (by simp) ho)] at this
      simp only [List.cons_append, downTo, List.nil_append] at this ⊢
      rw [this]

theorem downTo_cons {name : String} {rest : List String} {goal : Path}
    (hg : IsGoal p (name :: rest) goal) :
    ∃ first, IsGoal p [name] first ∧ (goal.isLong = false → first.isLong = false) ∧
      downTo goal p (name :: rest) = first :: downTo goal (p.join ⟨[name]⟩) rest := by
  cases rest with
  | nil => exact ⟨goal, hg, id, rfl⟩
  | cons next rest =>
    have hg : IsGoal p ([name] ++ next :: rest) goal := hg
    exact ⟨p.join ⟨[name]⟩, hg.left (by simp), hg.isLong_left (by simp), rfl⟩

/-- From a directory **below which nothing is**, making the directories on the way down goes from the
top. -/
theorem makeEach_downTo : ∀ (names : List String) {d : Disk} {p goal : Path}, d.IsTree → d.Leads p →
    (names ≠ [] → IsGoal p names goal) → goal.isLong = false → (∀ m, m ≠ [] → d.find? (p.place d.home ++ m) = none) →
      d.makeEach (downTo goal p names) = pave d (p.place d.home) names
  | [], _, _, _, _, _, _, _, _ => rfl
  | name :: rest, d, p, goal, ht, hp, hg, hlong, hnone => by
    have hg : IsGoal p ([name] ++ rest) goal := hg (by simp)
    have hname : IsDiskName name := hg.name name (by simp)
    have hf := hnone [name] (by simp)
    obtain ⟨first, hfirst, hshort, hdown⟩ := @downTo_cons p name rest goal hg
    rw [hdown, makeEach, ensureDirectory_missing ht hp hfirst (hshort hlong) hf, pave, hf]
    rcases missing_cases name with hm | hm
    · have hreach : d.Reaches (p.place d.home) [] := by simp [Reaches, passed]
      have hnames : ∀ n ∈ [] ++ [name], IsDiskName n := by simpa using hname
      have ht' := isTree_insert hp hnames hreach ht
      have hleads := leads_insert hp hnames hreach
      rw [List.append_nil] at ht' hleads
      have hrest := makeEach_downTo rest ht' hleads (fun hne => hg.right (by simp) hne)
        hlong fun m hne => by
          rw [home_insert, List.nil_append, place_child _ hname.toIsPlainName]
          exact find?_insert_below ht (by simp) hf hne .directory
      rw [home_insert, List.nil_append, place_child _ hname.toIsPlainName] at hrest
      simpa only [hm, if_true] using hrest
    · simp only [hm]
      rfl

theorem ancestorsFrom_goal {names : List String} {last : String} {goal : Path} (hne : names ≠ [])
    (hg : IsGoal p (names ++ [last]) goal) (n : Nat) :
    ancestorsFrom (n + 1) goal = goal :: ancestorsFrom n (p.join ⟨names⟩) := by
  have hnames : ∀ m ∈ names, IsPlainName m := fun m hm => hg.plain m (by simp [hm])
  have hlast := hg.plain last (by simp)
  have hc := continues_names hne hnames
  have hstep : (p.join ⟨names⟩).EndsInStep := by
    obtain ⟨l, m, rfl⟩ := List.eq_nil_or_concat names |>.resolve_left hne
    rw [List.concat_eq_append] at hc hnames ⊢
    exact endsInStep_join hc (hnames m (by simp)).not_idle
  have hgoal : ∃ idle, (∀ s ∈ idle, isIdle s = true) ∧
      goal = ⟨(p.join ⟨names⟩).segments ++ ([] ++ last :: idle)⟩ := by
    rcases hg.goal_eq with rfl | rfl
    · exact ⟨[], by simp, join_append hc (continues_names (by simp) hg.plain)⟩
    · refine ⟨[""], by simp [isIdle], ?_⟩
      have hc' := (descends_slash hg.ne_nil hg.plain).toContinues
      rw [List.append_assoc] at hc' ⊢
      exact join_append hc hc'
  obtain ⟨idle, hidle, hgoal⟩ := hgoal
  rw [hgoal, ancestorsFrom_concat hstep (by simp) hlast.not_idle hidle, List.append_nil]

/-- Going up from a path that lacks a directory above it, to **the first name that is missing**. -/
theorem makeLowest_missing (ht : d.IsTree) (h : d.Leads p) {l : List String} {name : String}
    (hr : d.Reaches (p.place d.home) l) (hf : d.find? (p.place d.home ++ l ++ [name]) = none)
    (rest : List String) : ∀ (n : Nat) {goal : Path} (lacking : List Path),
      IsGoal p (l ++ name :: rest) goal →
      goal.isLong = false → missing name = .notFound → rest.length < n →
      d.makeLowest (ancestorsFrom n goal) lacking =
        .ok (d.insert (p.place d.home ++ l ++ [name]) .directory,
          downTo goal (p.join ⟨l ++ [name]⟩) rest ++ lacking) := by
  induction rest using List.reverseRecOn with
  | nil =>
    intro n goal lacking hg hlong hmiss hlen
    obtain ⟨n, rfl⟩ := Nat.exists_eq_add_of_lt hlen
    have hens := ensureDirectory_of_stops ht hg h hlong hr (by rw [hf]; simp)
    simp only [hf, Option.isSome_none, Bool.false_eq_true, if_false, List.isEmpty_nil, Bool.true_and,
      hmiss, beq_self_eq_true, if_true] at hens
    rw [ancestorsFrom, makeLowest, hg.isEmpty, hens]
    rfl
  | append_singleton rest last ih =>
    intro n goal lacking hg hlong hmiss hlen
    rw [List.length_append, List.length_singleton] at hlen
    obtain ⟨n, rfl⟩ : ∃ m, n = m + 1 := ⟨n - 1, by omega⟩
    have hens := ensureDirectory_of_stops ht hg h hlong hr (by rw [hf]; simp)
    have hnot : (rest ++ [last]).isEmpty = false := by simp
    simp only [hf, Option.isSome_none, Bool.false_eq_true, if_false, hnot, Bool.false_and, hmiss] at hens
    have hassoc : l ++ name :: (rest ++ [last]) = (l ++ name :: rest) ++ [last] := by simp
    rw [hassoc] at hg
    have hup := hg.left (by simp)
    rw [ancestorsFrom_goal (by simp) hg, makeLowest, hg.isEmpty, hens]
    simp only [Bool.false_eq_true, if_false]
    rw [ih n (goal :: lacking) hup (hg.isLong_left (by simp) hlong) hmiss (by omega),
      downTo_concat goal fun m hm => hup.plain m (by simp [hm]), List.append_assoc _ [goal],
      List.singleton_append]
    rw [List.append_cons] at hup
    by_cases hrest : rest = []
    · subst hrest
      rfl
    · rw [hup.join_right (by simp) hrest, ← List.append_cons]

theorem makeDirectories_of_error {names : List String} {goal : Path} (hg : IsGoal p names goal)
    {fault : Fault} (h : d.ensureDirectory goal = .error fault) (hfault : fault ≠ .notFound) :
    d.makeDirectories goal = (d, some fault) := by
  have hlow : d.makeLowest goal.ancestors [] = .error fault := by
    rw [ancestors, ancestorsFrom, makeLowest, hg.isEmpty, h]
    cases fault <;> first | rfl | exact absurd rfl hfault
  rw [makeDirectories, hlow]

/-- From **the first missing name** on, the directories are made from the top. -/
theorem makeDirectories_missing (ht : d.IsTree) (h : d.Leads p) {l : List String} {name : String}
    {rest : List String} {goal : Path} (hg : IsGoal p (l ++ [name] ++ rest) goal)
    (hr : d.Reaches (p.place d.home) l) (hf : d.find? (p.place d.home ++ l ++ [name]) = none)
    (hlong : goal.isLong = false) (hm : missing name = .notFound) :
    d.makeDirectories goal =
      pave (d.insert (p.place d.home ++ l ++ [name]) .directory)
        (p.place d.home ++ l ++ [name]) rest := by
  have hup := hg.left (by simp)
  have hplace : (p.join ⟨l ++ [name]⟩).place d.home = p.place d.home ++ l ++ [name] := by
    rw [hup.place_eq, List.append_assoc]
  have hlow : d.makeLowest goal.ancestors [] =
      .ok (d.insert (p.place d.home ++ l ++ [name]) .directory,
        downTo goal (p.join ⟨l ++ [name]⟩) rest ++ []) := by
    have hlen := hg.length_le
    rw [List.length_append, List.length_append, List.length_singleton] at hlen
    rw [← List.append_cons] at hg
    exact makeLowest_missing ht h hr hf rest _ [] hg hlong hm (by omega)
  have hdown := makeEach_downTo rest (isTree_insert h hup.name hr ht) (leads_insert h hup.name hr)
    (fun hne => hg.right (by simp) hne) hlong fun m hne => by
      rw [home_insert, hplace]
      exact find?_insert_below ht (by simp) hf hne .directory
  rw [home_insert, hplace] at hdown
  rw [makeDirectories, hlow, List.append_nil]
  exact hdown

/-- **Making a directory and those above it** is going down from the top, unless the path is too long. -/
theorem makeDirectories_join (ht : d.IsTree) (h : d.Leads p) {names : List String} {goal : Path}
    (hg : IsGoal p names goal) :
    d.makeDirectories goal = if goal.isLong then (d, some .nameTooLong) else pave d (p.place d.home) names := by
  cases hlong : goal.isLong with
  | true => exact makeDirectories_of_error hg (ensureDirectory_of_isLong ht hg h hlong) (by simp)
  | false =>
    rw [if_neg Bool.false_ne_true]
    rcases reaches_or_stops d (p.place d.home) hg.plain with hr | ⟨l, name, rest, rfl, hr, hnot⟩
    · have hpave := pave_of_reaches hg.plain hr []
      rw [List.append_nil] at hpave
      rw [hpave, makeDirectories, ancestors, ancestorsFrom, makeLowest, hg.isEmpty,
        ensureDirectory_of_reaches hg h hlong hr]
      rfl
    · have hl : ∀ n ∈ l, IsPlainName n := fun n hm => hg.plain n (by simp [hm])
      have hens := ensureDirectory_of_stops ht hg h hlong hr hnot
      rw [pave_of_reaches hl hr, pave]
      cases hf : d.find? (p.place d.home ++ l ++ [name]) with
      | some e =>
        simp only [hf, Option.isSome_some, if_true] at hens
        rw [makeDirectories_of_error hg hens (by split <;> simp)]
        cases e with
        | directory => exact absurd hf hnot
        | file content => rfl
        | link target => rfl
      | none =>
        simp only [hf, Option.isSome_none, Bool.false_eq_true, if_false] at hens
        rcases missing_cases name with hm | hm
        · simp only
          rw [if_pos hm]
          rw [List.append_cons] at hg
          exact makeDirectories_missing ht h hg hr hf hlong hm
        · rw [hm, if_neg (by simp)] at hens
          rw [makeDirectories_of_error hg hens (by simp)]
          simp only [hm]
          rfl

/-! ## What is made -/

/-- How a disk **grows** by directories at certain places. -/
structure Grows (T : Place → Prop) (d d' : Disk) : Prop where
  home : d'.home = d.home
  find? : ∀ q, d'.find? q = d.find? q ∨ (T q ∧ d.find? q = none ∧ d'.find? q = some .directory)

namespace Grows

variable {S T : Place → Prop} {d₃ : Disk}

theorem refl (T : Place → Prop) (d : Disk) : Grows T d d := ⟨rfl, fun _ => Or.inl rfl⟩

theorem trans (h : Grows T d₁ d₂) (h' : Grows T d₂ d₃) : Grows T d₁ d₃ := by
  refine ⟨h'.home.trans h.home, fun q => ?_⟩
  rcases h.find? q with h₁ | ⟨hT, h₁, h₂⟩
  · rcases h'.find? q with h₃ | ⟨hT, h₃, h₄⟩
    · exact Or.inl (h₃.trans h₁)
    · exact Or.inr ⟨hT, h₁ ▸ h₃, h₄⟩
  · rcases h'.find? q with h₃ | ⟨-, h₃, -⟩
    · exact Or.inr ⟨hT, h₁, h₃.trans h₂⟩
    · rw [h₂] at h₃
      cases h₃

theorem mono (h : Grows S d d') (hST : ∀ q, S q → T q) : Grows T d d' :=
  ⟨h.home, fun q => (h.find? q).imp_right fun ⟨hq, h'⟩ => ⟨hST q hq, h'⟩⟩

theorem keeps (h : Grows T d₁ d₂) {q : Place} {e : Entry} (hq : d₁.find? q = some e) :
    d₂.find? q = some e := by
  rcases h.find? q with h' | ⟨-, h', -⟩
  · rw [h', hq]
  · rw [hq] at h'
    cases h'

theorem leads (h : Grows T d₁ d₂) {p : Path} (hp : d₁.Leads p) : d₂.Leads p :=
  ⟨hp.noNull, fun q hq => h.keeps (hp.onTrail q (h.home ▸ hq))⟩

end Grows

/-- The places that names go down to, at which something new may be made. -/
def Onward (place : Place) (names : List String) (q : Place) : Prop :=
  ∃ m, m ≠ [] ∧ m <+: names ∧ q = place ++ m ∧ missing (m.getLast?.getD "") = .notFound

/-- What **comes of going down** by names: only directories on the way are added, and if no fault stops
it all of them are there. -/
structure Paved (place : Place) (names : List String) (d : Disk)
    (out : Disk × Option Fault) : Prop where
  tree : out.1.IsTree
  grows : Grows (Onward place names) d out.1
  all : out.2 = none → ∀ m, m <+: names → out.1.find? (place ++ m) = some .directory

section Paved

variable {place : Place} {name : String} {rest : List String}

theorem Onward.further {q : Place} (h : Onward (place ++ [name]) rest q) :
    Onward place (name :: rest) q := by
  obtain ⟨m, hne, hm, rfl, hmiss⟩ := h
  refine ⟨name :: m, by simp, by simpa using hm, by simp, ?_⟩
  rwa [← List.singleton_append, List.getLast?_append_of_ne_nil _ hne]

theorem grows_insert (hmiss : missing name = .notFound) (hf : d.find? (place ++ [name]) = none)
    (rest : List String) :
    Grows (Onward place (name :: rest)) d (d.insert (place ++ [name]) .directory) := by
  refine ⟨rfl, fun q => ?_⟩
  rw [find?_insert _ _ _ _ (concat_ne_nil place name)]
  split
  · next hq =>
    subst hq
    exact Or.inr ⟨⟨[name], by simp, by simp, rfl, hmiss⟩, hf, rfl⟩
  · exact Or.inl rfl

theorem Paved.stop (ht : d.IsTree) (fault : Fault) : Paved place rest d (d, some fault) :=
  ⟨ht, Grows.refl _ d, fun h => by cases h⟩

theorem Paved.further {out : Disk × Option Fault} (h : Paved (place ++ [name]) rest d out)
    (hplace : d.find? place = some .directory) : Paved place (name :: rest) d out := by
  refine ⟨h.tree, h.grows.mono fun _ hq => hq.further, fun hnone m hm => ?_⟩
  rcases m with _ | ⟨first, others⟩
  · rw [List.append_nil]
    exact h.grows.keeps hplace
  · obtain ⟨rfl, ho⟩ := List.cons_prefix_cons.mp hm
    have hall := h.all hnone others ho
    rwa [List.append_assoc, List.singleton_append] at hall

end Paved

/-- Going down adds **only directories on the way**, and if it succeeds all of them are there. -/
theorem pave_grows : ∀ (names : List String) {d : Disk} {place : Place}, d.IsTree →
    d.find? place = some .directory → (∀ n ∈ names, IsDiskName n) →
      Paved place names d (pave d place names)
  | [], d, place, ht, hplace, _ => by
    refine ⟨ht, Grows.refl _ d, fun _ m hm => ?_⟩
    rw [List.prefix_nil.mp hm, List.append_nil]
    exact hplace
  | name :: rest, d, place, ht, hplace, hn => by
    have hrest : ∀ n ∈ rest, IsDiskName n := fun n hm => hn n (List.mem_cons_of_mem _ hm)
    rw [pave]
    cases hf : d.find? (place ++ [name]) with
    | some e =>
      cases e with
      | directory => exact (pave_grows rest ht hf hrest).further hplace
      | file content => exact Paved.stop ht _
      | link target => exact absurd hf (ht.noLink _ _)
    | none =>
      simp only
      split
      · next hmiss =>
        have hgrow := grows_insert hmiss hf rest
        have ht' := ht.insert hplace (hn name List.mem_cons_self) (by simp) (fun _ => rfl)
        have hname : (d.insert (place ++ [name]) .directory).find? (place ++ [name]) = some .directory := by
          rw [find?_insert _ _ _ _ (concat_ne_nil place name), if_pos rfl]
        have hdown := (pave_grows rest ht' hname hrest).further (hgrow.keeps hplace)
        exact ⟨hdown.tree, hgrow.trans hdown.grows, hdown.all⟩
      · exact Paved.stop ht _

/-- Going down **succeeds** where there are only directories on the way, or nothing and the name is not
too long. -/
theorem pave_eq_none : ∀ {names : List String} {d : Disk} {place : Place},
    (∀ m name, m ++ [name] <+: names → d.find? (place ++ m ++ [name]) = some .directory ∨
      d.find? (place ++ m ++ [name]) = none ∧ missing name = .notFound) →
      (pave d place names).2 = none
  | [], _, _, _ => rfl
  | name :: rest, d, place, h => by
    have hrest : ∀ m next, m ++ [next] <+: rest →
        d.find? (place ++ [name] ++ m ++ [next]) = some .directory ∨
          d.find? (place ++ [name] ++ m ++ [next]) = none ∧ missing next = .notFound :=
      fun m next hm => by simpa using h (name :: m) next (by simpa using hm)
    have hfirst := h [] name (by simp)
    rw [List.append_nil] at hfirst
    rw [pave]
    rcases hfirst with hdir | ⟨hnone, hmiss⟩
    · rw [hdir]
      exact pave_eq_none hrest
    · simp only [hnone, hmiss, if_true]
      refine pave_eq_none fun m next hm => ?_
      rw [find?_insert _ _ _ _ (concat_ne_nil place name), if_neg (by simp)]
      exact hrest m next hm

/-- Going down does **the same on two disks** that are the same on the way. -/
theorem pave_congr {R : Place → Prop} : ∀ (names : List String) {d₁ d₂ : Disk}
    {place : Place}, SameOn R d₁ d₂ → (∀ m, m ≠ [] → m <+: names → R (place ++ m)) →
      SameOn R (pave d₁ place names).1 (pave d₂ place names).1 ∧
        (pave d₁ place names).2 = (pave d₂ place names).2
  | [], _, _, _, h, _ => ⟨h, rfl⟩
  | name :: rest, d₁, d₂, place, h, hR => by
    have hrest : ∀ m, m ≠ [] → m <+: rest → R (place ++ [name] ++ m) := fun m _ hm => by
      rw [List.append_assoc, List.singleton_append]
      exact hR (name :: m) (by simp) (by simpa using hm)
    rw [pave, pave, ← h.find? _ (hR [name] (by simp) (by simp))]
    cases d₁.find? (place ++ [name]) with
    | some e =>
      cases e with
      | directory => exact pave_congr rest h hrest
      | file content => exact ⟨h, rfl⟩
      | link target => exact ⟨h, rfl⟩
    | none =>
      simp only
      split
      · exact pave_congr rest (h.insert _ _) hrest
      · exact ⟨h, rfl⟩

/-! ## Paths that are too long -/

/-- Nothing is made at a path that is **too long**. -/
theorem makeDirectories_of_isLong (hlong : p.isLong = true) :
    ∃ fault, ∀ d : Disk, d.makeDirectories p = (d, some fault) := by
  have hne : p.isEmpty = false := by
    rw [← Bool.not_eq_true]
    intro hempty
    rcases (by simpa [isEmpty] using hempty : p.segments = [""] ∨ p.segments = []) with hp | hp
    all_goals
      rw [show p = ⟨_⟩ from congrArg Path.mk hp] at hlong
      revert hlong
      decide +kernel
  obtain ⟨fault, haccept, hfault⟩ : ∃ fault, p.accept = .error fault ∧ (fault = .nulInPath ∨ fault = .nameTooLong) := by
    unfold accept
    rw [hne, hlong]
    split
    · exact ⟨_, rfl, Or.inl rfl⟩
    · exact ⟨_, rfl, Or.inr rfl⟩
  refine ⟨fault, fun d => ?_⟩
  have hmake : d.makeDirectory p = .error fault := by
    unfold makeDirectory make locateName
    rw [haccept]
    rfl
  have hensure : d.ensureDirectory p = .error fault := by
    unfold ensureDirectory
    rw [hmake]
    rcases hfault with rfl | rfl <;> rfl
  unfold makeDirectories ancestors ancestorsFrom makeLowest
  rw [hne, if_neg (by simp), hensure]
  rcases hfault with rfl | rfl <;> rfl

theorem not_long_of_makeDirectories (h : (d.makeDirectories p).2 = none) : p.isLong = false := by
  rw [← Bool.not_eq_true]
  intro hlong
  obtain ⟨fault, hmake⟩ := makeDirectories_of_isLong hlong
  rw [hmake] at h
  cases h

/-- A path of dots, which **leads nowhere else**. -/
def dots (n : Nat) : Path := ⟨List.replicate n "."⟩

variable {n : Nat}

theorem start_dots : (dots n).start [] = [] := by
  rw [start]
  split <;> rfl

theorem place_dots : (dots n).place [] = [] := by
  rw [place, start_dots, dots, follow_idle (by simp [isIdle])]

theorem noNull_dots : '\x00' ∉ (dots n).text.toList := fun hnull => by
  obtain ⟨s, hs, hsnull⟩ := mem_text_null.mp hnull
  simp [(List.mem_replicate.mp hs).2] at hsnull

theorem leads_dots (hhome : d.home = []) : d.Leads (dots n) := by
  refine ⟨noNull_dots, fun q hq => ?_⟩
  rw [hhome, trail, place_dots, start_dots, dots, passed_idle (by simp [isIdle])] at hq
  rw [List.mem_singleton.mp hq, find?_nil]

theorem accepted_dots (h : 2 * n + 1 ≤ pathLimit) : (dots (n + 1)).Accepted := by
  have hsize : (Path.mk ["."]).text.utf8ByteSize = 1 := by decide +kernel
  refine ⟨noNull_dots, by cases n <;> simp [isEmpty, dots, List.replicate_succ], decide_eq_false ?_⟩
  rw [dots, List.replicate_succ', size_text_dots, hsize]
  exact h.not_gt

theorem join_dots (l : List String) (hl : Continues ⟨l⟩) : (dots n).join ⟨l⟩ = ⟨List.replicate n "." ++ l⟩ := by
  refine congrArg Path.mk (segments_join_of_ne hl ?_)
  rw [dots, List.getLast?_replicate]
  split <;> simp

theorem isLong_dots {a : String} {l : List String} (hl : Continues ⟨a :: l⟩) :
    ((dots n).join ⟨a :: l⟩).isLong = decide (pathLimit < 2 * n + (Path.mk (a :: l)).text.utf8ByteSize) := by
  rw [isLong, join_dots _ hl, size_text_dots]

end Disk

end SiteGen
