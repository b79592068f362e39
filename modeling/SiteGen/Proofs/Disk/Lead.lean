import SiteGen.Proofs.Disk.Tree
import SiteGen.Proofs.Path.Parent

/-!
# Where paths lead

On a tree, a path **leads** to a directory if there are directories on all of its trail. What a path
finds depends on its trail alone.

* `Disk.Leads`, and `Leads.child`: a path that leads somewhere leads on to the directories there.
* `Disk.resolve_cases`: a path is followed either along directories only, or to a last name in one.
* `Path.Accepted`, `Disk.locate_eq_ok`: when a path has a place at all.
* `Disk.lookFor_cases`, `Disk.lookFor_child`: what a path finds.
* `Disk.SameOn`, `Disk.locate_congr`, `Disk.lookFor_congr`: disks with the same on a trail are the same
  for the path.
-/

namespace SiteGen

namespace Path

theorem mem_text_null {p : Path} : '\x00' ∈ p.text.toList ↔ ∃ s ∈ p.segments, '\x00' ∈ s.toList := by
  unfold text
  induction p.segments with
  | nil => simp
  | cons s rest ih =>
    cases rest with
    | nil => simp
    | cons t rest =>
      rw [String.intercalate_cons_cons, String.toList_append, String.toList_append, List.mem_append,
        List.mem_append, ih]
      simp

/-- What it takes for a path to be **accepted**. -/
structure Accepted (p : Path) : Prop where
  noNull : '\x00' ∉ p.text.toList
  not_empty : p.isEmpty = false
  not_long : p.isLong = false

theorem accept_eq_ok {p : Path} : p.accept = .ok () ↔ p.Accepted := by
  unfold accept
  constructor
  · intro h
    split at h
    · cases h
    · next hnull =>
      split at h
      · cases h
      · next hempty =>
        split at h
        · cases h
        · next hlong => exact ⟨by simpa using hnull, by simpa using hempty, by simpa using hlong⟩
  · intro h
    rw [if_neg (by simpa using h.noNull), h.not_empty, if_neg Bool.false_ne_true, h.not_long,
      if_neg Bool.false_ne_true]

theorem accept_of_isLong {p : Path} (hnull : '\x00' ∉ p.text.toList) (hne : p.isEmpty = false)
    (h : p.isLong = true) : p.accept = .error .nameTooLong := by
  unfold accept
  rw [if_neg (by simpa using hnull), hne, if_neg Bool.false_ne_true, h, if_pos rfl]

theorem text_join_null {p : Path} {names : List String} (hq : Continues ⟨names⟩) :
    '\x00' ∈ (p.join ⟨names⟩).text.toList ↔
      '\x00' ∈ p.text.toList ∨ ∃ s ∈ names, '\x00' ∈ s.toList := by
  obtain ⟨l, hl, hp⟩ := segments_join (p := p) hq
  rw [mem_text_null, mem_text_null, hl]
  rcases hp with hp | hp <;> simp [hp, or_and_right, exists_or]

end Path

namespace Disk

open SiteGen.Path

variable {d d₁ d₂ : Disk} {purpose : Purpose} {links : Nat}

/-! ## Following segments -/

/-- Whether there are **no links**. -/
def Linkless (d : Disk) : Prop := ∀ q target, d.find? q ≠ some (.link target)

/-- Whether all places that segments go down to are directories. -/
def Reaches (d : Disk) (place : Place) (segments : List String) : Prop :=
  ∀ q ∈ passed place segments, d.find? q = some .directory

theorem reaches_idle {place : Place} {segment : String} {rest : List String}
    (h : isIdle segment = true) : d.Reaches place (segment :: rest) ↔ d.Reaches place rest := by
  rw [Reaches, passed, if_pos h, Reaches]

theorem reaches_up {place : Place} {rest : List String} :
    d.Reaches place (".." :: rest) ↔ d.Reaches place.dropLast rest := by
  rw [Reaches, passed, if_neg (by decide), if_pos rfl, Reaches]

theorem reaches_name {place : Place} {segment : String} {rest : List String}
    (h : isIdle segment = false) (hup : segment ≠ "..") :
    d.Reaches place (segment :: rest) ↔
      d.find? (place ++ [segment]) = some .directory ∧ d.Reaches (place ++ [segment]) rest := by
  rw [Reaches, passed, if_neg (by simp [h]), if_neg hup, Reaches]
  simp

theorem reaches_append {place : Place} {l m : List String} :
    d.Reaches place (l ++ m) ↔ d.Reaches place l ∧ d.Reaches (follow place l) m := by
  simp only [Reaches, passed_append, List.mem_append, or_imp, forall_and]

theorem resolve_append {place : Place} {l : List String} (h : d.Reaches place l) (m : List String) :
    d.resolve purpose links place (l ++ m) =
      d.resolve purpose links (follow place l) m := by
  induction l generalizing place with
  | nil => rfl
  | cons segment rest ih =>
    rw [List.cons_append, resolve_cons]
    by_cases hi : isIdle segment = true
    · rw [if_pos hi, follow_idle_cons hi]
      exact ih ((reaches_idle hi).mp h)
    · rw [if_neg hi]
      by_cases hd : segment = ".."
      · subst hd
        rw [if_pos rfl, follow_up]
        exact ih (reaches_up.mp h)
      · have hi' : isIdle segment = false := by simpa using hi
        obtain ⟨hnext, hrest⟩ := (reaches_name hi' hd).mp h
        rw [if_neg hd, follow_name hi' hd]
        simp only [hnext]
        exact ih hrest

theorem IsTree.find?_dropLast (ht : d.IsTree) {place : Place}
    (h : d.find? place = some .directory) : d.find? place.dropLast = some .directory := by
  rcases List.eq_nil_or_concat place with rfl | ⟨l, name, rfl⟩
  · exact h
  · rw [List.concat_eq_append, List.dropLast_concat]
    rw [List.concat_eq_append] at h
    exact ht.parent l name (by rw [h]; rfl)

/-- How segments can be followed from a directory: along directories only, or to a last name in the
last of these directories. -/
theorem resolve_cases (ht : d.IsTree) {place : Place} {segments : List String} {q : Place}
    (hplace : d.find? place = some .directory)
    (h : d.resolve purpose links place segments = .ok q) :
    (d.Reaches place segments ∧ q = follow place segments ∧ d.find? q = some .directory) ∨
      ∃ l name, segments = l ++ [name] ∧ isIdle name = false ∧ name ≠ ".." ∧ d.Reaches place l ∧
        d.find? (follow place l) = some .directory ∧ q = follow place l ++ [name] ∧
        d.find? q ≠ some .directory := by
  induction segments generalizing place with
  | nil =>
    rw [resolve_nil] at h
    obtain rfl := Except.ok.inj h
    exact Or.inl ⟨fun _ hq => by simp [passed] at hq, rfl, hplace⟩
  | cons segment rest ih =>
    rw [resolve_cons] at h
    by_cases hi : isIdle segment = true
    · rw [if_pos hi] at h
      rw [reaches_idle hi, follow_idle_cons hi]
      rcases ih hplace h with hl | ⟨l, name, rfl, hn, hd, hr, hq⟩
      · exact Or.inl hl
      · exact Or.inr ⟨segment :: l, name, rfl, hn, hd, (reaches_idle hi).mpr hr,
          by rwa [follow_idle_cons hi]⟩
    rw [if_neg hi] at h
    by_cases hd : segment = ".."
    · subst hd
      rw [if_pos rfl] at h
      rw [reaches_up, follow_up]
      rcases ih (ht.find?_dropLast hplace) h with hl | ⟨l, name, rfl, hn, hnd, hr, hq⟩
      · exact Or.inl hl
      · exact Or.inr ⟨".." :: l, name, rfl, hn, hnd, reaches_up.mpr hr, by rwa [follow_up]⟩
    rw [if_neg hd] at h
    have hi' : isIdle segment = false := by simpa using hi
    -- a name: a directory is gone into, anything else must come last
    have last : ∀ (_ : rest = []) (_ : q = place ++ [segment]) (_ : d.find? q ≠ some .directory),
        ∃ l name, segment :: rest = l ++ [name] ∧ isIdle name = false ∧ name ≠ ".." ∧
          d.Reaches place l ∧ d.find? (follow place l) = some .directory ∧
          q = follow place l ++ [name] ∧ d.find? q ≠ some .directory := fun hrest hq hnot =>
      ⟨[], segment, by rw [hrest]; rfl, hi', hd, fun _ hm => by simp [passed] at hm, hplace, hq, hnot⟩
    cases hf : d.find? (place ++ [segment]) with
    | none =>
      simp only [hf] at h
      split at h
      · next hc =>
        obtain rfl := Except.ok.inj h
        simp only [Bool.and_eq_true, List.isEmpty_iff] at hc
        exact Or.inr (last hc.1 rfl (by rw [hf]; simp))
      · split at h <;> cases h
    | some e =>
      cases e with
      | directory =>
        simp only [hf] at h
        rw [reaches_name hi' hd, follow_name hi' hd]
        rcases ih hf h with ⟨hr, hq⟩ | ⟨l, name, rfl, hn, hnd, hr, hq⟩
        · exact Or.inl ⟨⟨hf, hr⟩, hq⟩
        · exact Or.inr ⟨segment :: l, name, rfl, hn, hnd, (reaches_name hi' hd).mpr ⟨hf, hr⟩,
            by rwa [follow_name hi' hd]⟩
      | file content =>
        simp only [hf] at h
        split at h
        · next hc =>
          obtain rfl := Except.ok.inj h
          exact Or.inr (last (List.isEmpty_iff.mp hc) rfl (by rw [hf]; simp))
        · split at h <;> cases h
      | link target => exact absurd hf (ht.noLink _ _)

theorem resolve_congr (h₁ : d₁.Linkless) {place : Place} {segments : List String}
    (h : ∀ q ∈ passed place segments, d₁.find? q = d₂.find? q) :
    d₁.resolve purpose links place segments = d₂.resolve purpose links place segments := by
  induction segments generalizing place with
  | nil => rw [resolve_nil, resolve_nil]
  | cons segment rest ih =>
    rw [resolve_cons, resolve_cons]
    unfold passed at h
    split
    · next hi =>
      rw [if_pos hi] at h
      exact ih h
    · next hi =>
      rw [if_neg hi] at h
      split
      · next hd =>
        rw [if_pos hd] at h
        exact ih h
      · next hd =>
        rw [if_neg hd] at h
        have hnext := h (place ++ [segment]) List.mem_cons_self
        simp only [← hnext]
        cases hf : d₁.find? (place ++ [segment]) with
        | none => rfl
        | some e =>
          cases e with
          | directory => exact ih fun q hq => h q (List.mem_cons_of_mem _ hq)
          | file content => rfl
          | link target => exact absurd hf (h₁ _ _)

/-! ## Following paths -/

/-- Where a path **leads** to a directory: there are directories on all of its trail. -/
structure Leads (d : Disk) (p : Path) : Prop where
  noNull : '\x00' ∉ p.text.toList
  onTrail : ∀ q ∈ p.trail d.home, d.find? q = some .directory

instance (d : Disk) (p : Path) : Decidable (d.Leads p) :=
  decidable_of_iff ('\x00' ∉ p.text.toList ∧ ∀ q ∈ p.trail d.home, d.find? q = some .directory)
    ⟨fun h => ⟨h.1, h.2⟩, fun h => ⟨h.noNull, h.onTrail⟩⟩

/-- Where a path **ends in a name** in a directory to which the rest of it leads. -/
structure EndsIn (d : Disk) (p : Path) (above : Place) (name : String) : Prop where
  concat : ∃ l, p.segments = l ++ [name] ∧ d.Reaches (p.start d.home) l ∧
    follow (p.start d.home) l = above
  not_idle : isIdle name = false
  ne_dots : name ≠ ".."
  noNull : '\x00' ∉ name.toList
  directory : d.find? above = some .directory

/-- Where a path is **grounded**: some beginning of it leads to a directory. -/
def Grounded (d : Disk) (p : Path) : Prop :=
  ∃ l m, p.segments = l ++ m ∧ d.Reaches (p.start d.home) l ∧
    d.find? (follow (p.start d.home) l) = some .directory

namespace Leads

variable {p : Path}

theorem place (h : d.Leads p) : d.find? (p.place d.home) = some .directory :=
  h.onTrail _ List.mem_cons_self

theorem reaches (h : d.Leads p) : d.Reaches (p.start d.home) p.segments :=
  fun q hq => h.onTrail q (List.mem_cons_of_mem _ hq)

theorem join (h : d.Leads p) {q : Path} (hq : Continues q) :
    ∃ l, (p.join q).segments = l ++ q.segments ∧ d.Reaches ((p.join q).start d.home) l ∧
      follow ((p.join q).start d.home) l = p.place d.home := by
  obtain ⟨l, hl, hp⟩ := segments_join (p := p) hq
  have hr := h.reaches
  rw [start_join _ hq]
  refine ⟨l, hl, ?_⟩
  rcases hp with hp | hp
  · exact ⟨by rwa [hp] at hr, by rw [Path.place, hp]⟩
  · rw [hp, reaches_append] at hr
    refine ⟨hr.1, ?_⟩
    rw [Path.place, hp, follow_append, follow_idle (l := [""]) (by simp [isIdle])]

theorem grounded_join (h : d.Leads p) {q : Path} (hq : Continues q) : d.Grounded (p.join q) := by
  obtain ⟨l, hl, hr, hplace⟩ := h.join hq
  exact ⟨l, q.segments, hl, hr, by rw [hplace]; exact h.place⟩

end Leads

theorem Grounded.mono {d' : Disk} (hhome : d'.home = d.home)
    (h : ∀ q, d.find? q = some .directory → d'.find? q = some .directory) {p : Path}
    (hp : d.Grounded p) : d'.Grounded p := by
  obtain ⟨l, m, hs, hr, hd⟩ := hp
  refine ⟨l, m, hs, ?_, ?_⟩
  · rw [hhome]
    exact fun q hq => h q (hr q hq)
  · rw [hhome]
    exact h _ hd

theorem IsTree.find?_follow (ht : d.IsTree) {place : Place} {l : List String}
    (hplace : d.find? place = some .directory) (h : d.Reaches place l) :
    d.find? (follow place l) = some .directory := by
  induction l generalizing place with
  | nil => exact hplace
  | cons segment rest ih =>
    by_cases hi : isIdle segment = true
    · rw [follow_idle_cons hi]
      exact ih hplace ((reaches_idle hi).mp h)
    · by_cases hd : segment = ".."
      · subst hd
        rw [follow_up]
        exact ih (ht.find?_dropLast hplace) (reaches_up.mp h)
      · have hi' : isIdle segment = false := by simpa using hi
        obtain ⟨hnext, hrest⟩ := (reaches_name hi' hd).mp h
        rw [follow_name hi' hd]
        exact ih hnext hrest

/-- A path that leads to a directory **leads on** to the directories in it. -/
theorem Leads.child {p : Path} (h : d.Leads p) {name : String} (hn : IsDiskName name)
    (hd : d.find? (p.place d.home ++ [name]) = some .directory) : d.Leads (p.join ⟨[name]⟩) := by
  refine ⟨?_, fun q hq => ?_⟩
  · rw [text_join_null (continues_single name), not_or]
    exact ⟨h.noNull, by simpa using hn.no_null⟩
  · rcases mem_trail_child _ hn.toIsPlainName hq with hq | rfl
    · exact h.onTrail q hq
    · exact hd

theorem Leads.of_join (ht : d.IsTree) {p q : Path} (hq : Descends q) (h : d.Leads (p.join q)) :
    d.Leads p := by
  obtain ⟨names⟩ := q
  refine ⟨fun hp => h.noNull ((text_join_null hq.toContinues).mpr (Or.inl hp)), fun r hr => ?_⟩
  rcases List.mem_cons.mp hr with rfl | hr
  · have hplace := h.place
    rw [place_down _ hq] at hplace
    by_cases heq : p.place d.home = p.place d.home ++ (Path.mk names).steps
    · rw [heq]
      exact hplace
    · exact ht.find?_prefix (by rw [hplace]; rfl) (List.prefix_append _ _) heq
  · refine h.onTrail r (List.mem_cons_of_mem _ ?_)
    rw [passed_join _ hq.toContinues]
    exact List.mem_append_left _ hr

theorem Leads.of_child (ht : d.IsTree) {p : Path} {name : String} (hn : IsPlainName name)
    (h : d.Leads (p.join ⟨[name]⟩)) : d.Leads p := h.of_join ht (descends_single hn)

namespace EndsIn

variable {p : Path} {above : Place} {name : String}

theorem place_eq (h : d.EndsIn p above name) : p.place d.home = above ++ [name] := by
  obtain ⟨l, hl, -, rfl⟩ := h.concat
  rw [Path.place, hl, follow_append, follow_name h.not_idle h.ne_dots]
  rfl

theorem mem_trail (h : d.EndsIn p above name) : above ++ [name] ∈ p.trail d.home := by
  rw [← h.place_eq]
  exact List.mem_cons_self

theorem isDiskName (h : d.EndsIn p above name) (hs : '/' ∉ name.toList) : IsDiskName name where
  ne_empty := by
    rintro rfl
    exact absurd h.not_idle (by decide)
  ne_dot := by
    rintro rfl
    exact absurd h.not_idle (by decide)
  ne_dots := h.ne_dots
  no_slash := hs
  no_null := h.noNull

theorem trail_cases (h : d.EndsIn p above name) {q : Place} (hq : q ∈ p.trail d.home) :
    d.find? q = some .directory ∨ q = above ++ [name] := by
  have hplace := h.place_eq
  obtain ⟨l, hl, hr, rfl⟩ := h.concat
  rcases List.mem_cons.mp hq with rfl | hq
  · exact Or.inr hplace
  · rw [hl, passed_append, List.mem_append] at hq
    rcases hq with hq | hq
    · exact Or.inl (hr q hq)
    · simp only [passed, h.not_idle, h.ne_dots, if_false, List.mem_singleton, Bool.false_eq_true] at hq
      exact Or.inr hq

end EndsIn

theorem locate_of_accepted {p : Path} (h : p.Accepted) :
    d.locate purpose p = d.resolve purpose linkLimit (p.start d.home) p.segments := by
  unfold locate
  rw [accept_eq_ok.mpr h]
  rfl

theorem locate_of_refused {p : Path} {fault : Fault} (h : p.accept = .error fault) :
    d.locate purpose p = .error fault := by
  unfold locate
  rw [h]
  rfl

/-- When a path **has a place**. -/
theorem locate_eq_ok {p : Path} {q : Place} : d.locate purpose p = .ok q ↔
    p.Accepted ∧ d.resolve purpose linkLimit (p.start d.home) p.segments = .ok q := by
  cases ha : p.accept with
  | error fault =>
    rw [locate_of_refused ha]
    refine ⟨nofun, fun h => ?_⟩
    rw [accept_eq_ok.mpr h.1] at ha
    cases ha
  | ok u =>
    have haccepted := accept_eq_ok.mp ha
    rw [locate_of_accepted haccepted]
    exact ⟨fun h => ⟨haccepted, h⟩, And.right⟩

theorem accepted_of_locate {p : Path} {q : Place} (h : d.locate purpose p = .ok q) : p.Accepted :=
  (locate_eq_ok.mp h).1

theorem place_of_resolve (hd : d.Linkless) {place q : Place}
    {segments : List String} (h : d.resolve purpose links place segments = .ok q) :
    q = follow place segments := by
  induction segments generalizing place with
  | nil =>
    rw [resolve_nil] at h
    exact (Except.ok.inj h).symm
  | cons segment rest ih =>
    rw [resolve_cons] at h
    by_cases hi : isIdle segment = true
    · rw [if_pos hi] at h
      rw [follow_idle_cons hi]
      exact ih h
    rw [if_neg hi] at h
    by_cases hup : segment = ".."
    · subst hup
      rw [if_pos rfl] at h
      rw [follow_up]
      exact ih h
    rw [if_neg hup] at h
    rw [follow_name (by simpa using hi) hup]
    cases hf : d.find? (place ++ [segment]) with
    | none =>
      simp only [hf] at h
      split at h
      · next hc =>
        simp only [Bool.and_eq_true, List.isEmpty_iff] at hc
        rw [hc.1]
        exact (Except.ok.inj h).symm
      · split at h <;> cases h
    | some e =>
      cases e with
      | directory =>
        simp only [hf] at h
        exact ih h
      | file content =>
        simp only [hf] at h
        split at h
        · next hc =>
          rw [List.isEmpty_iff.mp hc]
          exact (Except.ok.inj h).symm
        · split at h <;> cases h
      | link target => exact absurd hf (hd _ _)

theorem passed_of_resolve (hd : d.Linkless) {place q : Place} {segments : List String}
    (h : d.resolve purpose links place segments = .ok q) :
    ∀ x ∈ passed place segments, x = q ∨ d.find? x = some .directory := by
  induction segments generalizing place with
  | nil => simp [passed]
  | cons segment rest ih =>
    intro x hx
    rw [resolve_cons] at h
    rw [passed] at hx
    by_cases hi : isIdle segment = true
    · rw [if_pos hi] at h hx
      exact ih h x hx
    rw [if_neg hi] at h hx
    by_cases hup : segment = ".."
    · rw [if_pos hup] at h hx
      exact ih h x hx
    rw [if_neg hup] at h hx
    have last : rest = [] → q = place ++ [segment] → x = q := by
      rintro rfl rfl
      simpa [passed] using hx
    cases hf : d.find? (place ++ [segment]) with
    | none =>
      simp only [hf] at h
      split at h
      · next hc =>
        simp only [Bool.and_eq_true, List.isEmpty_iff] at hc
        exact Or.inl (last hc.1 (Except.ok.inj h).symm)
      · split at h <;> cases h
    | some e =>
      cases e with
      | directory =>
        simp only [hf] at h
        rcases List.mem_cons.mp hx with rfl | hx
        · exact Or.inr hf
        · exact ih h x hx
      | file content =>
        simp only [hf] at h
        split at h
        · next hc => exact Or.inl (last (List.isEmpty_iff.mp hc) (Except.ok.inj h).symm)
        · split at h <;> cases h
      | link target => exact absurd hf (hd _ _)

theorem place_of_locate (hd : d.Linkless) {p : Path} {q : Place}
    (h : d.locate purpose p = .ok q) : q = p.place d.home :=
  place_of_resolve hd (locate_eq_ok.mp h).2

/-- A path on which something is missing leads **nowhere**. -/
theorem hasAny_of_missing (hd : d.Linkless) {p : Path} {x : Place}
    (hx : x ∈ passed (p.start d.home) p.segments) (hnone : d.find? x = none) :
    d.hasAny p = false := by
  unfold hasAny look lookFor
  cases hl : d.locate .use p with
  | error fault => rfl
  | ok q =>
    rcases passed_of_resolve hd (locate_eq_ok.mp hl).2 x hx with rfl | hdir
    · simp only [bind, Except.bind, hnone]
      rfl
    · rw [hnone] at hdir
      cases hdir

theorem hasAny_of_isLong {p : Path} (h : p.isLong = true) : d.hasAny p = false := by
  unfold hasAny look lookFor
  cases hl : d.locate .use p with
  | error fault => rfl
  | ok q =>
    rw [(accepted_of_locate hl).not_long] at h
    cases h

theorem hasDirectory_of_not_hasAny {p : Path} (h : d.hasAny p = false) :
    d.hasDirectory p = false := by
  unfold hasAny at h
  unfold hasDirectory
  cases hl : d.look p with
  | error fault => rfl
  | ok r =>
    rw [hl] at h
    cases h

/-- **The place of a path**: it leads to a directory there, or ends in a name there. -/
theorem locate_cases (ht : d.IsTree) {p : Path} {q : Place} (hp : d.Grounded p)
    (h : d.locate purpose p = .ok q) :
    q = p.place d.home ∧ (d.Leads p ∨
      ∃ above name, d.EndsIn p above name ∧ q = above ++ [name] ∧ d.find? q ≠ some .directory) := by
  obtain ⟨haccepted, hres⟩ := locate_eq_ok.mp h
  obtain ⟨k, m, hs, hrk, hdk⟩ := hp
  rw [hs, resolve_append hrk] at hres
  rcases resolve_cases ht hdk hres with
    ⟨hr, hq, hd⟩ | ⟨l, name, hl, hn, hup, hr, habove, hq, hnot⟩
  · have hplace : q = p.place d.home := by rw [hq, Path.place, hs, follow_append]
    refine ⟨hplace, Or.inl ⟨haccepted.noNull, fun r hr' => ?_⟩⟩
    rcases List.mem_cons.mp hr' with rfl | hr'
    · rwa [← hplace]
    · rw [hs, passed_append, List.mem_append] at hr'
      exact hr'.elim (hrk r) (hr r)
  · have hconcat : p.segments = (k ++ l) ++ [name] := by rw [hs, hl, List.append_assoc]
    have hends : d.EndsIn p (follow (follow (p.start d.home) k) l) name :=
      ⟨⟨k ++ l, hconcat, reaches_append.mpr ⟨hrk, hr⟩, follow_append ..⟩, hn, hup,
        fun hc => haccepted.noNull (mem_text_null.mpr ⟨name, by simp [hconcat], hc⟩), habove⟩
    exact ⟨hq.trans hends.place_eq.symm, Or.inr ⟨_, name, hends, hq, hnot⟩⟩

/-- **What a path finds** is at its place. -/
theorem lookFor_cases (ht : d.IsTree) {p : Path} {q : Place} {e : Entry} (hp : d.Grounded p)
    (h : d.lookFor purpose p = .ok (q, e)) :
    q = p.place d.home ∧ d.find? q = some e ∧ ((d.Leads p ∧ e = .directory) ∨
      ∃ above name, d.EndsIn p above name ∧ q = above ++ [name] ∧ e ≠ .directory) := by
  unfold lookFor at h
  cases hl : d.locate purpose p with
  | error fault => simp [hl, bind, Except.bind] at h
  | ok r =>
    simp only [hl, bind, Except.bind] at h
    cases hf : d.find? r with
    | none => simp [hf] at h
    | some e' =>
      simp only [hf, Except.ok.injEq, Prod.mk.injEq] at h
      obtain ⟨rfl, rfl⟩ := h
      obtain ⟨hr, hcase⟩ := locate_cases ht hp hl
      refine ⟨hr, hf, ?_⟩
      rcases hcase with hleads | ⟨above, name, hends, hr', hnot⟩
      · refine Or.inl ⟨hleads, ?_⟩
        rw [hr, hleads.place] at hf
        exact (Option.some.inj hf).symm
      · refine Or.inr ⟨above, name, hends, hr', ?_⟩
        rintro rfl
        exact hnot hf

theorem locate_of_leads {p : Path} (h : d.Leads p) (hp : p.Accepted) :
    d.locate purpose p = .ok (p.place d.home) := by
  have hres : d.resolve purpose linkLimit (p.start d.home) (p.segments ++ []) = _ :=
    resolve_append h.reaches []
  rw [List.append_nil] at hres
  rw [locate_of_accepted hp, hres, resolve_nil]
  rfl

theorem lookFor_of_leads {p : Path} (h : d.Leads p) (hp : p.Accepted) :
    d.lookFor purpose p = .ok (p.place d.home, .directory) := by
  unfold lookFor
  rw [locate_of_leads h hp]
  simp only [bind, Except.bind, h.place]

/-! ## Names in a directory that a path leads to -/

theorem isEmpty_join_child (p : Path) {name : String} (hn : IsPlainName name) :
    (p.join ⟨[name]⟩).isEmpty = false := by
  obtain ⟨l, hl, -⟩ := segments_join (p := p) (continues_single name)
  have hne : l ++ [name] ≠ [""] := by
    intro h
    obtain ⟨-, h⟩ := List.append_inj' (show l ++ [name] = [] ++ [""] from h) rfl
    exact hn.ne_empty (List.cons.inj h).1
  simp only [isEmpty, hl, Bool.or_eq_false_iff, beq_eq_false_iff_ne]
  exact ⟨hne, by simp⟩

theorem resolve_single (ht : d.IsTree) {place : Place} {name : String} (hn : IsPlainName name) :
    d.resolve purpose links place [name] =
      if (d.find? (place ++ [name])).isSome || missing name == .notFound then .ok (place ++ [name])
      else .error (missing name) := by
  rw [resolve_cons, if_neg (by simp [hn.not_idle]), if_neg hn.ne_dots]
  cases hf : d.find? (place ++ [name]) with
  | none =>
    simp only [List.isEmpty_nil, Bool.true_and, Option.isSome_none, Bool.false_or]
    split
    · rfl
    · next h => simp [h]
  | some e =>
    cases e with
    | directory => simp [resolve_nil]
    | file content => simp
    | link target => exact absurd hf (ht.noLink _ _)

theorem Leads.accepted_child {p : Path} (h : d.Leads p) {name : String} (hn : IsDiskName name)
    (hlong : (p.join ⟨[name]⟩).isLong = false) : (p.join ⟨[name]⟩).Accepted := by
  refine ⟨?_, isEmpty_join_child p hn.toIsPlainName, hlong⟩
  rw [text_join_null (continues_single name), not_or]
  exact ⟨h.noNull, by simpa using hn.no_null⟩

theorem Leads.accept_child_of_isLong {p : Path} (h : d.Leads p) {name : String} (hn : IsDiskName name)
    (hlong : (p.join ⟨[name]⟩).isLong = true) : (p.join ⟨[name]⟩).accept = .error .nameTooLong := by
  refine accept_of_isLong ?_ (isEmpty_join_child p hn.toIsPlainName) hlong
  rw [text_join_null (continues_single name), not_or]
  exact ⟨h.noNull, by simpa using hn.no_null⟩

theorem locate_child (ht : d.IsTree) {p : Path} (h : d.Leads p) {name : String}
    (hn : IsDiskName name) :
    d.locate purpose (p.join ⟨[name]⟩) =
      if (p.join ⟨[name]⟩).isLong then .error .nameTooLong
      else if (d.find? (p.place d.home ++ [name])).isSome || missing name == .notFound then
        .ok (p.place d.home ++ [name])
      else .error (missing name) := by
  cases hlong : (p.join ⟨[name]⟩).isLong with
  | true => exact locate_of_refused (h.accept_child_of_isLong hn hlong)
  | false =>
    obtain ⟨l, hl, hr, hplace⟩ := h.join (continues_single name)
    rw [locate_of_accepted (h.accepted_child hn hlong), hl, resolve_append hr, hplace,
      resolve_single ht hn.toIsPlainName]
    rfl

/-- A path to a name in a directory finds what is there, if it is not too long. -/
theorem lookFor_child (ht : d.IsTree) {p : Path} (h : d.Leads p) {name : String}
    (hn : IsDiskName name) (hlong : (p.join ⟨[name]⟩).isLong = false) {e : Entry}
    (he : d.find? (p.place d.home ++ [name]) = some e) :
    d.lookFor purpose (p.join ⟨[name]⟩) = .ok (p.place d.home ++ [name], e) := by
  unfold lookFor
  rw [locate_child ht h hn, he]
  simp [bind, Except.bind, he, hlong]

theorem lookFor_child_none (ht : d.IsTree) {p : Path} (h : d.Leads p) {name : String}
    (hn : IsDiskName name)
    (he : (p.join ⟨[name]⟩).isLong = true ∨ d.find? (p.place d.home ++ [name]) = none) :
    ∃ fault, d.lookFor purpose (p.join ⟨[name]⟩) = .error fault := by
  unfold lookFor
  rw [locate_child ht h hn]
  split
  · exact ⟨_, rfl⟩
  · next hlong =>
    rw [he.resolve_left hlong]
    split
    · exact ⟨.notFound, by simp [bind, Except.bind, he.resolve_left hlong]⟩
    · exact ⟨_, rfl⟩

theorem look_child_toOption (ht : d.IsTree) {p : Path} (h : d.Leads p) {name : String}
    (hn : IsDiskName name) :
    (d.look (p.join ⟨[name]⟩)).toOption = if (p.join ⟨[name]⟩).isLong then none
      else (d.find? (p.place d.home ++ [name])).map (p.place d.home ++ [name], ·) := by
  by_cases hlong : (p.join ⟨[name]⟩).isLong = true
  · obtain ⟨fault, hfault⟩ := @lookFor_child_none _ .use ht _ h _ hn (Or.inl hlong)
    rw [look, hfault, if_pos hlong]
    rfl
  · rw [if_neg hlong]
    cases he : d.find? (p.place d.home ++ [name]) with
    | some e => rw [look, lookFor_child ht h hn (by simpa using hlong) he]; rfl
    | none =>
      obtain ⟨fault, hfault⟩ := @lookFor_child_none _ .use ht _ h _ hn (Or.inr he)
      rw [look, hfault]
      rfl

theorem hasAny_child (ht : d.IsTree) {p : Path} (h : d.Leads p) {name : String}
    (hn : IsDiskName name) :
    d.hasAny (p.join ⟨[name]⟩) =
      (!(p.join ⟨[name]⟩).isLong && (d.find? (p.place d.home ++ [name])).isSome) := by
  rw [hasAny, look_child_toOption ht h hn]
  cases (p.join ⟨[name]⟩).isLong <;> simp

theorem hasFile_child (ht : d.IsTree) {p : Path} (h : d.Leads p) {name : String}
    (hn : IsDiskName name) :
    d.hasFile (p.join ⟨[name]⟩) =
      (!(p.join ⟨[name]⟩).isLong && (d.find? (p.place d.home ++ [name])).any (·.isFile)) := by
  rw [hasFile, look_child_toOption ht h hn]
  cases (p.join ⟨[name]⟩).isLong <;> simp [Option.any_map]

theorem hasDirectory_child (ht : d.IsTree) {p : Path} (h : d.Leads p) {name : String}
    (hn : IsDiskName name) :
    d.hasDirectory (p.join ⟨[name]⟩) =
      (!(p.join ⟨[name]⟩).isLong && (d.find? (p.place d.home ++ [name])).any (·.isDirectory)) := by
  rw [hasDirectory, look_child_toOption ht h hn]
  cases (p.join ⟨[name]⟩).isLong <;> simp [Option.any_map]

/-- A path that is found to be a directory **leads** there. -/
theorem leads_of_hasDirectory (hd : d.Linkless) {p : Path} (h : d.hasDirectory p = true) :
    d.Leads p ∧ p.Accepted := by
  unfold hasDirectory look lookFor at h
  cases hl : d.locate .use p with
  | error fault => simp [hl, bind, Except.bind, Except.toOption] at h
  | ok q =>
    have hq : d.find? q = some .directory := by
      simp only [hl, bind, Except.bind] at h
      cases hf : d.find? q with
      | none => simp [hf, Except.toOption] at h
      | some e => cases e <;> simp_all [Except.toOption, Entry.isDirectory]
    obtain ⟨haccepted, hres⟩ := locate_eq_ok.mp hl
    refine ⟨⟨haccepted.noNull, fun x hx => ?_⟩, haccepted⟩
    rcases List.mem_cons.mp hx with rfl | hx
    · rwa [← place_of_locate hd hl]
    · exact (passed_of_resolve hd hres x hx).elim (fun h => h ▸ hq) id

theorem hasDirectory_iff (hd : d.Linkless) {p : Path} :
    d.hasDirectory p = true ↔ d.Leads p ∧ p.Accepted := by
  refine ⟨leads_of_hasDirectory hd, ?_⟩
  rintro ⟨hleads, hp⟩
  rw [hasDirectory, look, lookFor_of_leads hleads hp]
  rfl

/-! ## Disks that are the same on a trail -/

/-- Whether two disks have **the same** at certain places. -/
structure SameOn (R : Place → Prop) (d₁ d₂ : Disk) : Prop where
  home : d₁.home = d₂.home
  find? : ∀ q, R q → d₁.find? q = d₂.find? q

namespace SameOn

variable {R S : Place → Prop} {d₃ : Disk}

theorem refl (R : Place → Prop) (d : Disk) : SameOn R d d := ⟨rfl, fun _ _ => rfl⟩

theorem symm (h : SameOn R d₁ d₂) : SameOn R d₂ d₁ := ⟨h.home.symm, fun q hq => (h.find? q hq).symm⟩

theorem trans (h : SameOn R d₁ d₂) (h' : SameOn R d₂ d₃) : SameOn R d₁ d₃ :=
  ⟨h.home.trans h'.home, fun q hq => (h.find? q hq).trans (h'.find? q hq)⟩

theorem mono (h : SameOn R d₁ d₂) (hRS : ∀ q, S q → R q) : SameOn S d₁ d₂ :=
  ⟨h.home, fun q hq => h.find? q (hRS q hq)⟩

theorem leads (h : SameOn R d₁ d₂) {p : Path} (hp : ∀ q ∈ p.trail d₁.home, R q) (hl : d₁.Leads p) :
    d₂.Leads p :=
  ⟨hl.noNull, fun q hq => by
    rw [← h.home] at hq
    rw [← h.find? q (hp q hq)]
    exact hl.onTrail q hq⟩

end SameOn

variable {R : Place → Prop}

theorem locate_congr (h₁ : d₁.Linkless) (h : SameOn R d₁ d₂)
    {p : Path} (hp : ∀ q ∈ p.trail d₁.home, R q) : d₁.locate purpose p = d₂.locate purpose p := by
  cases ha : p.accept with
  | error fault => rw [locate_of_refused ha, locate_of_refused ha]
  | ok u =>
    have haccepted := accept_eq_ok.mp ha
    rw [locate_of_accepted haccepted, locate_of_accepted haccepted, ← h.home]
    exact resolve_congr h₁ fun q hq => h.find? q (hp q (List.mem_cons_of_mem _ hq))

theorem lookFor_congr (h₁ : d₁.Linkless) (h : SameOn R d₁ d₂)
    {p : Path} (hp : ∀ q ∈ p.trail d₁.home, R q) : d₁.lookFor purpose p = d₂.lookFor purpose p := by
  unfold lookFor
  rw [← locate_congr h₁ h hp]
  cases hq : d₁.locate purpose p with
  | error fault => rfl
  | ok q =>
    simp only [bind, Except.bind]
    rw [h.find? q (hp q (place_of_locate h₁ hq ▸ List.mem_cons_self))]

end Disk

end SiteGen
