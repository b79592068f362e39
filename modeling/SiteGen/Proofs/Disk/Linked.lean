import SiteGen.Disk.Walk
import SiteGen.Proofs.Disk.Pave

/-!
# Paths over links

A path may lead over links to a directory. It can then be continued by what is in the directory.

* `Disk.Way`, `Disk.way_of_resolve`, `Way.resolve`: what a way can be, step by step.
* `Way.of_file`, `Way.resolve_name`, `Way.continues`: where it leads for other purposes, and further.
* `Way.append`, `Way.of_append`: idle segments at its end do not matter.
* `Disk.lookFor_eq_ok`: when a path finds something.
* `Disk.locate_below`: names after a path to a directory are followed from there.
* `Disk.look_child`: a path that is continued by a name finds what is called so in the directory.
* `Disk.rootEntry_of_look`: a walk can start where a path leads.
-/

namespace SiteGen.Disk

open SiteGen.Path

variable {d : Disk} {p : Path} {place q : Place} {links : Nat}

/-! ## Ways -/

/-- Whether a name may come **last** on a way: that of a file, of a link that is not to be followed, or of something
missing for which there is room. -/
def Last (purpose : Purpose) (name : String) : Option Entry → Prop
  | some .directory => False
  | some (.file _) => True
  | some (.link _) => purpose = .name
  | none => missing name = .notFound

/-- Segments that are **a way** from a directory to a place, over so many links at most. -/
inductive Way (d : Disk) (purpose : Purpose) (q : Place) : Nat → Place → List String → Prop where
  /-- Nothing leads to where one is. -/
  | here {links : Nat} : Way d purpose q links q []
  /-- An idle segment is passed over. -/
  | idle {links : Nat} {place : Place} {s : String} {rest : List String} (hs : isIdle s = true)
    (h : Way d purpose q links place rest) : Way d purpose q links place (s :: rest)
  /-- Two dots lead up. -/
  | up {links : Nat} {place : Place} {rest : List String} (h : Way d purpose q links place.dropLast rest) :
    Way d purpose q links place (".." :: rest)
  /-- The name of a directory leads down. -/
  | down {links : Nat} {place : Place} {s : String} {rest : List String} (hs : ¬isIdle s = true) (hup : s ≠ "..")
    (hf : d.find? (place ++ [s]) = some .directory) (h : Way d purpose q links (place ++ [s]) rest) :
    Way d purpose q links place (s :: rest)
  /-- Any other name leads to what it names, if nothing comes after. -/
  | last {links : Nat} {place : Place} {s : String} (hs : ¬isIdle s = true) (hup : s ≠ "..")
    (hlast : Last purpose s (d.find? (place ++ [s]))) (hq : q = place ++ [s]) :
    Way d purpose q links place [s]
  /-- The name of a link that is followed leads where its target leads, and on from there. -/
  | link {links : Nat} {place : Place} {s : String} {rest : List String} {target : Path} (hs : ¬isIdle s = true)
    (hup : s ≠ "..") (hf : d.find? (place ++ [s]) = some (.link target)) (hrest : purpose = .name → rest ≠ [])
    (h : Way d purpose q links (if target.isAbsolute then [] else place) (target.segments ++ rest)) :
    Way d purpose q (links + 1) place (s :: rest)

variable {purpose purpose' : Purpose} {segments : List String}

/-- Segments that lead to a place are **a way** there. -/
theorem way_of_resolve (h : d.resolve purpose links place segments = .ok q) :
    Way d purpose q links place segments := by
  induction links using Nat.strong_induction_on generalizing place segments with
  | _ links hlinks =>
    induction segments generalizing place with
    | nil =>
      rw [resolve_nil] at h
      obtain rfl := Except.ok.inj h
      exact .here
    | cons s rest ih =>
      rw [resolve_cons] at h
      split at h
      · next hs => exact .idle hs (ih h)
      · next hs =>
        split at h
        · next hup =>
          subst hup
          exact .up (ih h)
        · next hup =>
          -- what the name leads to if it comes last
          have last : rest = [] → place ++ [s] = q → Last purpose s (d.find? (place ++ [s])) →
              Way d purpose q links place (s :: rest) := by
            rintro rfl rfl hlast
            exact .last hs hup hlast rfl
          cases hf : d.find? (place ++ [s]) with
          | none =>
            rw [hf] at h
            dsimp only at h
            split at h
            · next hc =>
              rw [Bool.and_eq_true, List.isEmpty_iff, beq_iff_eq] at hc
              exact last hc.1 (Except.ok.inj h) (hf ▸ hc.2)
            · split at h <;> cases h
          | some e =>
            rw [hf] at h
            cases e with
            | directory => exact .down hs hup hf (ih h)
            | file content =>
              dsimp only at h
              split at h
              · next hrest => exact last (List.isEmpty_iff.mp hrest) (Except.ok.inj h) (hf ▸ trivial)
              · split at h <;> cases h
            | link target =>
              dsimp only at h
              split at h
              · next hc =>
                rw [Bool.and_eq_true, List.isEmpty_iff, beq_iff_eq] at hc
                exact last hc.2 (Except.ok.inj h) (hf ▸ hc.1)
              · next hc =>
                have hrest : purpose = .name → rest ≠ [] := by
                  rintro rfl rfl
                  exact hc rfl
                cases links with
                | zero => cases h
                | succ links => exact .link hs hup hf hrest (hlinks links (Nat.lt_succ_self links) h)

namespace Way

theorem resolve_last {s : String} (hs : ¬isIdle s = true) (hup : s ≠ "..")
    (hlast : Last purpose s (d.find? (place ++ [s]))) :
    d.resolve purpose links place [s] = .ok (place ++ [s]) := by
  rw [resolve_cons, if_neg hs, if_neg hup]
  cases hf : d.find? (place ++ [s]) with
  | none =>
    rw [hf] at hlast
    have hmissing : missing s = .notFound := hlast
    exact if_pos (by simp [hmissing])
  | some e =>
    rw [hf] at hlast
    cases e with
    | directory => exact hlast.elim
    | file content => rfl
    | link target =>
      obtain rfl : purpose = .name := hlast
      rfl

/-- A way **leads to its place**. -/
theorem resolve (h : Way d purpose q links place segments) :
    d.resolve purpose links place segments = .ok q := by
  induction h with
  | here => exact resolve_nil ..
  | idle hs _ ih => rwa [resolve_cons, if_pos hs]
  | up _ ih => rwa [resolve_cons, if_neg (by decide), if_pos rfl]
  | down hs hup hf _ ih => rwa [resolve_cons, if_neg hs, if_neg hup, hf]
  | last hs hup hlast hq => rw [resolve_last hs hup hlast, hq]
  | link hs hup hf hrest _ ih =>
    rw [resolve_cons, if_neg hs, if_neg hup, hf]
    dsimp only
    rw [if_neg]
    · exact ih
    · rw [Bool.and_eq_true, beq_iff_eq, List.isEmpty_iff, not_and]
      exact hrest

/-- A way to a file is one **for every purpose** for which links at its end are followed. -/
theorem of_file {content : ByteArray} (h : Way d purpose q links place segments)
    (hq : d.find? q = some (.file content)) (hp : purpose' ≠ .name) :
    Way d purpose' q links place segments := by
  induction h with
  | here => exact .here
  | idle hs _ ih => exact .idle hs ih
  | up _ ih => exact .up ih
  | down hs hup hf _ ih => exact .down hs hup hf ih
  | last hs hup _ hplace =>
    rw [hplace] at hq
    exact .last hs hup (by rw [hq]; trivial) hplace
  | link hs hup hf _ _ ih => exact .link hs hup hf (fun h => absurd h hp) ih

/-- Without the links at its end a way leads **to a name** of something. -/
theorem resolve_name {e : Entry} (h : Way d purpose q links place segments) (hq : d.find? q = some e) :
    ∃ q' e', d.resolve .name links place segments = .ok q' ∧ d.find? q' = some e' := by
  induction h with
  | here => exact ⟨q, e, resolve_nil .., hq⟩
  | idle hs _ ih => rwa [resolve_cons, if_pos hs]
  | up _ ih => rwa [resolve_cons, if_neg (by decide), if_pos rfl]
  | down hs hup hf _ ih => rwa [resolve_cons, if_neg hs, if_neg hup, hf]
  | last hs hup hlast hplace =>
    rw [hplace] at hq
    rw [hq] at hlast
    refine ⟨_, e, resolve_last hs hup ?_, hq⟩
    rw [hq]
    cases e with
    | directory => exact hlast
    | file content => trivial
    | link target => rfl
  | link hs hup hf _ _ ih =>
    rw [resolve_cons, if_neg hs, if_neg hup, hf]
    dsimp only
    split
    · exact ⟨_, _, rfl, hf⟩
    · exact ih

theorem not_last {s : String} (hq : d.find? q = some .directory)
    (hlast : Last purpose s (d.find? (place ++ [s]))) : q ≠ place ++ [s] := by
  rintro rfl
  rw [hq] at hlast
  exact hlast

/-- A way to a directory is **the beginning of longer ways**. -/
theorem continues (h : Way d purpose q links place segments) (hq : d.find? q = some .directory) :
    ∃ links', ∀ purpose' m, m ≠ [] →
      d.resolve purpose' links place (segments ++ m) = d.resolve purpose' links' q m := by
  induction h with
  | here => exact ⟨_, fun _ _ _ => rfl⟩
  | idle hs _ ih =>
    obtain ⟨links', hm⟩ := ih
    exact ⟨links', fun _ m hne => by rw [List.cons_append, resolve_cons, if_pos hs, hm _ _ hne]⟩
  | up _ ih =>
    obtain ⟨links', hm⟩ := ih
    exact ⟨links', fun _ m hne => by
      rw [List.cons_append, resolve_cons, if_neg (by decide), if_pos rfl, hm _ _ hne]⟩
  | down hs hup hf _ ih =>
    obtain ⟨links', hm⟩ := ih
    exact ⟨links', fun _ m hne => by
      rw [List.cons_append, resolve_cons, if_neg hs, if_neg hup, hf, ← hm _ _ hne]⟩
  | last _ _ hlast hplace => exact absurd hplace (not_last hq hlast)
  | @link _ _ _ rest _ hs hup hf _ _ ih =>
    obtain ⟨links', hm⟩ := ih
    refine ⟨links', fun _ m hne => ?_⟩
    -- the link does not come last, so that it is followed for every purpose
    have hrest : (rest ++ m).isEmpty = false := by simp [hne]
    rw [List.cons_append, resolve_cons, if_neg hs, if_neg hup, hf, ← hm _ _ hne, List.append_assoc]
    simp only [hrest, Bool.and_false, Bool.false_eq_true, if_false]
    rfl

theorem resolve_of_idle {idle : List String} (hidle : ∀ s ∈ idle, isIdle s = true) :
    d.resolve purpose links place idle = .ok place := by
  induction idle with
  | nil => exact resolve_nil ..
  | cons s idle ih =>
    rw [resolve_cons, if_pos (hidle s List.mem_cons_self)]
    exact ih fun t ht => hidle t (List.mem_cons_of_mem _ ht)

/-- **Idle segments** after a way to a directory lead nowhere else. -/
theorem append {idle : List String} (h : Way d purpose q links place segments)
    (hq : d.find? q = some .directory) (hp : purpose' = .name → purpose = .name)
    (hidle : ∀ s ∈ idle, isIdle s = true) : Way d purpose' q links place (segments ++ idle) := by
  induction h with
  | here => exact way_of_resolve (resolve_of_idle hidle)
  | idle hs _ ih => exact .idle hs ih
  | up _ ih => exact .up ih
  | down hs hup hf _ ih => exact .down hs hup hf ih
  | last _ _ hlast hplace => exact absurd hplace (not_last hq hlast)
  | link hs hup hf hrest _ ih =>
    exact .link hs hup hf (fun hname => by simp [hrest (hp hname)]) ((List.append_assoc ..).symm ▸ ih)

/-- Idle segments **at the end** of a way may be left out. -/
theorem of_append {l idle : List String} (hp : purpose ≠ .name) (hidle : ∀ s ∈ idle, isIdle s = true)
    (h : Way d purpose q links place (l ++ idle)) : Way d purpose q links place l := by
  generalize hsegments : l ++ idle = segments at h
  -- what comes first is in the way, or it is idle
  have hfirst : ∀ {s : String} {rest m : List String}, (∀ s ∈ m, isIdle s = true) → m = s :: rest →
      isIdle s = true := fun hm heq => hm _ (heq ▸ List.mem_cons_self)
  induction h generalizing l idle with
  | here =>
    obtain ⟨rfl, -⟩ := List.append_eq_nil_iff.mp hsegments
    exact .here
  | idle hs h ih =>
    cases l with
    | nil =>
      obtain rfl : idle = _ :: _ := hsegments
      exact @ih [] _ (fun s hmem => hidle s (List.mem_cons_of_mem _ hmem)) rfl
    | cons s l =>
      obtain ⟨rfl, hrest⟩ := List.cons.inj hsegments
      exact .idle hs (ih hidle hrest)
  | up _ ih =>
    cases l with
    | nil => exact absurd (hfirst hidle hsegments) (by decide)
    | cons s l =>
      obtain ⟨rfl, hrest⟩ := List.cons.inj hsegments
      exact .up (ih hidle hrest)
  | down hs hup hf _ ih =>
    cases l with
    | nil => exact absurd (hfirst hidle hsegments) hs
    | cons s l =>
      obtain ⟨rfl, hrest⟩ := List.cons.inj hsegments
      exact .down hs hup hf (ih hidle hrest)
  | last hs hup hlast hq =>
    cases l with
    | nil => exact absurd (hfirst hidle hsegments) hs
    | cons s l =>
      obtain ⟨rfl, hrest⟩ := List.cons.inj hsegments
      obtain ⟨rfl, -⟩ := List.append_eq_nil_iff.mp hrest
      exact .last hs hup hlast hq
  | link hs hup hf _ _ ih =>
    cases l with
    | nil => exact absurd (hfirst hidle hsegments) hs
    | cons s l =>
      obtain ⟨rfl, hrest⟩ := List.cons.inj hsegments
      exact .link hs hup hf (fun hname => absurd hname hp)
        (ih hidle ((List.append_assoc ..).trans (congrArg _ hrest)))

end Way

/-! ## What a path leads to -/

/-- When a path finds something. -/
theorem lookFor_eq_ok {e : Entry} :
    d.lookFor purpose p = .ok (q, e) ↔ d.locate purpose p = .ok q ∧ d.find? q = some e := by
  unfold lookFor
  cases d.locate purpose p with
  | error fault => exact ⟨nofun, nofun⟩
  | ok place =>
    simp only [bind, Except.bind, Except.ok.injEq]
    constructor
    · intro h
      split at h
      · next e' he =>
        obtain ⟨rfl, rfl⟩ := Prod.mk.inj (Except.ok.inj h)
        exact ⟨rfl, he⟩
      · cases h
    · rintro ⟨rfl, he⟩
      rw [he]

/-- **The way** of a path to its place. -/
theorem way_of_locate (h : d.locate purpose p = .ok q) :
    Way d purpose q linkLimit (p.start d.home) p.segments := way_of_resolve (locate_eq_ok.mp h).2

theorem exists_way_join (h : d.look p = .ok (q, .directory)) : ∃ l, l <+: p.segments ∧
    (∀ r : Path, Continues r → (p.join r).segments = l ++ r.segments) ∧
      Way d .use q linkLimit (p.start d.home) l := by
  have hway := way_of_locate (lookFor_eq_ok.mp h).1
  obtain ⟨l, hp, hl⟩ := exists_segments_join p
  rcases hp with hp | hp
  · exact ⟨l, by simp [hp], hl, hp ▸ hway⟩
  · rw [hp] at hway
    exact ⟨l, by rw [hp]; exact List.prefix_append _ _, hl, hway.of_append (by simp) (by simp [isIdle])⟩

/-- **Names after a path to a directory** are followed from that directory on, if that does not make the
path too long. -/
theorem locate_below (h : d.look p = .ok (q, .directory)) : ∃ links, ∀ purpose m, m ≠ [] →
    (∀ n ∈ m, IsDiskName n) → (p.join ⟨m⟩).isLong = false →
      (p.join ⟨m⟩).Accepted ∧ d.locate purpose (p.join ⟨m⟩) = d.resolve purpose links q m := by
  obtain ⟨hlocate, hq⟩ := lookFor_eq_ok.mp h
  obtain ⟨l, -, hl, hway⟩ := exists_way_join h
  obtain ⟨links, hlinks⟩ := hway.continues hq
  refine ⟨links, fun purpose m hne hm hlong => ?_⟩
  have hplain : ∀ n ∈ m, IsPlainName n := fun n hn => (hm n hn).toIsPlainName
  have hc := continues_names hne hplain
  have haccepted : (p.join ⟨m⟩).Accepted := by
    refine ⟨?_, isEmpty_join_names p hne hplain, hlong⟩
    rw [text_join_null hc, not_or]
    exact ⟨(accepted_of_locate hlocate).noNull, fun ⟨s, hs, hc⟩ => (hm s hs).no_null hc⟩
  refine ⟨haccepted, ?_⟩
  rw [locate_of_accepted haccepted, start_join _ hc, hl _ hc, hlinks _ _ hne]

/-- **A path to a directory, continued by a name**, finds what is called so there, if that is a directory
and the path is not too long. -/
theorem look_child (h : d.look p = .ok (q, .directory)) {name : String} (hn : IsDiskName name)
    (hlong : (p.join ⟨[name]⟩).isLong = false) (hchild : d.find? (q ++ [name]) = some .directory) :
    d.look (p.join ⟨[name]⟩) = .ok (q ++ [name], .directory) := by
  obtain ⟨links, hlinks⟩ := locate_below h
  have hlocate : d.locate .use (p.join ⟨[name]⟩) = .ok (q ++ [name]) := by
    rw [(hlinks .use [name] (by simp) (by simpa using hn) hlong).2, resolve_cons,
      if_neg (by simp [hn.not_idle]), if_neg hn.ne_dots, hchild]
    exact resolve_nil ..
  exact lookFor_eq_ok.mpr ⟨hlocate, hchild⟩

/-! ## Where a walk starts -/

/-- **A walk can start** where a path leads. -/
theorem rootEntry_of_look {e : Entry} (h : d.look p = .ok (q, e)) : ∃ e', d.rootEntry p = .ok e' := by
  obtain ⟨hlocate, hq⟩ := lookFor_eq_ok.mp h
  obtain ⟨q', e', hname, hq'⟩ := (way_of_locate hlocate).resolve_name hq
  have hat : d.lookAt p = .ok (q', e') :=
    lookFor_eq_ok.mpr ⟨locate_eq_ok.mpr ⟨accepted_of_locate hlocate, hname⟩, hq'⟩
  unfold rootEntry
  rw [hat]
  cases e' with
  | link target => exact ⟨.link target, by simp only [bind, Except.bind, h]⟩
  | directory => exact ⟨_, rfl⟩
  | file content => exact ⟨_, rfl⟩

end SiteGen.Disk
