import SiteGen.Proofs.Disk.Linked
import SiteGen.Proofs.Disk.Make

/-!
# Paths that lead where they did

Directories and links tell where a path leads. It still leads there as long as they are left as they are, whatever
becomes of files and of what is missing.

* `Disk.Retains`: a disk still has the directories and links of another one.
* `Retains.way`, `Retains.locate`, `Retains.lookFor`: paths lead where they did.
* `Disk.resolve_idle`: slashes at the end of a name lead no further.
* `Disk.lookFor_of_locateName`, `Disk.hasAny_of_locateName`: what a path finds whose name is that of a directory, or
  is still free.
* `Disk.makeDirectories_of_look`, `Disk.makeDirectories_slash`: a directory that is there is made without any change.
-/

namespace SiteGen.Disk

open SiteGen.Path

variable {d d' : Disk} {p : Path} {place q : Place} {purpose : Purpose} {links : Nat}
  {segments : List String}

/-! ## Disks with the same directories and links -/

/-- Whether a disk **retains** the directories and links of another one. -/
structure Retains (d d' : Disk) : Prop where
  home : d'.home = d.home
  find? : ∀ q e, d.find? q = some e → e.isFile = false → d'.find? q = some e

theorem retains_insert (hq : q ≠ []) (hold : ∀ e, d.find? q = some e → e.isFile = true) (e : Entry) :
    Retains d (d.insert q e) := by
  refine ⟨rfl, fun x old hx hfile => ?_⟩
  rw [find?_insert _ _ _ _ hq, if_neg]
  · exact hx
  · rintro rfl
    rw [hold old hx] at hfile
    cases hfile

namespace Retains

/-- A way **stays a way**, if at its end there is what was there, or something that is no link. -/
theorem way (h : Retains d d')
    (hq : d'.find? q = d.find? q ∨ ∃ e, d'.find? q = some e ∧ ∀ target, e ≠ .link target)
    (hway : Way d purpose q links place segments) : Way d' purpose q links place segments := by
  induction hway with
  | here => exact .here
  | idle hs _ ih => exact .idle hs ih
  | up _ ih => exact .up ih
  | down hs hup hf _ ih => exact .down hs hup (h.find? _ _ hf rfl) ih
  | last hs hup hlast hplace =>
    subst hplace
    rcases hq with hq | ⟨e, he, hlink⟩
    · exact .last hs hup (hq ▸ hlast) rfl
    · cases e with
      | directory => exact .down hs hup he .here
      | file content => exact .last hs hup (he ▸ trivial) rfl
      | link target => exact absurd rfl (hlink target)
  | link hs hup hf hrest _ ih => exact .link hs hup (h.find? _ _ hf rfl) hrest ih

/-- Paths **have the place they had**. -/
theorem locate (h : Retains d d')
    (hq : d'.find? q = d.find? q ∨ ∃ e, d'.find? q = some e ∧ ∀ target, e ≠ .link target)
    (hl : d.locate purpose p = .ok q) : d'.locate purpose p = .ok q := by
  obtain ⟨haccepted, hr⟩ := locate_eq_ok.mp hl
  exact locate_eq_ok.mpr ⟨haccepted, h.home ▸ (h.way hq (way_of_resolve hr)).resolve⟩

theorem locateName (h : Retains d d')
    (hq : d'.find? q = d.find? q ∨ ∃ e, d'.find? q = some e ∧ ∀ target, e ≠ .link target)
    (hl : d.locateName p = .ok q) : d'.locateName p = .ok q := by
  obtain ⟨haccepted, hr⟩ := locateName_eq_ok.mp hl
  exact locateName_eq_ok.mpr ⟨haccepted, h.home ▸ (h.way hq (way_of_resolve hr)).resolve⟩

/-- Paths **find what they found**, if it is still there. -/
theorem lookFor (h : Retains d d') {e : Entry} (hl : d.lookFor purpose p = .ok (q, e))
    (hq : d'.find? q = some e) : d'.lookFor purpose p = .ok (q, e) := by
  obtain ⟨hlocate, he⟩ := lookFor_eq_ok.mp hl
  exact lookFor_eq_ok.mpr ⟨h.locate (Or.inl (hq.trans he.symm)) hlocate, hq⟩

end Retains

/-! ## Slashes at the end -/

/-- Idle segments after a way **to a name** lead no further, unless that is the name of a link. -/
theorem resolve_idle {idle : List String} (hidle : ∀ s ∈ idle, isIdle s = true)
    (hlink : ∀ target, d.find? q ≠ some (.link target)) (h : Way d .name q links place segments) :
    d.resolve purpose links place (segments ++ idle) = .ok q ∨
      d.find? q ≠ some .directory ∧ ∃ fault, d.resolve purpose links place (segments ++ idle) = .error fault := by
  induction h with
  | here => exact Or.inl (Way.resolve_of_idle hidle)
  | idle hs _ ih => rwa [List.cons_append, resolve_cons, if_pos hs]
  | up _ ih => rwa [List.cons_append, resolve_cons, if_neg (by decide), if_pos rfl]
  | down hs hup hf _ ih => rwa [List.cons_append, resolve_cons, if_neg hs, if_neg hup, hf]
  | @last _ place s hs hup hlast hplace =>
    rw [List.cons_append, resolve_cons, if_neg hs, if_neg hup, List.nil_append, ← hplace]
    cases hf : d.find? q with
    | none =>
      dsimp only
      split
      · exact Or.inl rfl
      · split <;> exact Or.inr ⟨nofun, _, rfl⟩
    | some e =>
      cases e with
      | directory =>
        rw [← hplace, hf] at hlast
        exact hlast.elim
      | file content =>
        dsimp only
        split
        · exact Or.inl rfl
        · split <;> exact Or.inr ⟨nofun, _, rfl⟩
      | link target => exact absurd hf (hlink target)
  | @link _ place s rest target hs hup hf hrest _ ih =>
    -- the link does not come last, so that it is followed for every purpose
    have hlast : (rest ++ idle).isEmpty = false := by simp [hrest rfl]
    rw [List.cons_append, resolve_cons, if_neg hs, if_neg hup, hf]
    simp only [hlast, Bool.and_false, Bool.false_eq_true, if_false]
    rwa [List.append_assoc] at ih

theorem locate_of_locateName (h : d.locateName p = .ok q) (hlink : ∀ target, d.find? q ≠ some (.link target)) :
    d.locate purpose p = .ok q ∨ d.find? q ≠ some .directory ∧ ∃ fault, d.locate purpose p = .error fault := by
  obtain ⟨haccepted, hr⟩ := locateName_eq_ok.mp h
  obtain ⟨k, hk⟩ := segments_withoutSlash p
  rw [locate_of_accepted haccepted, hk]
  exact resolve_idle (by simp [isIdle]) hlink (way_of_resolve hr)

/-- A path whose name is that of **a directory** finds it. -/
theorem lookFor_of_locateName (h : d.locateName p = .ok q) (hq : d.find? q = some .directory) :
    d.lookFor purpose p = .ok (q, .directory) := by
  rcases locate_of_locateName h (by simp [hq]) with hl | ⟨hnot, -⟩
  · exact lookFor_eq_ok.mpr ⟨hl, hq⟩
  · exact absurd hq hnot

/-- A path whose name is **still free** finds nothing. -/
theorem hasAny_of_locateName (h : d.locateName p = .ok q) (hq : d.find? q = none) : d.hasAny p = false := by
  unfold hasAny
  cases hl : d.look p with
  | error fault => rfl
  | ok r =>
    obtain ⟨hlocate, hr⟩ := lookFor_eq_ok.mp hl
    rcases @locate_of_locateName _ _ _ .use h (by simp [hq]) with heq | ⟨-, fault, hfault⟩
    · rw [Except.ok.inj (hlocate.symm.trans heq), hq] at hr
      cases hr
    · rw [hfault] at hlocate
      cases hlocate

/-! ## Directories that are there -/

theorem locateName_of_look (h : d.look p = .ok (q, .directory)) :
    ∃ q' e, d.locateName p = .ok q' ∧ d.find? q' = some e := by
  obtain ⟨hlocate, hdir⟩ := lookFor_eq_ok.mp h
  obtain ⟨k, hk⟩ := segments_withoutSlash p
  have hway := way_of_locate hlocate
  rw [hk] at hway
  obtain ⟨q', e, hr, he⟩ := (hway.of_append (by simp) (by simp [isIdle])).resolve_name hdir
  exact ⟨q', e, locateName_eq_ok.mpr ⟨accepted_of_locate hlocate, hr⟩, he⟩

/-- **A directory that is there** is made without any change. -/
theorem makeDirectories_of_look (h : d.look p = .ok (q, .directory)) : d.makeDirectories p = (d, none) := by
  obtain ⟨q', e, hl, he⟩ := locateName_of_look h
  have hmake : d.makeDirectory p = .error .exists := by
    unfold makeDirectory make
    rw [hl]
    simp only [bind, Except.bind, he]
  have hthere : d.hasDirectory p = true := by
    rw [hasDirectory, h]
    rfl
  have hensure : d.ensureDirectory p = .ok d := by
    unfold ensureDirectory
    rw [hmake]
    exact if_pos hthere
  rw [makeDirectories, ancestors, ancestorsFrom, makeLowest,
    (accepted_of_locate (lookFor_eq_ok.mp h).1).not_empty, hensure]
  rfl

theorem makeDirectories_of_isEmpty (h : p.isEmpty = true) : d.makeDirectories p = (d, none) := by
  rw [makeDirectories, ancestors, ancestorsFrom, makeLowest, h]
  rfl

/-- A slash after a directory that is there **makes no difference**, if it does not make the path too
long. -/
theorem makeDirectories_slash (h : d.look p = .ok (q, .directory)) (hlong : (p.join ⟨[""]⟩).isLong = false) :
    d.makeDirectories (p.join ⟨[""]⟩) = (d, none) := by
  have hc := continues_single ""
  obtain ⟨hlocate, hdir⟩ := lookFor_eq_ok.mp h
  obtain ⟨l, -, hl, hway⟩ := exists_way_join h
  cases hempty : (p.join ⟨[""]⟩).isEmpty with
  | true => exact makeDirectories_of_isEmpty hempty
  | false =>
    have hnull : '\x00' ∉ (p.join ⟨[""]⟩).text.toList := by
      rw [text_join_null hc, not_or]
      exact ⟨(accepted_of_locate hlocate).noNull, by simp⟩
    have hslash : Way d .use q linkLimit (p.start d.home) (l ++ [""]) :=
      hway.append hdir id (by simp [isIdle])
    refine makeDirectories_of_look (lookFor_eq_ok.mpr ⟨locate_eq_ok.mpr ⟨⟨hnull, hempty, hlong⟩, ?_⟩, hdir⟩)
    rw [start_join _ hc, hl _ hc]
    exact hslash.resolve

end SiteGen.Disk
