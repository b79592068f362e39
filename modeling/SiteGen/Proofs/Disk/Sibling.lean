import SiteGen.Proofs.Disk.Make
import SiteGen.Proofs.Run.Confined

/-!
# Files beside a file

A path that ends in a name calls something in the directory to which the path above it leads. The paths
of other names there only differ in the name.

* `Path.EndsInName`: a path that ends in a name.
* `Disk.leads_above`, `Disk.endsIn_of_above`: the path above leads to the directory, and the other way
  round.
* `Disk.lookFor_beside`: what a path that ends in a name finds.
* `Disk.Grounded.stands_above`: the directory of a file that is found.
-/

namespace SiteGen

namespace Path

/-- Whether a path **ends in a name**. -/
structure EndsInName (p : Path) (name : String) : Prop where
  concat : ∃ l, p.segments = l ++ [name]
  not_idle : isIdle name = false
  ne_dots : name ≠ ".."

namespace EndsInName

variable {p : Path} {name f : String}

theorem endsInStep (h : p.EndsInName name) : p.EndsInStep := by
  obtain ⟨l, hl⟩ := h.concat
  exact ⟨l, name, hl, h.not_idle⟩

theorem segments_eq (h : p.EndsInName name) : p.segments = p.segments.dropLast ++ [name] := by
  obtain ⟨l, hl⟩ := h.concat
  rw [hl, List.dropLast_concat]

theorem name?_eq (h : p.EndsInName name) : p.name? = some name := by
  obtain ⟨l, hl⟩ := h.concat
  exact name?_concat hl h.not_idle h.ne_dots

/-- The path with **another name**. -/
theorem withName_eq (h : p.EndsInName name) (hf : IsPlainName f) :
    p.withName f = p.above.join ⟨[f]⟩ := by
  rw [withName, h.name?_eq, h.endsInStep.parent?_eq, hf.ofText]
  rfl

theorem parent?_withName (h : p.EndsInName name) (hf : IsPlainName f) :
    (p.withName f).parent? = p.parent? := by
  have hsibling : (Path.mk (p.stem ++ [f])).EndsInStep := ⟨p.stem, f, rfl, hf.not_idle⟩
  rw [h.withName_eq hf, h.endsInStep.join_above, hsibling.parent?_eq,
    h.endsInStep.above_sibling hf.not_idle, h.endsInStep.parent?_eq]

/-- A path with another name has the same parts only if **the name is the same**. -/
theorem same_withName (h : p.EndsInName name) (hf : IsPlainName f) :
    (p.withName f).same p = true ↔ f = name := by
  have hparts : p.parts = p.parts.dropLast ++ [.name name] := by
    have hlast := h.name?_eq
    unfold name? at hlast
    split at hlast
    · next s hs =>
      rw [← Option.some.inj hlast]
      exact (List.dropLast_append_getLast? _ hs).symm
    · cases hlast
  have hpart : partOf f = .name f := by simp [partOf, hf.ne_dots]
  rw [same, h.withName_eq hf, h.endsInStep.join_above, h.endsInStep.parts_sibling hf.not_idle, hpart,
    beq_iff_eq]
  constructor
  · intro heq
    rw [hparts, List.dropLast_concat] at heq
    have := (List.append_inj' heq rfl).2
    simpa using this
  · rintro rfl
    exact hparts.symm

end EndsInName

end Path

namespace Disk

open SiteGen.Path

variable {d : Disk} {p : Path} {above : Place} {name f : String} {home : Place}

theorem EndsIn.endsInName (h : d.EndsIn p above name) : p.EndsInName name := by
  obtain ⟨l, hl, -⟩ := h.concat
  exact ⟨⟨l, hl⟩, h.not_idle, h.ne_dots⟩

/-- The path above a path that ends in a name in a directory **leads to that directory**. -/
theorem leads_above (h : d.EndsIn p above name) (hnull : '\x00' ∉ p.text.toList) :
    d.Leads p.above ∧ p.above.place d.home = above := by
  have hstep := h.endsInName.endsInStep
  obtain ⟨l, hl, hr, habove⟩ := h.concat
  have hplace : p.above.place d.home = above := by
    rw [Path.place, hstep.start_above, hstep.follow_above, hl, List.dropLast_concat, habove]
  refine ⟨⟨fun hc => hnull ?_, fun q hq => ?_⟩, hplace⟩
  · obtain ⟨k, idle, idle', hk, hk', -, hidle'⟩ := hstep.segments_above
    obtain ⟨s, hs, hc⟩ := mem_text_null.mp hc
    rw [hk', List.mem_append] at hs
    rcases hs with hs | hs
    · refine mem_text_null.mpr ⟨s, List.dropLast_subset _ ?_, hc⟩
      rw [hk]
      exact List.mem_append_left _ hs
    · rw [hidle' s hs] at hc
      cases hc
  · rcases List.mem_cons.mp hq with rfl | hq
    · rw [hplace]
      exact h.directory
    · rw [hstep.start_above, hstep.passed_above, hl, List.dropLast_concat] at hq
      exact hr q hq

/-- Where the path above a path that ends in a name leads, **the path ends in that name**. -/
theorem endsIn_of_above (hp : p.EndsInName name) (hnull : '\x00' ∉ p.text.toList)
    (h : d.Leads p.above) : d.EndsIn p (p.above.place d.home) name := by
  have hstep := hp.endsInStep
  refine ⟨⟨p.segments.dropLast, hp.segments_eq, fun q hq => ?_, ?_⟩, hp.not_idle, hp.ne_dots,
    fun hc => hnull (mem_text_null.mpr ⟨name, ?_, hc⟩), h.place⟩
  · rw [← hstep.start_above, ← hstep.passed_above] at hq
    exact h.reaches q hq
  · rw [Path.place, hstep.start_above, hstep.follow_above]
  · rw [hp.segments_eq]
    simp

/-- What a path that ends in a name **finds** in the directory to which the path above it leads. -/
theorem lookFor_beside (ht : d.IsTree) (hp : p.EndsInName name) (haccepted : p.Accepted)
    (h : d.Leads p.above) {purpose : Purpose} {e : Entry}
    (he : d.find? (p.above.place d.home ++ [name]) = some e) :
    d.lookFor purpose p = .ok (p.above.place d.home ++ [name], e) := by
  obtain ⟨l, hl, hr, habove⟩ := (endsIn_of_above hp haccepted.noNull h).concat
  have hlocate : d.locate purpose p = .ok (p.above.place d.home ++ [name]) := by
    rw [locate_of_accepted haccepted, hl, resolve_append hr, habove, resolve_cons, if_neg (by simp [hp.not_idle]),
      if_neg hp.ne_dots]
    simp only [he]
    cases e with
    | directory => exact resolve_nil ..
    | file content => rfl
    | link target => exact absurd he (ht.noLink _ _)
  unfold lookFor
  rw [hlocate]
  simp only [bind, Except.bind, he]

/-- **The directory of a file** that is found: the path above the file leads there. -/
theorem Grounded.stands_above (hp : d.Grounded p) (ht : d.IsTree) (h : d.hasFile p = true) :
    ∃ name content, p.EndsInName name ∧ p.Accepted ∧
      Stands d.home p.above d ∧ p.place d.home = p.above.place d.home ++ [name] ∧
      d.find? (p.above.place d.home ++ [name]) = some (.file content) := by
  unfold hasFile at h
  cases hl : d.look p with
  | error fault => simp [hl, Except.toOption] at h
  | ok r =>
    obtain ⟨q, e⟩ := r
    simp only [hl, Except.toOption, Option.any_some] at h
    obtain ⟨-, hf, hcase⟩ := lookFor_cases ht hp hl
    rcases hcase with ⟨-, rfl⟩ | ⟨above, name, hends, rfl, -⟩
    · cases h
    · cases e with
      | directory => cases h
      | link target => cases h
      | file content =>
        have haccepted := accepted_of_lookFor hl
        obtain ⟨hleads, hplace⟩ := leads_above hends haccepted.noNull
        exact ⟨name, content, hends.endsInName, haccepted, ⟨ht, rfl, hleads⟩, by rw [hends.place_eq, hplace],
          by rwa [hplace]⟩

theorem stands_of_hasFile (ht : d.IsTree) (hhome : d.find? d.home = some .directory)
    (h : d.hasFile p = true) : ∃ name content, p.EndsInName name ∧ p.Accepted ∧
      Stands d.home p.above d ∧ p.place d.home = p.above.place d.home ++ [name] ∧
      d.find? (p.above.place d.home ++ [name]) = some (.file content) :=
  (grounded_of_home hhome p).stands_above ht h

end Disk

end SiteGen
