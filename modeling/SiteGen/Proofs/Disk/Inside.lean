import SiteGen.Proofs.Disk.Retained

/-!
# Inside a directory

A path to a directory, continued by names, calls what is inside. What comes of reading, writing, making and copying
there depends only on what is at the last name, and on the room for it. The path may lead over links; only the last
name must not be that of one.

* `Disk.Inside`: names that go down to a directory below a path, and a last one in it.
* `Inside.locate_eq`, `Inside.lookFor_eq`: the place, and what is found there.
* `Inside.writeBytes_eq`, `Inside.makeDirectories_eq`, `Inside.copyFile_eq`: what comes of writing.
* `Inside.makeDirectories_parent`: the path above is that of a directory, for which nothing has to be made.
-/

namespace SiteGen.Disk

open SiteGen.Path

variable {d : Disk} {p : Path} {q : Place} {init : List String} {last : String}

/-- A **name inside** a directory to which a path leads: the names before it go down to a directory, and it is not
that of a link. -/
structure Inside (d : Disk) (p : Path) (q : Place) (init : List String) (last : String) : Prop where
  look : d.look p = .ok (q, .directory)
  down : ∀ m, m <+: init → d.find? (q ++ m) = some .directory
  name : ∀ n ∈ init ++ [last], IsDiskName n
  noLink : ∀ target, d.find? (q ++ (init ++ [last])) ≠ some (.link target)

namespace Inside

theorem plain (h : Inside d p q init last) : ∀ n ∈ init ++ [last], IsPlainName n :=
  fun n hn => (h.name n hn).toIsPlainName

theorem last_name (h : Inside d p q init last) : IsDiskName last := h.name last (by simp)

theorem ne_nil : q ++ (init ++ [last]) ≠ [] := by simp

/-! ## Places -/

theorem refused (h : Inside d p q init last) (hlong : (p.join ⟨init ++ [last]⟩).isLong = true) :
    (p.join ⟨init ++ [last]⟩).accept = .error .nameTooLong := by
  refine accept_of_isLong ?_ (isEmpty_join_names p (by simp) h.plain) hlong
  rw [text_join_null (continues_names (by simp) h.plain), not_or]
  exact ⟨(accepted_of_lookFor h.look).noNull, fun ⟨s, hs, hc⟩ => (h.name s hs).no_null hc⟩

/-- **The place** of a name whose path is not too long: it must be there, or its name must not be too long
either. -/
theorem locate_eq (h : Inside d p q init last) (hlong : (p.join ⟨init ++ [last]⟩).isLong = false)
    (purpose : Purpose) :
    d.locate purpose (p.join ⟨init ++ [last]⟩) =
      if (d.find? (q ++ (init ++ [last]))).isSome ∨ missing last = .notFound then .ok (q ++ (init ++ [last]))
      else .error .nameTooLong := by
  have hinit : ∀ n ∈ init, IsPlainName n := fun n hn => h.plain n (List.mem_append_left _ hn)
  have hreach : d.Reaches q init := (reaches_names hinit).mpr fun m _ hm => h.down m hm
  obtain ⟨links, hlinks⟩ := locate_below h.look
  rw [(hlinks purpose _ (by simp) h.name hlong).2, resolve_append hreach, follow_names hinit, resolve_cons,
    if_neg (by simp [h.last_name.not_idle]), if_neg h.last_name.ne_dots, List.append_assoc]
  cases hf : d.find? (q ++ (init ++ [last])) with
  | none => rcases missing_cases last with hm | hm <;> simp [hm]
  | some e =>
    cases e with
    | directory => simp [resolve_nil]
    | file content => simp
    | link target => exact absurd hf (h.noLink target)

/-- **What is found** by a name. -/
theorem lookFor_eq (h : Inside d p q init last) (hlong : (p.join ⟨init ++ [last]⟩).isLong = false)
    (purpose : Purpose) {e : Entry} (he : d.find? (q ++ (init ++ [last])) = some e) :
    d.lookFor purpose (p.join ⟨init ++ [last]⟩) = .ok (q ++ (init ++ [last]), e) :=
  lookFor_eq_ok.mpr ⟨by rw [h.locate_eq hlong, he]; rfl, he⟩

theorem endsInStep (h : Inside d p q init last) : (p.join ⟨init ++ [last]⟩).EndsInStep :=
  endsInStep_join (continues_names (by simp) h.plain) h.last_name.not_idle

/-! ## Writing -/

/-- **Writing** by a name. -/
theorem writeBytes_eq (h : Inside d p q init last) (hlong : (p.join ⟨init ++ [last]⟩).isLong = false)
    (content : ByteArray) :
    d.writeBytes (p.join ⟨init ++ [last]⟩) content =
      if d.find? (q ++ (init ++ [last])) = some .directory then .error .isDirectory
      else if (d.find? (q ++ (init ++ [last]))).isSome ∨ missing last = .notFound then
        .ok (d.insert (q ++ (init ++ [last])) (.file content))
      else .error .nameTooLong := by
  unfold writeBytes
  rw [h.locate_eq hlong]
  cases hf : d.find? (q ++ (init ++ [last])) with
  | some e => cases e <;> simp [bind, Except.bind, hf]
  | none =>
    by_cases hroom : missing last = .notFound
    · simp [bind, Except.bind, hf, hroom]
    · simp [bind, Except.bind, hroom]

theorem withoutSlash_eq (h : Inside d p q init last) :
    withoutSlash (p.join ⟨init ++ [last]⟩) = p.join ⟨init ++ [last]⟩ := by
  have hslash := withoutSlash_append h.endsInStep 0
  rwa [List.replicate_zero, List.append_nil] at hslash

/-- **Making** a directory by a name. -/
theorem makeDirectories_eq (h : Inside d p q init last) :
    d.makeDirectories (p.join ⟨init ++ [last]⟩) =
      if (p.join ⟨init ++ [last]⟩).isLong then (d, some .nameTooLong)
      else match d.find? (q ++ (init ++ [last])) with
        | some e => (d, if e.isDirectory then none else some .exists)
        | none =>
          if missing last = .notFound then (d.insert (q ++ (init ++ [last])) .directory, none)
          else (d, some .nameTooLong) := by
  have hempty := isEmpty_join_names p (by simp) h.plain
  have hmake : d.makeDirectory (p.join ⟨init ++ [last]⟩) =
      if (p.join ⟨init ++ [last]⟩).isLong then .error .nameTooLong
      else match d.find? (q ++ (init ++ [last])) with
        | some _ => .error .exists
        | none =>
          if missing last = .notFound then .ok (d.insert (q ++ (init ++ [last])) .directory)
          else .error .nameTooLong := by
    have hlocate : d.locateName (p.join ⟨init ++ [last]⟩) = d.locate .name (p.join ⟨init ++ [last]⟩) := by
      rw [locateName, h.withoutSlash_eq]
      rfl
    unfold makeDirectory make
    rw [hlocate]
    by_cases hlong : (p.join ⟨init ++ [last]⟩).isLong = true
    · rw [if_pos hlong, locate_of_refused (h.refused hlong)]
      rfl
    rw [if_neg hlong, h.locate_eq (by simpa using hlong)]
    cases hf : d.find? (q ++ (init ++ [last])) with
    | some e => simp [bind, Except.bind, hf]
    | none =>
      by_cases hroom : missing last = .notFound
      · simp [bind, Except.bind, hf, hroom]
      · simp [bind, Except.bind, hroom]
  rw [makeDirectories, ancestors, ancestorsFrom, makeLowest, hempty, ensureDirectory, hmake]
  by_cases hlong : (p.join ⟨init ++ [last]⟩).isLong = true
  · rw [if_pos hlong, if_pos hlong]
    rfl
  rw [if_neg hlong, if_neg hlong]
  cases hf : d.find? (q ++ (init ++ [last])) with
  | none => by_cases hroom : missing last = .notFound <;> simp [hroom, makeEach]
  | some e =>
    have hdir : d.hasDirectory (p.join ⟨init ++ [last]⟩) = e.isDirectory := by
      rw [hasDirectory, Disk.look, h.lookFor_eq (by simpa using hlong) .use hf]
      rfl
    rw [hdir]
    cases e <;> rfl

theorem retains (h : Inside d p q init last) (hnot : d.find? (q ++ (init ++ [last])) ≠ some .directory)
    (content : ByteArray) : Retains d (d.insert (q ++ (init ++ [last])) (.file content)) := by
  refine retains_insert ne_nil (fun e he => ?_) _
  cases e with
  | directory => exact absurd he hnot
  | file content => rfl
  | link target => exact absurd he (h.noLink target)

theorem insert_file (h : Inside d p q init last) (hnot : d.find? (q ++ (init ++ [last])) ≠ some .directory)
    (content : ByteArray) : Inside (d.insert (q ++ (init ++ [last])) (.file content)) p q init last := by
  have hretains := h.retains hnot content
  refine ⟨hretains.lookFor h.look (hretains.find? _ _ (lookFor_eq_ok.mp h.look).2 rfl),
    fun m hm => hretains.find? _ _ (h.down m hm) rfl, h.name, fun target => ?_⟩
  rw [find?_insert _ _ _ _ ne_nil, if_pos rfl]
  simp

/-- **Copying** a file to a name that is not its own. -/
theorem copyFile_eq (h : Inside d p q init last) {source : Path} {s : Place} {content : ByteArray}
    (hs : d.look source = .ok (s, .file content)) (hne : s ≠ q ++ (init ++ [last])) :
    d.copyFile source (p.join ⟨init ++ [last]⟩) =
      if (p.join ⟨init ++ [last]⟩).isLong then .error .nameTooLong
      else if d.find? (q ++ (init ++ [last])) = some .directory then .error .isDirectory
      else if (d.find? (q ++ (init ++ [last]))).isSome ∨ missing last = .notFound then
        .ok (d.insert (q ++ (init ++ [last])) (.file content))
      else .error .nameTooLong := by
  unfold copyFile
  rw [hs]
  simp only [bind, Except.bind]
  by_cases hlong : (p.join ⟨init ++ [last]⟩).isLong = true
  · rw [if_pos hlong, writeBytes, locate_of_refused (h.refused hlong)]
    rfl
  have hshort : (p.join ⟨init ++ [last]⟩).isLong = false := by simpa using hlong
  rw [if_neg hlong, h.writeBytes_eq hshort]
  by_cases hdir : d.find? (q ++ (init ++ [last])) = some .directory
  · rw [if_pos hdir, if_pos hdir]
  rw [if_neg hdir, if_neg hdir]
  by_cases hroom : (d.find? (q ++ (init ++ [last]))).isSome ∨ missing last = .notFound
  · have hlook : (d.insert (q ++ (init ++ [last])) (.file ByteArray.empty)).look source = .ok (s, .file content) := by
      refine (h.retains hdir _).lookFor hs ?_
      rw [find?_insert _ _ _ _ ne_nil, if_neg hne.symm]
      exact (lookFor_eq_ok.mp hs).2
    have hread : (d.insert (q ++ (init ++ [last])) (.file ByteArray.empty)).readBytes source = .ok content := by
      rw [readBytes, hlook]
      rfl
    rw [if_pos hroom, if_pos hroom]
    simp only [hread]
    rw [(h.insert_file hdir _).writeBytes_eq hshort, find?_insert _ _ _ _ ne_nil, if_pos rfl, if_neg (by simp),
      if_pos (by simp), insert_insert]
  · rw [if_neg hroom, if_neg hroom]

/-! ## The path above -/

theorem look_above (h : Inside d p q init last)
    (hinit : init ≠ [] → (p.join ⟨init⟩).isLong = false)
    (hempty : (p.join ⟨init ++ [last]⟩).above.isEmpty = false) :
    d.look (p.join ⟨init ++ [last]⟩).above = .ok (q ++ init, .directory) := by
  have hc := continues_names (by simp) h.plain
  have hplain : ∀ n ∈ init, IsPlainName n := fun n hn => h.plain n (List.mem_append_left _ hn)
  have hreach : d.Reaches q init := (reaches_names hplain).mpr fun m _ hm => h.down m hm
  obtain ⟨hlocate, hq⟩ := lookFor_eq_ok.mp h.look
  have hp := accepted_of_locate hlocate
  obtain ⟨l, hlp, hl, hway⟩ := exists_way_join h.look
  obtain ⟨k, idle, idle', hk, habove, hidle, hidle'⟩ := h.endsInStep.segments_above
  have hlast : (p.join ⟨init ++ [last]⟩).segments.dropLast = l ++ init := by
    rw [hl _ hc, ← List.append_assoc, List.dropLast_concat]
  have hshort : (p.join ⟨init ++ [last]⟩).above.isLong = false := by
    refine isLong_above h.endsInStep ?_
    rw [hlast]
    by_cases hnil : init = []
    · obtain ⟨m, hm⟩ := hlp
      have hlong := hp.not_long
      rw [show p = ⟨l ++ m⟩ from congrArg Path.mk hm.symm] at hlong
      rw [hnil, List.append_nil]
      exact isLong_of_left hlong
    · rw [← hl ⟨init⟩ (continues_names hnil hplain)]
      exact hinit hnil
  rw [hlast] at hk
  -- the way goes on by the names to the directory in which the last one is
  have hdown : Way d .use (q ++ init) linkLimit (p.start d.home) (l ++ init) := by
    by_cases hnil : init = []
    · rwa [hnil, List.append_nil, List.append_nil]
    · obtain ⟨links, hlinks⟩ := hway.continues hq
      have hresolve := @resolve_append d .use links q init hreach []
      rw [List.append_nil, resolve_nil, follow_names hplain] at hresolve
      exact way_of_resolve ((hlinks _ _ hnil).trans hresolve)
  rw [hk] at hdown
  have hdir := h.down init (List.prefix_refl _)
  have hstart : (p.join ⟨init ++ [last]⟩).above.start d.home = p.start d.home := by
    rw [h.endsInStep.start_above, start_join _ hc]
  refine lookFor_eq_ok.mpr ⟨locate_eq_ok.mpr ⟨⟨fun hnull => ?_, hempty, hshort⟩, ?_⟩, hdir⟩
  · obtain ⟨s, hs, hsnull⟩ := mem_text_null.mp hnull
    rw [habove, List.mem_append] at hs
    rcases hs with hs | hs
    · have hs : s ∈ l ++ init := hk ▸ List.mem_append_left _ hs
      rcases List.mem_append.mp hs with hs | hs
      · exact hp.noNull (mem_text_null.mpr ⟨s, hlp.subset hs, hsnull⟩)
      · exact (h.name s (List.mem_append_left _ hs)).no_null hsnull
    · simp [hidle' s hs] at hsnull
  · rw [hstart, habove]
    exact ((hdown.of_append (by simp) hidle).append hdir id fun s hs => by rw [hidle' s hs]; rfl).resolve

/-- For the path above **nothing has to be made**. -/
theorem makeDirectories_parent (h : Inside d p q init last)
    (hinit : init ≠ [] → (p.join ⟨init⟩).isLong = false) :
    ∃ parent, (p.join ⟨init ++ [last]⟩).parent? = some parent ∧ d.makeDirectories parent = (d, none) := by
  refine ⟨_, h.endsInStep.parent?_eq, ?_⟩
  cases hempty : (p.join ⟨init ++ [last]⟩).above.isEmpty with
  | true => exact makeDirectories_of_isEmpty hempty
  | false => exact makeDirectories_of_look (h.look_above hinit hempty)

end Inside

end SiteGen.Disk
