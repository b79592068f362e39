import SiteGen.Proofs.Disk.Pave

/-!
# Making a directory, whatever its path

A path to a directory that is to be made may have dots in it, and may go up again from something that
is missing. What is made is on the trail of the path all the same.

* `Path.passed_of_mem_ancestors`: the paths above a path pass only where it passes.
* `Disk.ensureDirectory_cases`: what it takes to make a single directory.
* `Disk.makeDirectories_grows`: making a directory and those above it adds only directories that the
  path passes; if it succeeds, the path leads there.
-/

namespace SiteGen

namespace Path

/-! ## Where the paths above a path pass -/

variable {p a : Path} {home : Place}

theorem passed_subset {l m : List String} (h : l <+: m) (place : Place) :
    passed place l ⊆ passed place m := by
  obtain ⟨rest, rfl⟩ := h
  rw [passed_append]
  exact List.subset_append_left _ _

theorem parent?_cases (h : p.parent? = some a) :
    a = ⟨[""]⟩ ∨ ∃ body, body <+: p.segments.drop p.head.2 ∧ a = ofHead p.head.1 body := by
  unfold parent? at h
  simp only at h
  split at h
  · exact Or.inl (Option.some.inj h).symm
  · cases h
  · refine Or.inr ⟨_, ?_, (Option.some.inj h).symm⟩
    exact (trimIdle_isPrefix _).trans ((List.dropLast_prefix _).trans (trimIdle_isPrefix _))

theorem passed_empty (place : Place) : passed place [""] = [] := by simp [passed, isIdle]

theorem passed_parent (h : p.parent? = some a) :
    passed (a.start home) a.segments ⊆ passed (p.start home) p.segments := by
  rcases parent?_cases h with rfl | ⟨body, hbody, rfl⟩
  · rw [passed_empty]
    exact List.nil_subset _
  · rcases head_cases p with ⟨habs, hh, hs⟩ | ⟨habs, hh, hs⟩ | ⟨habs, hh⟩
    · -- from the root
      rw [hh] at hbody ⊢
      have hroot : ∀ l : List String, passed [] ("" :: l) = passed [] l := fun l => by
        rw [passed, if_pos (by decide)]
      rw [start, start, habs, if_pos rfl, hs, hroot]
      have hstart : (ofHead [Part.root] body).isAbsolute = true := by
        cases body <;> rfl
      rw [hstart, if_pos rfl, ofHead, hroot]
      split
      · rw [passed_empty]
        exact List.nil_subset _
      · exact passed_subset hbody _
    · -- from a dot
      rw [hh] at hbody ⊢
      have hdot : ∀ (place : Place) (l : List String), passed place ("." :: l) = passed place l :=
        fun place l => by rw [passed, if_pos (by decide)]
      rw [start, start, habs, hs, hdot]
      exact (hdot _ body).symm ▸ passed_subset hbody _
    · rw [hh] at hbody ⊢
      rw [List.drop_zero] at hbody
      have hstart : (ofHead [] body).isAbsolute = false := by
        obtain ⟨rest, hrest⟩ := hbody
        rcases body with _ | ⟨first, _ | ⟨second, others⟩⟩
        · rfl
        · simp [ofHead, isAbsolute]
        · rw [Bool.eq_false_iff, ne_eq, isAbsolute_iff] at habs ⊢
          rintro ⟨s, l, hl⟩
          obtain ⟨rfl, -⟩ := List.cons.inj (show first :: second :: others = "" :: s :: l from hl)
          exact habs ⟨second, others ++ rest, hrest.symm⟩
      have hbegin : passed home (ofHead [] body).segments ⊆ passed home p.segments := by
        show passed home (if body.isEmpty then [""] else body) ⊆ _
        split
        · rw [passed_empty]
          exact List.nil_subset _
        · exact passed_subset hbody _
      rw [start, start, habs, hstart]
      exact hbegin

theorem passed_of_mem_ancestors : ∀ {n : Nat} {p : Path}, a ∈ ancestorsFrom n p →
    passed (a.start home) a.segments ⊆ passed (p.start home) p.segments
  | 0, _, h => by simp [ancestorsFrom] at h
  | n + 1, p, h => by
    rw [ancestorsFrom, List.mem_cons] at h
    rcases h with rfl | h
    · exact List.Subset.refl _
    · cases hp : p.parent? with
      | none => simp [hp] at h
      | some q =>
        rw [hp] at h
        exact List.Subset.trans (passed_of_mem_ancestors h) (passed_parent hp)

/-! ## Paths without slashes at their end -/

theorem trimSlashes_append (l : List String) :
    ∃ k, l = trimSlashes l ++ List.replicate k "" := by
  refine ⟨(l.rtakeWhile (· == "")).length, ?_⟩
  have h : l = trimSlashes l ++ l.rtakeWhile (· == "") :=
    (List.rdropWhile_append_rtakeWhile ..).symm
  rwa [← List.eq_replicate_length.mpr fun s hs => by simpa using List.mem_rtakeWhile_imp hs]

theorem segments_withoutSlash (p : Path) :
    ∃ k, p.segments = (Disk.withoutSlash p).segments ++ List.replicate k "" := by
  unfold Disk.withoutSlash
  split
  · next habs =>
    obtain ⟨s, rest, hs⟩ := isAbsolute_iff.mp habs
    obtain ⟨k, hk⟩ := trimSlashes_append (p.segments.drop 1)
    refine ⟨k, ?_⟩
    rw [List.cons_append, ← hk, hs]
    rfl
  · exact trimSlashes_append p.segments

end Path

namespace Disk

open SiteGen.Path

variable {d d' d₁ : Disk} {p : Path}

/-! ## Single directories -/

/-- Where the home directory is there, every path is **grounded**. -/
theorem grounded_of_home (h : d.find? d.home = some .directory) (p : Path) : d.Grounded p := by
  refine ⟨[], p.segments, rfl, fun _ hq => by simp [passed] at hq, ?_⟩
  show d.find? (p.start d.home) = _
  rw [start]
  split
  · exact find?_nil d
  · exact h

/-- The places that a path **passes**. -/
def Passes (home : Place) (p : Path) (q : Place) : Prop := q ∈ passed (p.start home) p.segments

theorem ensureDirectory_ok (h : d.ensureDirectory p = .ok d') :
    d.hasDirectory p = true ∧ d' = d ∨ d.makeDirectory p = .ok d' := by
  unfold ensureDirectory at h
  split at h
  · split at h
    · next hdir => exact Or.inl ⟨hdir, (Except.ok.inj h).symm⟩
    · cases h
  · exact Or.inr h

/-- When a path **ends in a name** that has a place. -/
theorem locateName_eq_ok {q : Place} : d.locateName p = .ok q ↔
    p.Accepted ∧ d.resolve .name linkLimit (p.start d.home) (withoutSlash p).segments = .ok q := by
  unfold locateName
  cases ha : p.accept with
  | error fault =>
    refine ⟨nofun, fun h => ?_⟩
    rw [accept_eq_ok.mpr h.1] at ha
    cases ha
  | ok u => exact ⟨fun h => ⟨accept_eq_ok.mp ha, h⟩, And.right⟩

theorem makeDirectory_ok (h : d.makeDirectory p = .ok d') :
    ∃ q, d.locateName p = .ok q ∧ d.find? q = none ∧ d' = d.insert q .directory := by
  unfold makeDirectory make at h
  cases hl : d.locateName p with
  | error fault => simp [hl, bind, Except.bind] at h
  | ok q =>
    simp only [hl, bind, Except.bind] at h
    cases hf : d.find? q with
    | some e => simp [hf] at h
    | none =>
      simp only [hf] at h
      exact ⟨q, rfl, hf, (Except.ok.inj h).symm⟩

theorem calls_of_locateName (ht : d.IsTree) (hhome : d.find? d.home = some .directory) {q : Place}
    (h : d.locateName p = .ok q) (hnone : d.find? q = none) :
    d.Calls p q ∧ Passes d.home p q ∧ ∃ above name, q = above ++ [name] ∧ name ∈ p.segments ∧
      d.find? above = some .directory ∧ ('/' ∉ name.toList → IsDiskName name) := by
  obtain ⟨haccepted, hres⟩ := locateName_eq_ok.mp h
  obtain ⟨k, hk⟩ := segments_withoutSlash p
  have hidle : ∀ s ∈ List.replicate k "", isIdle s = true := fun s hs => by
    rw [(List.mem_replicate.mp hs).2]
    rfl
  have hstart : d.find? (p.start d.home) = some .directory := by
    rw [start]
    split
    · exact find?_nil d
    · exact hhome
  rcases resolve_cases ht hstart hres with
    ⟨-, -, hdir⟩ | ⟨l, name, hl, hn, hup, hr, habove, rfl, -⟩
  · rw [hnone] at hdir
    cases hdir
  rw [hl, List.append_assoc] at hk
  -- beyond the name nothing is passed
  have hpassed : passed (p.start d.home) p.segments =
      passed (p.start d.home) l ++ [follow (p.start d.home) l ++ [name]] := by
    rw [hk, passed_append, List.singleton_append, passed, if_neg (by simp [hn]), if_neg hup, passed_idle hidle]
  have hplace : p.place d.home = follow (p.start d.home) l ++ [name] := by
    rw [place, hk, follow_append, List.singleton_append, follow_name hn hup, follow_idle hidle]
  have hname : '/' ∉ name.toList → IsDiskName name := fun hslash => by
    refine ⟨⟨?_, ?_, hup, hslash⟩, fun hc => haccepted.noNull (mem_text_null.mpr ⟨name, by simp [hk], hc⟩)⟩
    · rintro rfl
      exact absurd hn (by decide)
    · rintro rfl
      exact absurd hn (by decide)
  refine ⟨⟨haccepted.noNull, hplace, ?_, fun x hx => ?_, _, name, rfl, habove, hname⟩, ?_,
    _, name, rfl, by simp [hk], habove, hname⟩
  · rw [← hplace]
    exact List.mem_cons_self
  · rcases List.mem_cons.mp hx with rfl | hx
    · exact Or.inr hplace
    · rw [hpassed, List.mem_append, List.mem_singleton] at hx
      exact hx.imp_left (hr x)
  · rw [Passes, hpassed]
    simp

/-- What it takes to make a **single directory**: it is there already, or the path ends in a name at
which nothing is. -/
theorem ensureDirectory_cases (ht : d.IsTree) (hhome : d.find? d.home = some .directory)
    (hslash : ∀ s ∈ p.segments, '/' ∉ s.toList) (h : d.ensureDirectory p = .ok d') :
    d'.Leads p ∧ (d' = d ∨ ∃ above name, Passes d.home p (above ++ [name]) ∧
      d.find? above = some .directory ∧ d.find? (above ++ [name]) = none ∧ IsDiskName name ∧
      d' = d.insert (above ++ [name]) .directory) := by
  rcases ensureDirectory_ok h with ⟨hdir, rfl⟩ | hmake
  · exact ⟨(leads_of_hasDirectory ht.noLink hdir).1, Or.inl rfl⟩
  obtain ⟨q, hl, hnone, rfl⟩ := makeDirectory_ok hmake
  obtain ⟨hcalls, hpasses, above, name, rfl, hmem, habove, hname⟩ := calls_of_locateName ht hhome hl hnone
  exact ⟨hcalls.leads_insert, Or.inr ⟨above, name, hpasses, habove, hnone, hname (hslash name hmem), rfl⟩⟩

theorem ensureDirectory_grows (ht : d.IsTree) (hhome : d.find? d.home = some .directory)
    (hslash : ∀ s ∈ p.segments, '/' ∉ s.toList) (h : d.ensureDirectory p = .ok d') :
    d'.IsTree ∧ Grows (Passes d.home p) d d' ∧ d'.Leads p := by
  obtain ⟨hleads, rfl | ⟨above, name, hpasses, habove, hnone, hname, rfl⟩⟩ :=
    ensureDirectory_cases ht hhome hslash h
  · exact ⟨ht, Grows.refl _ _, hleads⟩
  · refine ⟨ht.insert habove hname (by simp) fun _ => rfl, ⟨rfl, fun q => ?_⟩, hleads⟩
    rw [find?_insert _ _ _ _ (concat_ne_nil above name)]
    split
    · next hq =>
      subst hq
      exact Or.inr ⟨hpasses, hnone, rfl⟩
    · exact Or.inl rfl

/-! ## Directories and those above them -/

/-- Whether some paths may be those of directories to be made on the way to another one. -/
def Above (home : Place) (p : Path) (l : List Path) : Prop :=
  ∀ a ∈ l, (∀ s ∈ a.segments, '/' ∉ s.toList) ∧ ∀ q, Passes home a q → Passes home p q

/-- Making nested directories **one after the other**. -/
theorem makeEach_grows : ∀ {l : List Path} {d : Disk}, d.IsTree → d.find? d.home = some .directory →
    Above d.home p l → (d.makeEach l).1.IsTree ∧ Grows (Passes d.home p) d (d.makeEach l).1 ∧
      ((d.makeEach l).2 = none → ∀ a ∈ l, (d.makeEach l).1.Leads a)
  | [], d, ht, _, _ => ⟨ht, Grows.refl _ _, fun _ => by simp⟩
  | a :: l, d, ht, hhome, hl => by
    obtain ⟨hslash, hpasses⟩ := hl a List.mem_cons_self
    rw [makeEach]
    cases he : d.ensureDirectory a with
    | error fault => exact ⟨ht, Grows.refl _ _, by simp⟩
    | ok d' =>
      obtain ⟨ht', hgrows, hleads⟩ := ensureDirectory_grows ht hhome hslash he
      have hgrows' := hgrows.mono hpasses
      obtain ⟨htree, hmore, hall⟩ := @makeEach_grows l d' ht' (hgrows.home ▸ hgrows.keeps hhome)
        (hgrows.home ▸ fun b hb => hl b (List.mem_cons_of_mem _ hb))
      rw [hgrows.home] at hmore
      refine ⟨htree, hgrows'.trans hmore, fun hnone b hb => ?_⟩
      rcases List.mem_cons.mp hb with rfl | hb
      · exact hmore.leads hleads
      · exact hall hnone b hb

/-- Making the **first directory** that can be made: the others are still lacking. -/
theorem makeLowest_grows : ∀ {l lacking : List Path} {d d' : Disk} {rest : List Path}, d.IsTree →
    d.find? d.home = some .directory → Above d.home p l →
    d.makeLowest l lacking = .ok (d', rest) →
      d'.IsTree ∧ Grows (Passes d.home p) d d' ∧
        (∀ a ∈ rest, a ∈ lacking ∨ a ∈ l) ∧ (∀ a ∈ lacking, a ∈ rest) ∧
        (∀ a, l.head? = some a → a.isEmpty = false → d'.Leads a ∨ a ∈ rest)
  | [], lacking, d, d', rest, ht, _, _, h => by
    obtain ⟨rfl, rfl⟩ := Prod.mk.inj (Except.ok.inj h)
    exact ⟨ht, Grows.refl _ _, fun _ => Or.inl, fun _ => id, by simp⟩
  | a :: l, lacking, d, d', rest, ht, hhome, hl, h => by
    obtain ⟨hslash, hpasses⟩ := hl a List.mem_cons_self
    rw [makeLowest] at h
    split at h
    · next hempty =>
      obtain ⟨rfl, rfl⟩ := Prod.mk.inj (Except.ok.inj h)
      refine ⟨ht, Grows.refl _ _, fun _ => Or.inl, fun _ => id, fun b hb hne => ?_⟩
      obtain rfl := Option.some.inj hb
      rw [hempty] at hne
      cases hne
    · split at h
      · next d₁ he =>
        obtain ⟨rfl, rfl⟩ := Prod.mk.inj (Except.ok.inj h)
        obtain ⟨ht', hgrows, hleads⟩ := ensureDirectory_grows ht hhome hslash he
        refine ⟨ht', hgrows.mono hpasses, fun _ => Or.inl, fun _ => id, fun b hb _ => ?_⟩
        obtain rfl := Option.some.inj hb
        exact Or.inl hleads
      · obtain ⟨ht', hgrows, hfrom, hto, -⟩ := makeLowest_grows ht hhome
          (fun b hb => hl b (List.mem_cons_of_mem _ hb)) h
        refine ⟨ht', hgrows, fun b hb => ?_, fun b hb => hto b (List.mem_cons_of_mem _ hb),
          fun b hb _ => ?_⟩
        · rcases hfrom b hb with hb | hb
          · rcases List.mem_cons.mp hb with rfl | hb
            · exact Or.inr List.mem_cons_self
            · exact Or.inl hb
          · exact Or.inr (List.mem_cons_of_mem _ hb)
        · obtain rfl := Option.some.inj hb
          exact Or.inr (hto _ List.mem_cons_self)
      · cases h

theorem mem_parent {a : Path} {s : String} (h : p.parent? = some a) (hs : s ∈ a.segments) :
    s = "" ∨ s = "." ∨ s ∈ p.segments := by
  rcases parent?_cases h with rfl | ⟨body, hbody, rfl⟩
  · exact Or.inl (List.mem_singleton.mp hs)
  · have hmem : s ∈ body → s ∈ p.segments := fun h => List.mem_of_mem_drop (hbody.subset h)
    have hfilled : s ∈ (if body.isEmpty then [""] else body) → s = "" ∨ s ∈ body := fun hs => by
      split at hs
      · exact Or.inl (List.mem_singleton.mp hs)
      · exact Or.inr hs
    rcases head_cases p with ⟨-, hh, -⟩ | ⟨-, hh, -⟩ | ⟨-, hh⟩
    · rw [hh] at hs
      rcases List.mem_cons.mp hs with hs | hs
      · exact Or.inl hs
      · exact (hfilled hs).imp_right fun h => Or.inr (hmem h)
    · rw [hh] at hs
      rcases List.mem_cons.mp hs with hs | hs
      · exact Or.inr (Or.inl hs)
      · exact Or.inr (Or.inr (hmem hs))
    · rw [hh] at hs
      exact (hfilled hs).imp_right fun h => Or.inr (hmem h)

theorem noSlash_of_mem_ancestors {a : Path} : ∀ {n : Nat} {p : Path},
    (∀ s ∈ p.segments, '/' ∉ s.toList) → a ∈ ancestorsFrom n p → ∀ s ∈ a.segments, '/' ∉ s.toList
  | 0, _, _, h => by simp [ancestorsFrom] at h
  | n + 1, p, hp, h => by
    rw [ancestorsFrom, List.mem_cons] at h
    rcases h with rfl | h
    · exact hp
    · cases hparent : p.parent? with
      | none => simp [hparent] at h
      | some q =>
        rw [hparent] at h
        refine noSlash_of_mem_ancestors (fun s hs => ?_) h
        rcases mem_parent hparent hs with rfl | rfl | hs
        · decide
        · decide
        · exact hp s hs

/-- **Making a directory and those above it** adds only directories that the path passes; if it
succeeds, the path leads there. -/
theorem makeDirectories_grows (ht : d.IsTree) (hhome : d.find? d.home = some .directory)
    (hslash : ∀ s ∈ p.segments, '/' ∉ s.toList) (hne : p.isEmpty = false) :
    (d.makeDirectories p).1.IsTree ∧ Grows (Passes d.home p) d (d.makeDirectories p).1 ∧
      ((d.makeDirectories p).2 = none → (d.makeDirectories p).1.Leads p) := by
  have habove : Above d.home p p.ancestors := fun a ha =>
    ⟨noSlash_of_mem_ancestors hslash ha, fun _ hq => passed_of_mem_ancestors ha hq⟩
  unfold makeDirectories
  cases hl : d.makeLowest p.ancestors [] with
  | error fault => exact ⟨ht, Grows.refl _ _, by simp⟩
  | ok r =>
    obtain ⟨d₁, rest⟩ := r
    obtain ⟨ht₁, hgrows, hfrom, -, hfirst⟩ := makeLowest_grows ht hhome habove hl
    obtain ⟨htree, hmore, hall⟩ := @makeEach_grows p rest d₁ ht₁ (hgrows.home ▸ hgrows.keeps hhome)
      (hgrows.home ▸ fun a ha => habove a ((hfrom a ha).resolve_left (by simp)))
    rw [hgrows.home] at hmore
    refine ⟨htree, hgrows.trans hmore, fun hnone => ?_⟩
    rcases hfirst p rfl hne with hleads | hrest
    · exact hmore.leads hleads
    · exact hall hnone p hrest

end Disk

end SiteGen
