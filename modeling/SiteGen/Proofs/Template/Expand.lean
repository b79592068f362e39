import SiteGen.Proofs.Device.Files
import SiteGen.Proofs.Template.Beside

/-!
# Expanding templates within the configuration

Templates and the files made from them are called by paths from an override file. If these only have
names, expanding stays in the configuration.

* `Template.IsNormal`: the path of a template and the names of its files are normal.
* `Template.inConfig_pathFor`: the files made from a template are in the configuration.
* `Template.Touches`: what a template is about.
* `Template.expand_confined`, `Device.expandAll_confined`: expanding is confined to this.
-/

namespace SiteGen

namespace Path

theorem descends_cons {first : String} {rest : List String} (h : IsPlainName first)
    (hdots : ".." ∉ rest) (hslash : ∀ s ∈ rest, '/' ∉ s.toList) : Descends ⟨first :: rest⟩ := by
  refine ⟨⟨?_, by simp⟩, ?_, ?_⟩
  · rw [Bool.eq_false_iff, ne_eq, isAbsolute_iff]
    rintro ⟨s, l, hs⟩
    exact h.ne_empty (List.cons.inj hs).1
  · simpa [eq_comm] using ⟨h.ne_dots, hdots⟩
  · simpa using ⟨h.no_slash, hslash⟩

end Path

open Disk SiteGen.Path Run Device

variable {S : Scope} {home : Place} {base : Path}

/-! ## Paths in the configuration -/

/-- Whether a path goes down **into the configuration** of a device. -/
def InConfig (base p : Path) : Prop :=
  ∃ q, Descends q ∧ q.steps.head? = some configName ∧ p = base.join q

theorem inConfig_under {q : Path} (hq : Descends q) (hhead : q.steps.head? = some configName) :
    Under home base configName ((base.join q).place home) := by
  rw [place_down home hq]
  refine under_append (fun hnil => ?_) hhead
  rw [hnil] at hhead
  cases hhead

theorem inConfig_trail {q : Path} (hq : Descends q) (hhead : q.steps.head? = some configName)
    {x : Place} (hx : x ∈ (base.join q).trail home) : x ∈ base.trail home ∨ Outputs home base x := by
  rcases mem_trail_join home hq hx with hx | ⟨m, hne, ⟨l, hl⟩, rfl⟩
  · exact Or.inl hx
  · refine Or.inr (Or.inl (under_append hne ?_))
    rw [← hl] at hhead
    obtain ⟨first, rest, rfl⟩ := List.exists_cons_of_ne_nil hne
    simpa using hhead

theorem InConfig.trail {p : Path} (hs : Sees S home base) (h : InConfig base p) :
    ∀ x ∈ p.trail home, S.reads x := by
  obtain ⟨q, hq, hhead, rfl⟩ := h
  exact fun x hx => (inConfig_trail hq hhead hx).elim (hs.trail x) (hs.reads x)

theorem inConfig_join {q : Path} (hq : Descends q) :
    InConfig base ((base.join ⟨[configName]⟩).join q) := by
  obtain ⟨segments⟩ := q
  have hplain := isDiskName_config.toIsPlainName
  refine ⟨⟨configName :: segments⟩, descends_cons hplain hq.noDots hq.noSlash, ?_, ?_⟩
  · show (List.filter _ (configName :: segments)).head? = _
    rw [List.filter_cons_of_pos (by simpa using hplain.not_idle)]
    rfl
  · exact join_join (continues_single configName) (by simp [configName]) hq.toContinues

theorem InConfig.under {p : Path} (h : InConfig base p) : Under home base configName (p.place home) := by
  obtain ⟨q, hq, hhead, rfl⟩ := h
  exact inConfig_under hq hhead

/-! ## Writing in the configuration -/

theorem putText_inConfig (hs : Sees S home base) {p : Path} (h : InConfig base p)
    (hW : S.writes (p.place home)) (text : String) :
    Confined S (Stands home base) (putText p text) fun _ d => Stands home base d := by
  have htrail := h.trail hs
  obtain ⟨q, hq, -, rfl⟩ := h
  exact putText_confined hq (fun _ hd => hd) (fun _ _ => Or.inl hW) htrail text

theorem copyFile_inConfig (hs : Sees S home base) {source p : Path}
    (hsource : InConfig base source) (h : InConfig base p) (hW : S.writes (p.place home)) :
    Confined S (Stands home base) (Run.change (·.copyFile source p)) fun _ d => Stands home base d := by
  have htrail := h.trail hs
  obtain ⟨q, hq, -, rfl⟩ := h
  exact copyFile_confined hq (fun _ hd => hd) hW (fun _ => hsource.trail hs) htrail

theorem removeFile_inConfig (hs : Sees S home base) {p : Path} (h : InConfig base p)
    (hW : S.writes (p.place home)) :
    Confined S (Stands home base) (Run.change (·.removeFile p)) fun _ d => Stands home base d := by
  have htrail := h.trail hs
  obtain ⟨q, hq, -, rfl⟩ := h
  exact removeFile_confined hq (fun _ hd => hd) hW htrail

theorem PositionalReplacement.apply_confined (hs : Sees S home base) (r : PositionalReplacement)
    {files : List Path} (hfiles : ∀ p ∈ files, InConfig base p ∧ S.writes (p.place home)) :
    Confined S (Stands home base) (r.apply files) fun _ d => Stands home base d := by
  rw [PositionalReplacement.apply_eq]
  refine .ite (fun _ => .fail _) (fun _ => .forM ?_)
  rintro ⟨value, p⟩ hm
  obtain ⟨hp, hW⟩ := hfiles p (List.of_mem_zip hm).2
  unfold PositionalReplacement.applyTo PositionalReplacement.applyToBy
  exact (fileText_confined (fun d hd => ⟨hd.tree, hd.home_eq⟩) (hp.trail hs)).bind fun text =>
    (putText_inConfig hs hp hW _).pre fun d hd => hd.1

namespace Template

/-- Whether a template is **normal**: its path and the names of its files only have names. -/
structure IsNormal (t : Template) : Prop where
  source : t.source.IsNormal
  filename : ∀ v ∈ t.pattern.values, (Path.ofText (t.pattern.filenameFor v)).IsNormal

/-- Whether a template is called by a path that goes down, and its files by normal names. -/
structure Fits (t : Template) : Prop where
  source : Descends t.source
  filename : ∀ v ∈ t.pattern.values, (Path.ofText (t.pattern.filenameFor v)).IsNormal

/-- What a template is **about** in a configuration: its file, and the files made from it. -/
def Touches (t : Template) (home : Place) (config : Path) (q : Place) : Prop :=
  q = (config.join t.source).place home ∨
    ∃ v ∈ t.pattern.values, q = (t.pathFor (config.join t.source) v).place home

theorem source_concat {t : Template} (ht : t.Fits) {d : Disk} (hd : Stands home base d)
    (hfile : d.hasFile ((base.join ⟨[configName]⟩).join t.source) = true) :
    ∃ l m, t.source.segments = l ++ [m] ∧ isIdle m = false := by
  have hplain := isDiskName_config.toIsPlainName
  obtain ⟨q, hq, hhead, hjoin⟩ := @inConfig_join base _ ht.source
  have hsegs := (endsInStep_child (p := base) hplain).segments_join ht.source.toContinues
  rw [hjoin] at hfile hsegs
  unfold hasFile at hfile
  cases hl : d.look (base.join q) with
  | error fault => simp [hl, Except.toOption] at hfile
  | ok r =>
    obtain ⟨x, e⟩ := r
    simp only [hl, Except.toOption, Option.any_some] at hfile
    obtain ⟨-, -, hcase⟩ := lookFor_cases hd.tree (hd.leads.grounded_join hq.toContinues) hl
    rcases hcase with ⟨-, rfl⟩ | ⟨above, name, hends, -, -⟩
    · cases hfile
    · obtain ⟨l, hconcat, -⟩ := hends.concat
      rw [hconcat] at hsegs
      obtain ⟨k, m, hk⟩ := List.eq_nil_or_concat t.source.segments |>.resolve_left
        ht.source.segments_ne_nil
      rw [List.concat_eq_append] at hk
      rw [hk, ← List.append_assoc] at hsegs
      obtain ⟨-, hm⟩ := List.append_inj' hsegs rfl
      rw [← (List.cons.inj hm).1] at hk
      exact ⟨k, name, hk, hends.not_idle⟩

/-- **The files made from a template** are in the configuration. -/
theorem inConfig_pathFor {t : Template} (ht : t.Fits)
    (hsource : ∃ l m, t.source.segments = l ++ [m] ∧ isIdle m = false) {v : Scalar}
    (hv : v ∈ t.pattern.values) :
    InConfig base (t.pathFor ((base.join ⟨[configName]⟩).join t.source) v) := by
  have hplain := isDiskName_config.toIsPlainName
  have hstep := endsInStep_child (p := base) hplain
  obtain ⟨l, m, hl, hm⟩ := hsource
  have hmdots : m ≠ ".." := fun h => ht.source.noDots (by rw [hl, h]; simp)
  have hsegs := hstep.segments_join ht.source.toContinues
  rw [hl, ← List.append_assoc] at hsegs
  have hname := name?_concat hsegs hm hmdots
  have hdots : ".." ∉ trimIdle l := fun h =>
    ht.source.noDots (by rw [hl]; exact List.mem_append_left _ ((trimIdle_isPrefix l).subset h))
  have hslash : ∀ s ∈ trimIdle l, '/' ∉ s.toList := fun s hs => ht.source.noSlash s (by
    rw [hl]
    exact List.mem_append_left _ ((trimIdle_isPrefix l).subset hs))
  have hbody := descends_cons hplain hdots hslash
  have hparent : ((base.join ⟨[configName]⟩).join t.source).parent? =
      some (base.join ⟨configName :: trimIdle l⟩) := by
    have hp := parent?_append hstep l hm (List.forall_mem_nil _)
    have heq : (base.join ⟨[configName]⟩).join t.source =
        ⟨(base.join ⟨[configName]⟩).segments ++ (l ++ m :: [])⟩ :=
      congrArg Path.mk (hsegs.trans (List.append_assoc _ _ _))
    have hbase : base.join ⟨configName :: trimIdle l⟩ =
        ⟨(base.join ⟨[configName]⟩).segments ++ trimIdle l⟩ :=
      @join_append base [configName] (trimIdle l) (continues_single configName) hbody.toContinues
    rw [heq, hp, hbase]
  have hfile := (ht.filename v hv).descends
  refine ⟨⟨configName :: (trimIdle l ++ (Path.ofText (t.pattern.filenameFor v)).segments)⟩,
    descends_cons hplain ?_ fun s hs => ?_, ?_, ?_⟩
  · rw [List.mem_append, not_or]
    exact ⟨hdots, hfile.noDots⟩
  · exact (List.mem_append.mp hs).elim (hslash s) (hfile.noSlash s)
  · show (List.filter _ (configName :: _)).head? = _
    rw [List.filter_cons_of_pos (by simpa using hplain.not_idle)]
    rfl
  · rw [pathFor, withName, hname]
    simp only [Option.isSome_some, if_true]
    rw [hparent, Option.getD_some]
    generalize Path.ofText (t.pattern.filenameFor v) = file at hfile ⊢
    refine @join_join base _ file.segments hbody.toContinues (fun h => ?_) hfile.toContinues
    rcases List.eq_nil_or_concat (trimIdle l) with hnil | ⟨k, s, hk⟩
    · rw [hnil] at h
      exact absurd (Option.some.inj h) (by simp [configName])
    · rw [List.concat_eq_append] at hk
      have hlast : isIdle s = false := trimIdle_getLast (by rw [hk, List.getLast?_concat])
      rw [hk, ← List.cons_append, List.getLast?_concat] at h
      exact ne_empty_of_not_idle hlast (Option.some.inj h)

theorem fill_confined (hs : Sees S home base) {t : Template} {source : Path} (hsource : InConfig base source)
    (hW : S.writes (source.place home)) {files : List Path}
    (hfiles : ∀ p ∈ files, InConfig base p ∧ S.writes (p.place home)) :
    Confined S (Stands home base) (t.fill source files) fun _ d => Stands home base d := by
  have hcopy : Confined S (Stands home base) (files.forM (copyTo source))
      fun _ d => Stands home base d := by
    refine .forM fun p hp => ?_
    unfold copyTo
    exact .ite (fun _ => .pure fun _ hd => hd)
      (fun _ => copyFile_inConfig hs hsource (hfiles p hp).1 (hfiles p hp).2)
  have happly : Confined S (Stands home base) (t.replacements.forM (·.apply files))
      fun _ d => Stands home base d := .forM fun r _ => r.apply_confined hs hfiles
  exact hcopy.seq fun _ => happly.seq fun _ => .ite (fun _ => .pure fun _ hd => hd) fun _ =>
    (removeFile_inConfig hs hsource hW).seq fun _ => .pure fun _ hd => hd

/-- **Expanding a template** is confined to what it is about. -/
theorem expand_confined (hs : Sees S home base) {t : Template} (ht : t.Fits)
    (hW : ∀ q, Under home base configName q → t.Touches home (base.join ⟨[configName]⟩) q → S.writes q) :
    Confined S (Stands home base) (t.expand (base.join ⟨[configName]⟩))
      fun _ d => Stands home base d := by
  have hsource : InConfig base ((base.join ⟨[configName]⟩).join t.source) := inConfig_join ht.source
  unfold expand
  have hfile : Confined S (Stands home base)
      (Run.inspect (·.hasFile ((base.join ⟨[configName]⟩).join t.source))) fun b d =>
        Stands home base d ∧ (b = true → ∃ l m, t.source.segments = l ++ [m] ∧ isIdle m = false) := by
    refine (inspect_congr (fun d hd => ⟨hd.tree, hd.home_eq⟩) (hsource.trail hs)
      fun _ _ h hS hx => hasFile_congr h hS hx).post fun b d hd => ⟨hd.1, ?_⟩
    rintro rfl
    exact source_concat ht hd.1 hd.2
  refine hfile.bind fun b => .of_pre fun hb => .ite (fun _ => .fail _) (fun hb' => ?_)
  have hconcat := hb (by simpa using hb')
  have hfiles : ∀ p ∈ t.files ((base.join ⟨[configName]⟩).join t.source),
      InConfig base p ∧ S.writes (p.place home) := by
    intro p hp
    obtain ⟨v, hv, rfl⟩ := List.mem_map.mp hp
    have hin := @inConfig_pathFor base _ ht hconcat _ hv
    exact ⟨hin, hW _ hin.under (Or.inr ⟨v, hv, rfl⟩)⟩
  have hfill := fill_confined hs (t := t) hsource (hW _ hsource.under (Or.inl rfl)) hfiles
  by_cases hempty : t.pattern.values.isEmpty = true
  · simp only [hempty, if_true]
    exact (Confined.warn _).seq fun _ => hfill
  · simp only [hempty]
    exact hfill

end Template

/-- **Expanding templates** is confined to what they are about. -/
theorem Device.expandAll_confined {device : Device} (hs : Sees S home device.directory) :
    ∀ {templates : List Template}, (∀ t ∈ templates, t.Fits) →
      (∀ q, Under home device.directory configName q → (∃ t ∈ templates, t.Touches home device.config q) →
        S.writes q) →
      Confined S (Stands home device.directory) (device.expandAll templates)
        fun _ d => Stands home device.directory d
  | [], _, _ => .pure fun _ hd => hd
  | t :: rest, h, hW => by
    unfold expandAll
    refine (Template.expand_confined hs (h t List.mem_cons_self) fun x hx ht =>
      hW x hx ⟨t, List.mem_cons_self, ht⟩).seq fun files => ?_
    refine (expandAll_confined hs (fun u hu => h u (List.mem_cons_of_mem _ hu)) fun x hx ht => ?_).seq
      fun others => ?_
    · obtain ⟨u, hu, ht⟩ := ht
      exact hW x hx ⟨u, List.mem_cons_of_mem _ hu, ht⟩
    · exact .pure fun _ hd => hd

end SiteGen
