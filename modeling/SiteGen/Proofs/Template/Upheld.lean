import SiteGen.Proofs.Device.Files
import SiteGen.Proofs.Template.Beside

/-!
# Directories while templates are expanded

Whatever paths an override file gives, expanding its templates writes and removes files only: a tree stays a
tree, with all of its directories.

* `Path.prefix_or_ends`: where segments pass, they stay above their start or end in one of them.
* `Disk.Upheld`: a tree that has all directories of another disk.
* `Template.expand_upholds`, `Device.expandAll_upholds`: expanding templates upholds a tree.
-/

namespace SiteGen

open Disk SiteGen.Path Run

namespace Path

/-- Where segments lead to or pass on their way, is above the place where they start or **ends in one of
them**. -/
theorem prefix_or_ends {x : Place} : ∀ {l : List String} {place : Place},
    (x = follow place l ∨ x ∈ passed place l) → x <+: place ∨ ∃ r, ∃ name ∈ l, x = r ++ [name]
  | [], place, h => by
    rcases h with rfl | h
    · exact Or.inl (List.prefix_refl _)
    · cases h
  | segment :: rest, place, h => by
    have hrest : ∀ {a : Place}, (x = follow a rest ∨ x ∈ passed a rest) →
        x <+: a ∨ ∃ r, ∃ name ∈ segment :: rest, x = r ++ [name] := fun h =>
      (prefix_or_ends h).imp_right fun ⟨r, name, hm, hx⟩ => ⟨r, name, List.mem_cons_of_mem _ hm, hx⟩
    rw [follow, passed] at h
    split at h
    · exact hrest h
    · split at h
      · exact (hrest h).imp_left fun hx => hx.trans (List.dropLast_prefix _)
      · rw [List.mem_cons, or_left_comm] at h
        rcases h with rfl | h
        · exact Or.inr ⟨place, segment, List.mem_cons_self, rfl⟩
        · rcases hrest h with hx | hx
          · rcases List.prefix_concat_iff.mp hx with rfl | hx
            · exact Or.inr ⟨place, segment, List.mem_cons_self, rfl⟩
            · exact Or.inl hx
          · exact Or.inr hx

/-- Whether a path has segments, and they are **without slashes**. -/
structure Slashless (q : Path) : Prop where
  segments_ne_nil : q.segments ≠ []
  noSlash : ∀ s ∈ q.segments, '/' ∉ s.toList

theorem slashless_ofText (text : String) : Slashless (ofText text) :=
  ⟨segments_ofText_ne_nil text, fun _ hs => no_slash_of_mem_ofText hs⟩

theorem Slashless.join_cases {q : Path} (h : q.Slashless) (p : Path) :
    q.isAbsolute = true ∧ p.join q = q ∨ Continues q := by
  cases habs : q.isAbsolute with
  | true => exact Or.inl ⟨rfl, by rw [join, if_pos habs]⟩
  | false => exact Or.inr ⟨habs, h.segments_ne_nil⟩

theorem Slashless.join_name {q : Path} (h : q.Slashless) (p : Path) {name : String} (hn : IsPlainName name) :
    ∃ q', q'.Slashless ∧ (p.join ⟨[name]⟩).join q = p.join q' := by
  rcases h.join_cases (p.join ⟨[name]⟩) with ⟨habs, hjoin⟩ | hq
  · exact ⟨q, h, by rw [hjoin, join, if_pos habs]⟩
  · refine ⟨⟨name :: q.segments⟩, ⟨by simp, ?_⟩, ?_⟩
    · simpa using ⟨hn.no_slash, h.noSlash⟩
    · exact join_join (continues_single name) (by simpa using hn.ne_empty) hq

end Path

namespace Disk

variable {d₀ d d' : Disk} {p : Path}

variable {q : Path}

theorem Leads.grounded_slashless (h : d.Leads p) (hq : q.Slashless) : d.Grounded (p.join q) := by
  rcases hq.join_cases p with ⟨habs, hjoin⟩ | hq
  · refine ⟨[], q.segments, by rw [hjoin]; rfl, fun _ hx => by simp [passed] at hx, ?_⟩
    rw [hjoin, start, if_pos habs]
    exact find?_nil d
  · exact h.grounded_join hq

theorem Leads.admits_slashless (h : d.Leads p) (ht : d.IsTree) (hq : q.Slashless) :
    d.Admits (p.join q) := by
  -- what ends in a segment has no slash, and all above the start is there
  have hsegments : ∀ {place r : Place} {name : String}, (d.find? place).isSome →
      (r ++ [name] = follow place q.segments ∨ r ++ [name] ∈ passed place q.segments) →
      d.find? (r ++ [name]) = none → '/' ∉ name.toList := by
    intro place r name hplace hx hnone
    rcases prefix_or_ends hx with hpre | ⟨r', name', hm, heq⟩
    · rw [ht.find?_none hnone hpre] at hplace
      cases hplace
    · obtain ⟨-, hname⟩ := List.append_inj' heq rfl
      rw [(List.cons.inj hname).1]
      exact hq.noSlash _ hm
  intro r name hx hnone
  rw [trail, List.mem_cons] at hx
  rcases hq.join_cases p with ⟨habs, hjoin⟩ | hq
  · rw [hjoin, Path.place, start, if_pos habs] at hx
    exact hsegments (by rw [find?_nil]; rfl) hx hnone
  · rw [place_join d.home hq, passed_join d.home hq, List.mem_append, or_left_comm] at hx
    rcases hx with hx | hx
    · rw [h.reaches _ hx] at hnone
      cases hnone
    · exact hsegments (by rw [h.place]; rfl) hx hnone

/-- Whether a disk is a tree that **has all directories** of another one. -/
structure Upheld (d₀ d : Disk) : Prop where
  tree : d.IsTree
  home_eq : d.home = d₀.home
  dirs : DirsStay d₀ d

namespace Upheld

theorem refl (h : d.IsTree) : Upheld d d := ⟨h, rfl, fun _ hx => hx⟩

theorem trans (h : Upheld d₀ d) (h' : Upheld d d') : Upheld d₀ d' :=
  ⟨h'.tree, h'.home_eq.trans h.home_eq, fun x hx => h'.dirs x (h.dirs x hx)⟩

theorem leads (h : Upheld d₀ d) (hp : d₀.Leads p) : d.Leads p :=
  ⟨hp.noNull, fun x hx => h.dirs x (hp.onTrail x (h.home_eq ▸ hx))⟩

end Upheld

end Disk

namespace Template

variable {d₀ : Disk} {base source q : Path} {files : List Path} {t : Template}

/-! ## Writing below a directory -/

theorem putText_upholds (h : d₀.Leads base) (hq : q.Slashless) (text : String) :
    Keeps (Upheld d₀) (putText (base.join q) text) := by
  refine .change fun d d' hd hwrite => ?_
  have hleads := hd.leads h
  obtain ⟨x, hcalls, hnot, rfl⟩ := writeBytes_cases hd.tree (hleads.grounded_slashless hq) hwrite
  refine hd.trans ⟨?_, rfl, dirsStay_insert_file hcalls.ne_nil hnot _⟩
  exact hcalls.insert hd.tree (hleads.admits_slashless hd.tree hq) (by simp) fun hdir => absurd hdir hnot

theorem copyFile_upholds (h : d₀.Leads base) (source : Path) (hq : q.Slashless) :
    Keeps (Upheld d₀) (Run.change (·.copyFile source (base.join q))) := by
  refine .change fun d d' hd hcopy => ?_
  have hleads := hd.leads h
  obtain ⟨x, content, hcalls, hnot, ht, rfl, -⟩ := copyFile_cases hd.tree (hleads.grounded_slashless hq)
    (hleads.admits_slashless hd.tree hq) hcopy
  exact hd.trans ⟨ht, rfl, dirsStay_insert_insert hcalls.ne_nil hnot _ _⟩

theorem removeFile_upholds (h : d₀.Leads base) (hq : q.Slashless) :
    Keeps (Upheld d₀) (Run.change (·.removeFile (base.join q))) := by
  refine .change fun d d' hd hremove => ?_
  obtain ⟨x, hcalls, ⟨content, hfile⟩, rfl⟩ :=
    removeFile_cases hd.tree ((hd.leads h).grounded_slashless hq) hremove
  refine hd.trans ⟨hd.tree.erase hcalls.ne_nil (by rw [hfile]; simp), rfl, fun y hy => ?_⟩
  rw [find?_erase _ _ _ hcalls.ne_nil, if_neg]
  · exact hy
  · rintro rfl
    rw [hfile] at hy
    cases hy

/-! ## Expanding -/

theorem fill_upholds (hbase : d₀.Leads base) (habove : d₀.Leads source.above) (hq : q.Slashless)
    (hsource : source = base.join q)
    (hfiles : ∀ p ∈ files, ∃ name, p = source.above.join (ofText name)) :
    Keeps (Upheld d₀) (t.fill source files) := by
  unfold fill
  refine (Keeps.forM fun p hp => ?_).bind fun _ => (Keeps.forM fun r _ => ?_).bind fun _ =>
    .ite (fun _ => .pure _) fun _ => Keeps.bind ?_ fun _ => .pure _
  · obtain ⟨name, rfl⟩ := hfiles p hp
    unfold copyTo
    exact .ite (fun _ => .pure _) fun _ => copyFile_upholds habove source (slashless_ofText name)
  · rw [PositionalReplacement.apply_eq]
    refine .ite (fun _ => .fail _) fun _ => .forM fun (value, p) hx => ?_
    obtain ⟨name, rfl⟩ := hfiles p (List.of_mem_zip hx).2
    unfold PositionalReplacement.applyTo PositionalReplacement.applyToBy fileText
    refine (Keeps.bind (.inspect _) fun _ => .ite (fun _ => .query _) fun _ => .fail _).bind fun text => ?_
    exact putText_upholds habove (slashless_ofText name) _
  · subst hsource
    exact removeFile_upholds hbase hq

variable {directory : Path}

/-- **Expanding any template upholds a tree**, if it is called from where a path leads. -/
theorem expand_upholds (hdirectory : d₀.Leads directory) (hq : q.Slashless)
    (hsource : base.join t.source = directory.join q) :
    Keeps (Upheld d₀) (t.expand base) := by
  intro w hw
  rw [expand_on]
  split
  · next hfile =>
    have hleads := hw.leads hdirectory
    have hgrounded : w.disk.Grounded (base.join t.source) := hsource ▸ hleads.grounded_slashless hq
    obtain ⟨name, content, hname, -, hstands, -⟩ := hgrounded.stands_above hw.tree hfile
    have hfiles : ∀ p ∈ t.files (base.join t.source), ∃ name,
        p = (base.join t.source).above.join (ofText name) := by
      intro p hp
      obtain ⟨v, -, rfl⟩ := List.mem_map.mp hp
      refine ⟨t.pattern.filenameFor v, ?_⟩
      rw [pathFor, withName, hname.name?_eq, hname.endsInStep.parent?_eq]
      rfl
    refine hw.trans (fill_upholds hleads hstands.leads hq hsource hfiles (t.remarked w) ?_)
    rw [remarked_disk]
    exact .refl hw.tree
  · exact hw

end Template

/-- **Expanding any templates upholds a tree** in which there is the device. -/
theorem Device.expandAll_upholds {device : Device} {d₀ : Disk} (hdevice : d₀.Leads device.directory) :
    ∀ {templates : List Template}, (∀ t ∈ templates, ∃ text, t.source = ofText text) →
      Keeps (Upheld d₀) (device.expandAll templates)
  | [], _ => .pure _
  | t :: rest, h => by
    obtain ⟨text, htext⟩ := h t List.mem_cons_self
    obtain ⟨q, hq, hjoin⟩ := (slashless_ofText text).join_name device.directory isDiskName_config.toIsPlainName
    unfold expandAll
    refine (Template.expand_upholds hdevice hq (by rw [htext]; exact hjoin)).bind fun files => ?_
    exact (expandAll_upholds hdevice fun u hu => h u (List.mem_cons_of_mem _ hu)).bind fun others => .pure _

end SiteGen
