import SiteGen.Proofs.Replacement.Positional
import SiteGen.Proofs.Template.Beside

/-!
# The files of a template

A template is copied once for each value, the replacements are carried out in the copies, and in the end
it is removed, unless a copy has its name.

* `Template.copies_ends`, `copies_succeed`: the template is copied to each of the names.
* `Template.rewrites_ends`, `rewrites_succeed`: the replacements are carried out in the copies.
* `Template.Filled`, `Template.fill_fills`, `fill_succeeds`: the files when the template has been removed.
* `Template.fill_mismatch`: what is left when a replacement has not as many values as there are files.
-/

namespace SiteGen

open Disk SiteGen.Path Run PositionalReplacement

namespace Disk

variable {home : Place} {p : Path} {names : List String} {content : ByteArray} {d₀ d d' : Disk} {f : String}

/-- **One more file** with the same content. -/
theorem Holding.extend (h : Holding home p names (fun _ => content) d₀ d) (hstands : Stands home p d')
    (hfind : ∀ x, d'.find? x =
      if p.place home ++ [f] = x then some (.file content) else d.find? x) :
    Holding home p (names ++ [f]) (fun _ => content) d₀ d' := by
  refine ⟨hstands, fun i name hi => ?_, fun q hq => ?_⟩
  · rw [hfind]
    split
    · rfl
    · next hne =>
      rcases List.mem_append.mp (List.mem_of_getElem? hi) with hm | hm
      · obtain ⟨j, hj⟩ := List.mem_iff_getElem?.mp hm
        exact h.file j name hj
      · rw [List.mem_singleton.mp hm] at hne
        exact absurd rfl hne
  · rw [hfind, if_neg, h.other q fun name hm => hq name (List.mem_append_left _ hm)]
    exact fun heq => hq f (List.mem_append_right _ (List.mem_singleton_self f)) heq.symm

theorem Holding.find?_of_same (h : Holding home p names (fun _ => content) d₀ d)
    (hf : d₀.find? (p.place home ++ [f]) = some (.file content)) :
    d.find? (p.place home ++ [f]) = some (.file content) := by
  by_cases hm : f ∈ names
  · obtain ⟨i, hi⟩ := List.mem_iff_getElem?.mp hm
    exact h.file i f hi
  · rw [h.other _ fun n hn heq => hm ?_, hf]
    rw [concat_injective _ heq]
    exact hn

end Disk

namespace Template

variable {t : Template} {home : Place} {source : Path} {name f : String} {d₀ : Disk} {content : ByteArray}
  {names : List String}

/-- Whether a template is **found**: its path ends in a name in a directory that stands, and a file with
the content is there. -/
structure Found (home : Place) (source : Path) (name : String) (content : ByteArray) (d : Disk) : Prop where
  endsInName : source.EndsInName name
  accepted : source.Accepted
  stands : Stands home source.above d
  file : d.find? (source.above.place home ++ [name]) = some (.file content)

/-- The paths of **names beside** a template. -/
def siblings (source : Path) (names : List String) : List Path := names.map fun f => source.above.join ⟨[f]⟩

theorem Found.place_eq (hs : Found home source name content d₀) {d : Disk}
    (h : Stands home source.above d) : source.place d.home = source.above.place home ++ [name] := by
  rw [← h.home_eq]
  exact (endsIn_of_above hs.endsInName hs.accepted.noNull h.leads).place_eq

/-- What is **at the template** is found, as long as its directory stands. -/
theorem Found.lookFor (hs : Found home source name content d₀) {d : Disk}
    (h : Stands home source.above d) {purpose : Purpose} {e : Entry}
    (he : d.find? (source.above.place home ++ [name]) = some e) :
    d.lookFor purpose source = .ok (source.above.place home ++ [name], e) := by
  rw [← h.home_eq] at he ⊢
  exact lookFor_beside h.tree hs.endsInName hs.accepted h.leads he

/-- A sibling is the template only if it **has its name**. -/
theorem Found.same_iff (hs : Found home source name content d₀) (hf : IsPlainName f) :
    (source.above.join ⟨[f]⟩).same source = true ↔ f = name := by
  rw [← hs.endsInName.withName_eq hf]
  exact hs.endsInName.same_withName hf

/-! ## Copying -/

theorem copyTo_ends (hs : Found home source name content d₀) (hf : IsPlainName f) :
    Ends (Holding home source.above names (fun _ => content) d₀)
      (copyTo source (source.above.join ⟨[f]⟩)) fun _ d =>
        Holding home source.above (names ++ [f]) (fun _ => content) d₀ d := by
  unfold copyTo
  refine .ite (fun hsame => .pure fun d hd => hd.extend hd.stands fun x => ?_) fun hdiffer =>
    .change fun d d' hd hcopy => ?_
  · split
    · next hx =>
      rw [← hx, (hs.same_iff hf).mp hsame]
      exact hd.find?_of_same hs.file
    · rfl
  · obtain ⟨hstands, -, content', hfind, hread⟩ := hd.stands.copyFile (descends_single hf) hcopy
    rw [place_child home hf] at hfind hread
    rw [← hd.stands.home_eq, hs.place_eq hd.stands, hd.stands.home_eq, hd.find?_of_same hs.file] at hread
    obtain rfl : content = content' :=
      Entry.file.inj (Option.some.inj (hread fun heq =>
        hdiffer ((hs.same_iff hf).mpr (concat_injective _ heq).symm)))
    exact hd.extend hstands hfind

/-- Whether names **fit** beside a template: they can be on a disk, and neither they nor their paths are too
long. -/
structure Fitting (source : Path) (names : List String) : Prop where
  name : ∀ f ∈ names, IsDiskName f
  room : ∀ f ∈ names, f.utf8ByteSize ≤ nameLimit
  short : ∀ f ∈ names, (source.above.join ⟨[f]⟩).isLong = false

theorem Fitting.plain (h : Fitting source names) : ∀ f ∈ names, IsPlainName f :=
  fun f hf => (h.name f hf).toIsPlainName

/-- Copying the template to a name **succeeds** if the name fits and no directory is there. -/
theorem copyTo_succeeds (hs : Found home source name content d₀) (hf : IsDiskName f)
    (hroom : f.utf8ByteSize ≤ nameLimit) (hshort : (source.above.join ⟨[f]⟩).isLong = false)
    (hfree : d₀.find? (source.above.place home ++ [f]) ≠ some .directory) :
    Succeeds (Holding home source.above names (fun _ => content) d₀)
      (copyTo source (source.above.join ⟨[f]⟩)) := by
  unfold copyTo
  refine .ite (fun _ => .pure _) fun hdiffer => .change fun d hd => ?_
  have hne : source.above.place home ++ [name] ≠ source.above.place home ++ [f] := fun heq =>
    hdiffer ((hs.same_iff hf.toIsPlainName).mpr (concat_injective _ heq).symm)
  have hfree' : d.find? (source.above.place home ++ [f]) ≠ some .directory := by
    rcases hd.find?_cases f with ⟨content', h⟩ | h
    · rw [h]
      simp
    · rwa [h]
  have hlook : d.lookFor .use source =
      .ok (source.above.place home ++ [name], .file content) :=
    hs.lookFor hd.stands (hd.find?_of_same hs.file)
  rw [← hd.stands.home_eq] at hne hfree' hlook
  have hmissing : missing f = .notFound := if_neg (by omega)
  rw [copyFile_child hd.stands.tree hd.stands.leads hf hlook hne, hshort, if_neg Bool.false_ne_true,
    if_neg hfree', hmissing, beq_self_eq_true, Bool.or_true, if_pos rfl]
  exact ⟨_, rfl⟩

theorem Found.holding_nil (hs : Found home source name content d₀) :
    Holding home source.above [] (fun _ => content) d₀ d₀ := ⟨hs.stands, by simp, fun _ _ => rfl⟩

/-- **The copies**: all files have the content of the template. -/
theorem copies_ends (hs : Found home source name content d₀) (hn : ∀ f ∈ names, IsPlainName f) :
    Ends (· = d₀) ((siblings source names).forM (copyTo source)) fun _ d =>
      Holding home source.above names (fun _ => content) d₀ d := by
  rw [siblings, List.forM_eq_forM, List.forM_map]
  exact (@Ends.forM _ (fun f => copyTo source (source.above.join ⟨[f]⟩))
    (fun done d => Holding home source.above done (fun _ => content) d₀ d) [] names
    fun m f rest heq => copyTo_ends hs (hn f (mem_of_step heq))).imp
      (fun d hd => hd ▸ hs.holding_nil) fun _ d hd => hd

/-- Copying **succeeds** if the names fit and no directory is in the way. -/
theorem copies_succeed (hs : Found home source name content d₀) (hn : Fitting source names)
    (hfree : ∀ f ∈ names, d₀.find? (source.above.place home ++ [f]) ≠ some .directory) :
    Succeeds (· = d₀) ((siblings source names).forM (copyTo source)) := by
  rw [siblings, List.forM_eq_forM, List.forM_map]
  refine (@Succeeds.forM_upTo _ (fun f => copyTo source (source.above.join ⟨[f]⟩))
    (fun done d => Holding home source.above done (fun _ => content) d₀ d) [] names
    (fun m f rest heq => ?_) fun m f rest heq => ?_).pre fun d hd => hd ▸ hs.holding_nil
  · have hm := mem_of_step heq
    exact copyTo_succeeds hs (hn.name f hm) (hn.room f hm) (hn.short f hm) (hfree f hm)
  · exact copyTo_ends hs (hn.plain f (mem_of_step heq))

/-! ## Replacements -/

/-- What **the files hold** after replacements. -/
def filling (rs : List PositionalReplacement) (n : Nat) (content : ByteArray) (i : Nat) : ByteArray :=
  onText (rewriteAll rs n i) content

variable {rs : List PositionalReplacement}

theorem filling_nil (n : Nat) (content : ByteArray) : filling [] n content = fun _ => content :=
  funext fun _ => onText_id content

theorem filling_concat (r : PositionalReplacement) (n : Nat) (content : ByteArray) :
    (fun i => onText (r.rewrite n i) (filling rs n content i)) = filling (rs ++ [r]) n content := by
  funext i
  rw [filling, filling, onText_onText, rewriteAll_concat]

theorem apply_filling (hn : ∀ f ∈ names, IsPlainName f) (hnodup : names.Nodup)
    (r : PositionalReplacement) :
    Ends (Holding home source.above names (filling rs names.length content) d₀)
      (r.apply (siblings source names)) fun _ d =>
        Holding home source.above names (filling (rs ++ [r]) names.length content) d₀ d := by
  have h := @apply_ends r home source.above d₀ names (filling rs names.length content) hn hnodup
  rwa [filling_concat] at h

/-- **Replacements** carried out one after the other. -/
theorem rewrites_ends (hn : ∀ f ∈ names, IsPlainName f) (hnodup : names.Nodup) :
    Ends (Holding home source.above names (fun _ => content) d₀)
      (rs.forM (·.apply (siblings source names))) fun _ d =>
        Holding home source.above names (filling rs names.length content) d₀ d := by
  have h := @Ends.forM _ (fun r : PositionalReplacement => r.apply (siblings source names))
    (fun done d => Holding home source.above names (filling done names.length content) d₀ d) [] rs
    fun m r rest _ => apply_filling hn hnodup r
  rwa [List.nil_append, filling_nil] at h

/-- Replacements **succeed** if they have a value for each file and the template is a text. -/
theorem rewrites_succeed (hn : Fitting source names) (hnodup : names.Nodup)
    (hr : ∀ r ∈ rs, r.Covers names.length) {text : String} (hcontent : content = text.toUTF8) :
    Succeeds (Holding home source.above names (fun _ => content) d₀)
      (rs.forM (·.apply (siblings source names))) := by
  have h := @Succeeds.forM_upTo _ (fun r : PositionalReplacement => r.apply (siblings source names))
    (fun done d => Holding home source.above names (filling done names.length content) d₀ d) [] rs
    (fun m r rest heq => apply_succeeds hn.name hn.short hnodup (hr r (mem_of_step heq)) fun i => ?_)
    fun m r rest _ => apply_filling hn.plain hnodup r
  · rwa [filling_nil] at h
  · exact ⟨_, by rw [filling, hcontent, onText_toUTF8]⟩

/-! ## All together -/

/-- Whether the files beside a template hold contents, **the template is gone** unless a file has its name,
and nothing else differs from a disk. -/
structure Filled (home : Place) (source : Path) (name : String) (names : List String)
    (contents : Nat → ByteArray) (d₀ d : Disk) : Prop where
  home_eq : d.home = home
  file : ∀ i f, names[i]? = some f → d.find? (source.above.place home ++ [f]) = some (.file (contents i))
  gone : name ∉ names → d.find? (source.above.place home ++ [name]) = none
  other : ∀ q, q ≠ source.above.place home ++ [name] → (∀ f ∈ names, q ≠ source.above.place home ++ [f]) →
    d.find? q = d₀.find? q

/-- A file **has the name** of the template. -/
theorem any_same_iff (hs : Found home source name content d₀) (hn : ∀ f ∈ names, IsPlainName f) :
    (siblings source names).any (·.same source) = true ↔ name ∈ names := by
  rw [siblings, List.any_map, List.any_eq_true]
  constructor
  · rintro ⟨f, hf, hsame⟩
    rwa [← (hs.same_iff (hn f hf)).mp hsame]
  · exact fun hm => ⟨name, hm, (hs.same_iff (hn name hm)).mpr rfl⟩

theorem Found.still (hs : Found home source name content d₀) {contents : Nat → ByteArray} {d : Disk}
    (h : Holding home source.above names contents d₀ d) (hm : name ∉ names) :
    d.find? (source.above.place home ++ [name]) = some (.file content) := by
  rw [h.other _ fun f hf heq => hm ?_, hs.file]
  rw [concat_injective _ heq]
  exact hf

/-- **Removing** the template. -/
theorem Found.removeFile (hs : Found home source name content d₀) {d : Disk}
    (h : Stands home source.above d)
    (hfile : d.find? (source.above.place home ++ [name]) = some (.file content)) :
    d.removeFile source = .ok (d.erase (source.above.place home ++ [name])) := by
  unfold Disk.removeFile lookAt
  rw [hs.lookFor h hfile]
  rfl

/-- **The files of a template**, when it has been expanded. -/
theorem fill_fills (hs : Found home source name content d₀) (hn : ∀ f ∈ names, IsPlainName f)
    (hnodup : names.Nodup) :
    Ends (· = d₀) (t.fill source (siblings source names)) fun _ d =>
      Filled home source name names (filling t.replacements names.length content) d₀ d := by
  unfold fill
  refine (copies_ends hs hn).seq fun _ => (rewrites_ends hn hnodup).seq fun _ => ?_
  refine .ite (fun hany => .pure fun d hd => ?_) fun hany => Ends.seq (.change fun d d' hd hremove => ?_)
    fun _ => .pure fun _ hd => hd
  · exact ⟨hd.stands.home_eq, hd.file, fun hm => absurd ((any_same_iff hs hn).mp hany) hm,
      fun q _ hq => hd.other q hq⟩
  · have hm : name ∉ names := fun hm => hany ((any_same_iff hs hn).mpr hm)
    rw [hs.removeFile hd.stands (hs.still hd hm)] at hremove
    obtain rfl := Except.ok.inj hremove
    have hne := concat_ne_nil (source.above.place home) name
    refine ⟨hd.stands.home_eq, fun i f hi => ?_, fun _ => ?_, fun q hq hother => ?_⟩
    · rw [find?_erase _ _ _ hne, if_neg, hd.file i f hi]
      intro heq
      rw [concat_injective _ heq] at hm
      exact hm (List.mem_of_getElem? hi)
    · rw [find?_erase _ _ _ hne, if_pos rfl]
    · rw [find?_erase _ _ _ hne, if_neg (Ne.symm hq), hd.other q hother]

/-- **Expanding a template succeeds** if the names of the files fit, nothing is in their way, and there is a
value for each of them. -/
theorem fill_succeeds (hs : Found home source name content d₀) (hn : Fitting source names)
    (hnodup : names.Nodup)
    (hfree : ∀ f ∈ names, d₀.find? (source.above.place home ++ [f]) ≠ some .directory)
    (hr : ∀ r ∈ t.replacements, r.Covers names.length) {text : String} (hcontent : content = text.toUTF8) :
    Succeeds (· = d₀) (t.fill source (siblings source names)) := by
  unfold fill
  refine (copies_succeed hs hn hfree).seq (copies_ends hs hn.plain) fun _ =>
    (rewrites_succeed hn hnodup hr hcontent).seq (rewrites_ends hn.plain hnodup) fun _ => ?_
  refine .ite (fun _ => .pure _) fun hany => Succeeds.seq (.change fun d hd => ?_)
    (show Ends _ _ fun _ _ => True from fun _ _ _ _ _ => trivial) fun _ => .pure _
  exact ⟨_, hs.removeFile hd.stands (hs.still hd fun hm => hany ((any_same_iff hs hn.plain).mpr hm))⟩

/-- If a replacement has **not as many values** as there are files, it and all that comes after it is not
done. -/
theorem fill_mismatch {w : World} (hs : Found home source name content w.disk)
    (hn : Fitting source names) (hnodup : names.Nodup)
    (hfree : ∀ f ∈ names, w.disk.find? (source.above.place home ++ [f]) ≠ some .directory)
    {before after : List PositionalReplacement} {r : PositionalReplacement} {values : List Scalar}
    (hsplit : t.replacements = before ++ r :: after) (hr : ∀ r ∈ before, r.Covers names.length)
    (hvalues : r.values = some values) (hlength : values.length ≠ names.length)
    {text : String} (hcontent : content = text.toUTF8) :
    ∃ w', (t.fill source (siblings source names)).on w =
        (.error (.countMismatch r.target values.length names.length), w') ∧
      Holding home source.above names (filling before names.length content) w.disk w'.disk := by
  have hfiles : (siblings source names).length = names.length := List.length_map _
  obtain ⟨_, w₁, hcopies⟩ := copies_succeed hs hn hfree w rfl
  have h₁ := copies_ends hs hn.plain w _ w₁ rfl hcopies
  obtain ⟨_, w₂, hbefore⟩ := rewrites_succeed hn hnodup hr hcontent w₁ h₁
  have h₂ := rewrites_ends hn.plain hnodup w₁ _ w₂ h₁ hbefore
  have hfails := apply_mismatch hvalues (by rwa [hfiles]) w₂
  rw [hfiles] at hfails
  have hrest : (t.replacements.forM (·.apply (siblings source names))).on w₁ =
      (.error (.countMismatch r.target values.length names.length), w₂) := by
    rw [hsplit, List.forM_eq_forM, List.forM_append, List.forM_cons]
    exact (bind_of_ok hbefore).trans (bind_of_error hfails)
  refine ⟨w₂, ?_, h₂⟩
  unfold fill
  rw [bind_of_ok hcopies, bind_of_error hrest]

end Template

end SiteGen
