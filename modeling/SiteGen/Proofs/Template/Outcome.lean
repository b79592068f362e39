import SiteGen.Proofs.Template.Copies
import SiteGen.Proofs.Template.Names

/-!
# The outcome of expanding a template

* `Template.expand_outcome`: a template that can be expanded is expanded, up to the first replacement with
  not as many values as there are files; a template that is not found is not.
* `Template.expand_unfit`: names that cannot be on a disk, or are too long, are not made.
-/

namespace SiteGen

open Disk SiteGen.Path Run PositionalReplacement

namespace Template

variable {t : Template} {home : Place} {source : Path} {name : String} {content : ByteArray} {d₀ d : Disk}
  {contents : Nat → ByteArray}

/-- The **names** of the files of a template. -/
def names (t : Template) : List String := t.pattern.values.map t.pattern.filenameFor

theorem length_names (t : Template) : t.names.length = t.pattern.values.length := List.length_map _

theorem files_eq (hs : source.EndsInName name) (hn : ∀ f ∈ t.names, IsPlainName f) :
    t.files source = siblings source t.names := by
  rw [files, siblings, names, List.map_map]
  exact List.map_congr_left fun v hv => hs.withName_eq (hn _ (List.mem_map_of_mem hv))

/-- Whether **nothing is in the way** of the files of a template: their names can be on a disk and are
different, neither they nor their paths are too long, and no directory is there. -/
structure Expandable (t : Template) (source : Path) (d : Disk) : Prop where
  name : ∀ f ∈ t.names, IsDiskName f
  nodup : t.names.Nodup
  room : ∀ f ∈ t.names, f.utf8ByteSize ≤ nameLimit
  short : ∀ p ∈ t.files source, p.isLong = false
  free : ∀ p ∈ t.files source, d.find? (p.place d.home) ≠ some .directory

/-- Whether the files of a template **hold contents**, and nothing but these files and the template differs
from a disk. -/
structure Expanded (t : Template) (source : Path) (contents : Nat → ByteArray) (d₀ d : Disk) : Prop where
  home : d.home = d₀.home
  file : ∀ i p, (t.files source)[i]? = some p → d.find? (p.place d₀.home) = some (.file (contents i))
  other : ∀ q, q ≠ source.place d₀.home → (∀ p ∈ t.files source, q ≠ p.place d₀.home) →
    d.find? q = d₀.find? q

/-- The files, by their names in the directory of the template. -/
theorem expanded_of_names (hs : Found d₀.home source name content d₀) (hn : ∀ f ∈ t.names, IsPlainName f)
    (hhome : d.home = d₀.home)
    (hfile : ∀ i f, t.names[i]? = some f →
      d.find? (source.above.place d₀.home ++ [f]) = some (.file (contents i)))
    (hother : ∀ q, q ≠ source.above.place d₀.home ++ [name] →
      (∀ f ∈ t.names, q ≠ source.above.place d₀.home ++ [f]) → d.find? q = d₀.find? q) :
    Expanded t source contents d₀ d := by
  have hfiles := files_eq hs.endsInName hn
  refine ⟨hhome, fun i p hp => ?_, fun q hq hp => hother q ?_ fun f hf heq => ?_⟩
  · rw [hfiles, siblings, List.getElem?_map] at hp
    obtain ⟨f, hf, rfl⟩ := Option.map_eq_some_iff.mp hp
    rw [place_child _ (hn f (List.mem_of_getElem? hf))]
    exact hfile i f hf
  · rwa [← hs.place_eq hs.stands]
  · refine hp (source.above.join ⟨[f]⟩) ?_ ?_
    · rw [hfiles]
      exact List.mem_map_of_mem hf
    · rw [place_child _ (hn f hf), heq]

theorem found_of_readText (ht : d.IsTree) (hhome : d.find? d.home = some .directory) {text : String}
    (h : d.readText source = .ok text) : ∃ name, Found d.home source name text.toUTF8 d := by
  obtain ⟨name, content, hname, haccepted, hstands, hplace, hfile⟩ :=
    stands_of_hasFile ht hhome (hasFile_of_readText h)
  have hread := find?_of_readText ht.noLink h
  rw [hplace] at hread
  exact ⟨name, hname, haccepted, hstands, hread⟩

namespace Expandable

theorem plain (h : t.Expandable source d) : ∀ f ∈ t.names, IsPlainName f :=
  fun f hf => (h.name f hf).toIsPlainName

theorem files_eq (h : t.Expandable source d) (hs : source.EndsInName name) :
    t.files source = siblings source t.names := Template.files_eq hs h.plain

theorem fitting (h : t.Expandable source d) (hs : source.EndsInName name) : Fitting source t.names :=
  ⟨h.name, h.room, fun _ hf => h.short _ (h.files_eq hs ▸ List.mem_map_of_mem hf)⟩

theorem free_sibling (h : t.Expandable source d) (hs : source.EndsInName name) :
    ∀ f ∈ t.names, d.find? (source.above.place d.home ++ [f]) ≠ some .directory := by
  intro f hf
  rw [← place_child _ (h.plain f hf)]
  exact h.free _ (h.files_eq hs ▸ List.mem_map_of_mem hf)

theorem not_mem_names (h : t.Expandable source d) (hs : Found home source name content d₀)
    (hany : (t.files source).any (·.same source) = false) : name ∉ t.names := fun hm => by
  rw [h.files_eq hs.endsInName, (any_same_iff hs h.plain).mpr hm] at hany
  cases hany

end Expandable

variable {w : World} {text : String}

theorem contents_eq (rs : List PositionalReplacement) (text : String) (n : Nat) :
    filling rs n text.toUTF8 = fun i => (rewriteAll rs n i text).toUTF8 :=
  funext fun _ => onText_toUTF8 _ _

/-- A template that is found **is expanded**, if there is a value for each file. -/
theorem fill_outcome (hs : Found w.disk.home source name text.toUTF8 w.disk)
    (h : t.Expandable source w.disk) (hr : ∀ r ∈ t.replacements, r.Covers t.pattern.values.length) :
    ∃ w', (t.fill source (t.files source)).on w = (.ok (t.files source), w') ∧
      t.Expanded source (fun i => (rewriteAll t.replacements t.pattern.values.length i text).toUTF8)
        w.disk w'.disk ∧
      ((t.files source).any (·.same source) = false →
        w'.disk.find? (source.place w.disk.home) = none) := by
  have hname := hs.endsInName
  rw [← length_names] at hr ⊢
  rw [← contents_eq]
  obtain ⟨paths, w', hon⟩ :=
    fill_succeeds hs (h.fitting hname) h.nodup (h.free_sibling hname) hr rfl w rfl
  have hfilled := fill_fills hs h.plain h.nodup w paths w' rfl hon
  obtain rfl := fill_ends _ _ w paths w' trivial hon
  refine ⟨w', by rwa [h.files_eq hname],
    expanded_of_names hs h.plain hfilled.home_eq hfilled.file hfilled.other, fun hany => ?_⟩
  rw [hs.place_eq hs.stands]
  exact hfilled.gone (h.not_mem_names hs hany)

/-- A template that is found is expanded **up to a replacement** with not as many values as there are
files. -/
theorem fill_outcome_mismatch (hs : Found w.disk.home source name text.toUTF8 w.disk)
    (h : t.Expandable source w.disk) {before after : List PositionalReplacement}
    {r : PositionalReplacement} {values : List Scalar} (hsplit : t.replacements = before ++ r :: after)
    (hr : ∀ r ∈ before, r.Covers t.pattern.values.length) (hvalues : r.values = some values)
    (hlength : values.length ≠ t.pattern.values.length) :
    ∃ w', (t.fill source (t.files source)).on w =
        (.error (.countMismatch r.target values.length t.pattern.values.length), w') ∧
      t.Expanded source (fun i => (rewriteAll before t.pattern.values.length i text).toUTF8)
        w.disk w'.disk ∧
      w'.disk.hasFile source = true ∧
      ((t.files source).any (·.same source) = false →
        w'.disk.find? (source.place w.disk.home) = w.disk.find? (source.place w.disk.home)) := by
  have hname := hs.endsInName
  rw [← length_names] at hr hlength ⊢
  rw [← contents_eq]
  obtain ⟨w', hon, hholding⟩ := fill_mismatch hs (h.fitting hname) h.nodup
    (h.free_sibling hname) hsplit hr hvalues hlength rfl
  refine ⟨w', by rwa [h.files_eq hname], expanded_of_names hs h.plain hholding.stands.home_eq
    hholding.file fun q _ hq => hholding.other q hq, ?_, fun hany => ?_⟩
  · obtain ⟨content, hfile⟩ : ∃ content,
        w'.disk.find? (source.above.place w.disk.home ++ [name]) = some (.file content) := by
      rcases hholding.find?_cases name with hfile | hsame
      · exact hfile
      · exact ⟨_, hsame.trans hs.file⟩
    have hends : w'.disk.look source = _ := hs.lookFor hholding.stands hfile
    rw [hasFile, hends]
    rfl
  · rw [hs.place_eq hs.stands, hs.still hholding (h.not_mem_names hs hany), hs.file]

/-- **The outcome of expanding a template.** If it is not found, nothing is done. If it is a text and nothing
is in the way, then the files are made in the order of the values, with what the replacements make of the
text, and the template is gone unless a file has its name. If a replacement has not as many values as there
are files, then it is the first one that is not carried out, and the template is still there. -/
theorem expand_outcome (t : Template) (base : Path) {w : World} (ht : w.disk.IsTree)
    (hhome : w.disk.find? w.disk.home = some .directory) :
    (w.disk.hasFile (base.join t.source) = false →
      (t.expand base).on w = (.error (.templateNotFound (base.join t.source)), w)) ∧
    ∀ text, w.disk.readText (base.join t.source) = .ok text →
      t.Expandable (base.join t.source) w.disk →
      ((∀ r ∈ t.replacements, r.Covers t.pattern.values.length) →
        ∃ w', (t.expand base).on w = (.ok (t.files (base.join t.source)), w') ∧
          t.Expanded (base.join t.source)
            (fun i => (rewriteAll t.replacements t.pattern.values.length i text).toUTF8) w.disk w'.disk ∧
          ((t.files (base.join t.source)).any (·.same (base.join t.source)) = false →
            w'.disk.find? ((base.join t.source).place w.disk.home) = none)) ∧
      ∀ before r after values, t.replacements = before ++ r :: after →
        (∀ r ∈ before, r.Covers t.pattern.values.length) → r.values = some values →
        values.length ≠ t.pattern.values.length →
        ∃ w', (t.expand base).on w =
            (.error (.countMismatch r.target values.length t.pattern.values.length), w') ∧
          t.Expanded (base.join t.source)
            (fun i => (rewriteAll before t.pattern.values.length i text).toUTF8) w.disk w'.disk ∧
          w'.disk.hasFile (base.join t.source) = true ∧
          ((t.files (base.join t.source)).any (·.same (base.join t.source)) = false →
            w'.disk.find? ((base.join t.source).place w.disk.home) =
              w.disk.find? ((base.join t.source).place w.disk.home)) := by
  rw [expand_on]
  refine ⟨fun hfile => by rw [hfile]; rfl, fun text hread h => ?_⟩
  rw [if_pos (hasFile_of_readText hread)]
  obtain ⟨name, hs⟩ := found_of_readText ht hhome hread
  rw [← t.remarked_disk w] at hs h ⊢
  exact ⟨fun hr => fill_outcome hs h hr, fun before r after values hsplit hr hvalues hlength =>
    fill_outcome_mismatch hs h hsplit hr hvalues hlength⟩

/-- A template with two files, one of which has its name, and a replacement by their numbers. -/
def twins : Template :=
  ⟨Path.ofText "x/t", .list placeholder [.text "b", .text "t"], [⟨"n", none⟩]⟩

/-- The same template with one more replacement, which has only one value. -/
def uneven : Template := { twins with replacements := [⟨"n", none⟩, ⟨"1", some [.boolean true]⟩] }

theorem replaceAll_whole {find : Regex.Finder} {text : List Char} {q : Position}
    (h : find none text = some q) (hne : text ≠ []) (hrest : q.rest = []) (hend : find q.before [] = none)
    (new : List Char) : Regex.Finder.replaceAll find (fun _ => new) text = new := by
  unfold Regex.Finder.replaceAll Regex.Finder.split
  rw [Regex.splitFrom.eq_def, h]
  simp only [hrest, List.length_nil, List.length_pos_iff.mpr hne, dif_pos]
  rw [Regex.splitFrom.eq_def, hend]
  simp

theorem rewriteAll_number (i : Nat) (hi : i < 2) :
    rewriteAll [⟨"n", none⟩] 2 i "n" = (Scalar.integer (i + 1)).written := by
  have hwhole : ∀ new, Regex.Finder.replaceAll (Target.mk "n").pattern.checkedEnd? (fun _ => new)
      "n".toList = new :=
    replaceAll_whole (q := ⟨1, some 'n', [], []⟩) (by decide +kernel) (by decide) rfl (by decide +kernel)
  have hvalue : (valuesFor ⟨"n", none⟩ 2)[i]? = some (Scalar.integer (i + 1)) := by
    rw [valuesFor, Option.getD_none, numbers, List.getElem?_map, List.getElem?_range hi]
    rfl
  show rewrite ⟨"n", none⟩ 2 i "n" = _
  rw [rewrite, hvalue]
  show String.ofList _ = _
  rw [hwhole, String.ofList_toList]

theorem expand_outcome_small :
    (∃ w', (twins.expand ⟨[""]⟩).on smallWorld = (.ok [⟨["x", "b"]⟩, ⟨["x", "t"]⟩], w') ∧
      w'.disk.find? ["x", "b"] = some (.file "1".toUTF8) ∧
      w'.disk.find? ["x", "t"] = some (.file "2".toUTF8)) ∧
    (∃ w', (uneven.expand ⟨[""]⟩).on smallWorld = (.error (.countMismatch "1" 1 2), w') ∧
      w'.disk.find? ["x", "b"] = some (.file "1".toUTF8) ∧
      w'.disk.find? ["x", "t"] = some (.file "2".toUTF8)) ∧
    (twins.expand ⟨["y"]⟩).on smallWorld = (.error (.templateNotFound ⟨["y", "x", "t"]⟩), smallWorld) := by
  have ht : smallWorld.disk.IsTree := by decide +kernel
  have hhome : smallWorld.disk.find? smallWorld.disk.home = some .directory := by decide +kernel
  have hread : smallWorld.disk.readText ⟨["x", "t"]⟩ = .ok "n" := by rfl
  have hnames : ∀ f ∈ twins.names, IsDiskName f := by decide +kernel
  have htwins : twins.Expandable ⟨["x", "t"]⟩ smallWorld.disk :=
    ⟨hnames, by decide +kernel, by decide +kernel, by decide +kernel, by decide +kernel⟩
  have huneven : uneven.Expandable ⟨["x", "t"]⟩ smallWorld.disk :=
    ⟨hnames, htwins.nodup, htwins.room, htwins.short, htwins.free⟩
  have hcovers : ∀ r ∈ twins.replacements, r.Covers 2 := by
    intro r hr values hvalues
    rw [List.mem_singleton.mp hr] at hvalues
    cases hvalues
  have hfirst : rewriteAll [⟨"n", none⟩] 2 0 "n" = "1" := (rewriteAll_number 0 (by decide)).trans rfl
  have hsecond : rewriteAll [⟨"n", none⟩] 2 1 "n" = "2" := (rewriteAll_number 1 (by decide)).trans rfl
  refine ⟨?_, ?_, (expand_outcome twins ⟨["y"]⟩ ht hhome).1 (by decide +kernel)⟩
  · obtain ⟨w', hon, hexpanded, -⟩ :=
      ((expand_outcome twins ⟨[""]⟩ ht hhome).2 "n" hread htwins).1 hcovers
    exact ⟨w', hon, hfirst ▸ hexpanded.file 0 _ rfl, hsecond ▸ hexpanded.file 1 _ rfl⟩
  · obtain ⟨w', hon, hexpanded, -⟩ := ((expand_outcome uneven ⟨[""]⟩ ht hhome).2 "n" hread huneven).2
      [⟨"n", none⟩] ⟨"1", some [.boolean true]⟩ [] [.boolean true] rfl hcovers rfl (by decide)
    exact ⟨w', hon, hfirst ▸ hexpanded.file 0 _ rfl, hsecond ▸ hexpanded.file 1 _ rfl⟩

/-- A template with one file. -/
def single (f : String) : Template := ⟨Path.ofText "x/t", .list placeholder [.text f], []⟩

theorem names_single (f : String) : (single f).names = [f] := by
  show [(FilenamePattern.list placeholder [.text f]).filenameFor (.text f)] = [f]
  rw [FilenamePattern.filenameFor_placeholder]
  rfl

theorem found_small : Found [] ⟨["x", "t"]⟩ "t" "n".toUTF8 smallWorld.disk :=
  ⟨⟨⟨["x"], rfl⟩, by decide, by decide⟩, accept_eq_ok.mp rfl, by decide +kernel, by decide +kernel⟩

theorem find?_small {f : String} (hf : f ≠ "t") : smallWorld.disk.find? ["x", f] = none := by
  show (((⟨∅, []⟩ : Disk).insert ["x"] .directory).insert ["x", "t"] (.file "n".toUTF8)).find? _ = none
  rw [find?_insert _ _ _ _ (by simp), if_neg (by simpa using Ne.symm hf), find?_insert _ _ _ _ (by simp),
    if_neg (by simp)]
  simp [find?]

theorem expand_single_fails {f : String} (hf : IsPlainName f) (hne : f ≠ "t")
    (hunfit : IsDiskName f → nameLimit < f.utf8ByteSize) :
    ∃ fault, ((single f).expand ⟨[""]⟩).on smallWorld = (.error (.disk fault), smallWorld) := by
  have hleads : smallWorld.disk.Leads ⟨["x"]⟩ := by decide +kernel
  have ht : smallWorld.disk.IsTree := by decide +kernel
  have hfiles : (single f).files ⟨["x", "t"]⟩ = [(Path.mk ["x"]).join ⟨[f]⟩] := by
    rw [files_eq found_small.endsInName (by rw [names_single]; simpa using hf), names_single]
    rfl
  have hlook : smallWorld.disk.look ⟨["x", "t"]⟩ = .ok (["x", "t"], .file "n".toUTF8) :=
    found_small.lookFor found_small.stands found_small.file
  have hcopy : ∃ fault,
      smallWorld.disk.copyFile ⟨["x", "t"]⟩ ((Path.mk ["x"]).join ⟨[f]⟩) = .error fault := by
    by_cases hdisk : IsDiskName f
    · have hnone : smallWorld.disk.find? ((Path.mk ["x"]).place smallWorld.disk.home ++ [f]) = none :=
        find?_small hne
      rw [copyFile_child ht hleads hdisk hlook fun heq => hne
        (List.cons.inj (List.cons.inj heq).2).1.symm]
      split
      · exact ⟨_, rfl⟩
      · rw [hnone, if_neg (by simp), if_neg (by simp [missing, hunfit hdisk])]
        exact ⟨_, rfl⟩
    · have hnull : '\x00' ∈ ((Path.mk ["x"]).join ⟨[f]⟩).text.toList := by
        refine (text_join_null (continues_single f)).mpr (Or.inr ⟨f, List.mem_singleton_self f, ?_⟩)
        by_contra hnot
        exact hdisk ⟨hf, hnot⟩
      have hrefused : ((Path.mk ["x"]).join ⟨[f]⟩).accept = .error .nulInPath := if_pos (by simpa using hnull)
      unfold copyFile writeBytes
      rw [hlook, locate_of_refused hrefused]
      exact ⟨_, rfl⟩
  obtain ⟨fault, hcopy⟩ := hcopy
  have hdiffer : ((Path.mk ["x"]).join ⟨[f]⟩).same ⟨["x", "t"]⟩ = false := by
    rw [Bool.eq_false_iff]
    exact fun h => hne ((found_small.same_iff hf).mp h)
  have hsource : (Path.mk [""]).join (single f).source = ⟨["x", "t"]⟩ := rfl
  have hfound : smallWorld.disk.hasFile ⟨["x", "t"]⟩ = true := by decide +kernel
  refine ⟨fault, ?_⟩
  rw [expand_on, hsource, if_pos hfound, hfiles]
  unfold fill
  refine bind_of_error (bind_of_error ?_)
  rw [copyTo, hdiffer]
  exact @change_on_error (·.copyFile ⟨["x", "t"]⟩ ((Path.mk ["x"]).join ⟨[f]⟩)) smallWorld fault hcopy

theorem isPlainName_long {n : Nat} (hn : 2 < n) : IsPlainName (String.ofList (List.replicate n 'a')) := by
  have hshort : ∀ s : String, s.toList.length ≤ 2 → String.ofList (List.replicate n 'a') ≠ s := by
    rintro s hs rfl
    rw [String.toList_ofList, List.length_replicate] at hs
    omega
  refine ⟨hshort _ (by decide), hshort _ (by decide), hshort _ (by decide), ?_⟩
  rw [String.toList_ofList]
  exact fun h => absurd (List.eq_of_mem_replicate h) (by decide)

/-- Names with a null and names that are too long are names of one part, and nothing is in their way, but
**the files are not made**. -/
theorem expand_unfit :
    (smallWorld.disk.IsTree ∧ smallWorld.disk.find? smallWorld.disk.home = some .directory ∧
      smallWorld.disk.readText ((Path.mk [""]).join (Path.ofText "x/t")) = .ok "n") ∧
    ∀ f ∈ ["\x00", String.ofList (List.replicate 256 'a')],
      (single f).names = [f] ∧ IsPlainName f ∧ smallWorld.disk.find? ["x", f] = none ∧
      ∃ fault, ((single f).expand ⟨[""]⟩).on smallWorld = (.error (.disk fault), smallWorld) := by
  have hlong : IsPlainName (String.ofList (List.replicate 256 'a')) := isPlainName_long (by decide)
  refine ⟨⟨by decide +kernel, by decide +kernel, rfl⟩, fun f hf => ?_⟩
  have hplain : IsPlainName f ∧ f ≠ "t" ∧ (IsDiskName f → nameLimit < f.utf8ByteSize) := by
    rcases List.mem_cons.mp hf with rfl | hf
    · exact ⟨by decide +kernel, by decide +kernel, fun h => absurd h.no_null (by decide)⟩
    · rw [List.mem_singleton.mp hf]
      exact ⟨hlong, by decide +kernel, fun _ => by decide +kernel⟩
  exact ⟨names_single f, hplain.1, find?_small hplain.2.1,
    expand_single_fails hplain.1 hplain.2.1 hplain.2.2⟩

end Template

end SiteGen
