import SiteGen.Proofs.Disk.Sibling
import SiteGen.Proofs.Run.Texts
import SiteGen.Template.Expand

/-!
# Expanding next to the template

If the names of its files are plain, a template is expanded in its own directory: nothing else changes,
whether or not this ends with an error.

* `Template.expand_on`: expanding begins with finding the template.
* `Template.fill_keeps`: only files in the directory of the template are written and removed.
* `Template.expand_beside`: expanding a template stays in its directory.
* `Template.expand_stray`: it does not, if names lead out of it.
-/

namespace SiteGen

open Disk SiteGen.Path Run

namespace Disk

variable {a : Place} {d₀ d d' : Disk}

/-- Whether only **files in a directory** differ from one disk to another. -/
structure OnlyFilesIn (a : Place) (d₀ d : Disk) : Prop where
  home : d.home = d₀.home
  find? : ∀ q, d.find? q = d₀.find? q ∨ (∃ name, q = a ++ [name]) ∧
    d₀.find? q ≠ some .directory ∧ d.find? q ≠ some .directory

theorem OnlyFilesIn.refl (a : Place) (d : Disk) : OnlyFilesIn a d d := ⟨rfl, fun _ => Or.inl rfl⟩

theorem OnlyFilesIn.write (h : OnlyFilesIn a d₀ d) {q : Place} (hq : ∃ name, q = a ++ [name])
    (hnot : d.find? q ≠ some .directory) (hhome : d'.home = d.home)
    (hnot' : d'.find? q ≠ some .directory) (hrest : ∀ x, q ≠ x → d'.find? x = d.find? x) :
    OnlyFilesIn a d₀ d' := by
  refine ⟨hhome.trans h.home, fun x => ?_⟩
  by_cases hx : q = x
  · subst hx
    rcases h.find? q with hsame | ⟨-, hnot₀, -⟩
    · exact Or.inr ⟨hq, hsame ▸ hnot, hnot'⟩
    · exact Or.inr ⟨hq, hnot₀, hnot'⟩
  · rw [hrest x hx]
    exact h.find? x

end Disk

namespace Template

variable {t : Template} {home : Place} {source : Path} {name : String} {d₀ : Disk}

/-- The **files** of a template: one for each value. -/
def files (t : Template) (source : Path) : List Path := t.pattern.values.map (t.pathFor source)

/-- What is done when the template **has been found**: it is copied, replacements are carried out in the
copies, and it is removed, unless a copy has its name. -/
def fill (t : Template) (source : Path) (files : List Path) : Run (List Path) := do
  files.forM (copyTo source)
  t.replacements.forM (·.apply files)
  if files.any (·.same source) then pure files
  else do
    Run.change (·.removeFile source)
    pure files

/-- The world in which it **has been remarked** that a template has no values. -/
def remarked (t : Template) (w : World) : World :=
  if t.pattern.values.isEmpty then
    { w with warnings := w.warnings ++ [.emptyPattern t.pattern.template] }
  else w

theorem remarked_disk (t : Template) (w : World) : (t.remarked w).disk = w.disk := by
  unfold remarked
  split <;> rfl

/-- **Expanding a template**: if it is not found, nothing is done. -/
theorem expand_on (t : Template) (base : Path) (w : World) :
    (t.expand base).on w =
      if w.disk.hasFile (base.join t.source) then
        (t.fill (base.join t.source) (t.files (base.join t.source))).on (t.remarked w)
      else (.error (.templateNotFound (base.join t.source)), w) := by
  unfold expand
  rw [bind_of_ok (inspect_on _ _)]
  cases w.disk.hasFile (base.join t.source) with
  | false => rfl
  | true =>
    unfold remarked
    cases t.pattern.values.isEmpty <;> rfl

/-! ## Writing in the directory -/

/-- Whether the directory of a template stands, and only files in it differ from a disk. -/
structure Beside (home : Place) (source : Path) (d₀ d : Disk) : Prop where
  stands : Stands home source.above d
  only : OnlyFilesIn (source.above.place home) d₀ d

variable {f : String} {p : Path}

/-- A **file is written** in the directory. -/
theorem Beside.write {d d' : Disk} (h : Beside home source d₀ d) (hstands : Stands home source.above d')
    (hnot : d.find? (source.above.place home ++ [f]) ≠ some .directory) {content : ByteArray}
    (hfind : ∀ x, d'.find? x =
      if source.above.place home ++ [f] = x then some (.file content) else d.find? x) :
    Beside home source d₀ d' := by
  have hhome := hstands.home_eq.trans h.stands.home_eq.symm
  refine ⟨hstands, h.only.write ⟨f, rfl⟩ hnot hhome ?_ fun x hx => ?_⟩
  · rw [hfind, if_pos rfl]
    simp
  · rw [hfind, if_neg hx]

theorem putText_keeps (hf : IsPlainName f) (text : String) :
    Keeps (Beside home source d₀) (putText (source.above.join ⟨[f]⟩) text) := by
  refine .change fun d d' h hwrite => ?_
  obtain ⟨hstands, hnot, hfind⟩ := h.stands.writeBytes (descends_single hf) hwrite
  rw [place_child home hf] at hnot hfind
  exact h.write hstands hnot hfind

theorem copyFile_keeps (hf : IsPlainName f) :
    Keeps (Beside home source d₀) (Run.change (·.copyFile source (source.above.join ⟨[f]⟩))) := by
  refine .change fun d d' h hcopy => ?_
  obtain ⟨hstands, hnot, content, hfind, -⟩ := h.stands.copyFile (descends_single hf) hcopy
  rw [place_child home hf] at hnot hfind
  exact h.write hstands hnot hfind

theorem removeFile_keeps (hs : source.EndsInName name) (hnull : '\x00' ∉ source.text.toList) :
    Keeps (Beside home source d₀) (Run.change (·.removeFile source)) := by
  refine .change fun d d' h hremove => ?_
  have hends := endsIn_of_above hs hnull h.stands.leads
  rw [h.stands.home_eq] at hends
  obtain ⟨l, hl, hr, habove⟩ := hends.concat
  obtain ⟨q, hcalls, ⟨content, hfile⟩, rfl⟩ := removeFile_cases h.stands.tree
    ⟨l, [name], hl, hr, by rw [habove]; exact hends.directory⟩ hremove
  obtain rfl : q = source.above.place home ++ [name] := hcalls.place_eq.symm.trans hends.place_eq
  have hne := concat_ne_nil (source.above.place home) name
  refine ⟨h.stands.of_dirsStay (h.stands.tree.erase hne (by rw [hfile]; simp)) rfl fun x hx => ?_,
    h.only.write ⟨name, rfl⟩ (by rw [hfile]; simp) rfl ?_ fun x hx => ?_⟩
  · rw [find?_erase _ _ _ hne, if_neg]
    · exact hx
    · rintro rfl
      rw [hfile] at hx
      cases hx
  · rw [find?_erase _ _ _ hne, if_pos rfl]
    simp
  · rw [find?_erase _ _ _ hne, if_neg hx]

/-- **Filling** the files of a template keeps to its directory. -/
theorem fill_keeps (hs : source.EndsInName name) (hnull : '\x00' ∉ source.text.toList)
    {files : List Path} (hfiles : ∀ p ∈ files, ∃ f, IsPlainName f ∧ p = source.above.join ⟨[f]⟩) :
    Keeps (Beside home source d₀) (t.fill source files) := by
  unfold fill
  refine (Keeps.forM fun p hp => ?_).bind fun _ => (Keeps.forM fun r _ => ?_).bind fun _ =>
    .ite (fun _ => .pure _) fun _ => (removeFile_keeps hs hnull).bind fun _ => .pure _
  · obtain ⟨f, hf, rfl⟩ := hfiles p hp
    unfold copyTo
    exact .ite (fun _ => .pure _) fun _ => copyFile_keeps hf
  · rw [PositionalReplacement.apply_eq]
    refine .ite (fun _ => .fail _) fun _ => .forM fun x hx => ?_
    obtain ⟨f, hf, hp⟩ := hfiles x.2 (List.of_mem_zip hx).2
    unfold PositionalReplacement.applyTo PositionalReplacement.applyToBy fileText
    refine (Keeps.bind (.inspect _) fun _ => .ite (fun _ => .query _) fun _ => .fail _).bind fun text => ?_
    rw [hp]
    exact putText_keeps hf _

/-- Filling **gives the paths** of the files. -/
theorem fill_ends (source : Path) (files : List Path) :
    Ends (fun _ => True) (t.fill source files) fun paths _ => paths = files := by
  have any : ∀ x : Run PUnit, Ends (fun _ => True) x fun _ _ => True := fun _ _ _ _ _ _ => trivial
  exact (any _).seq fun _ => (any _).seq fun _ => .ite (fun _ => .pure fun _ _ => rfl) fun _ =>
    (any _).seq fun _ => .pure fun _ _ => rfl

/-- **Expanding a template stays next to it.** If the names of its files are plain, then only files in the
directory of the template change, whether or not there is an error, and the paths that are given have the
path of that directory above them. -/
theorem expand_beside {t : Template} (hnames : ∀ v ∈ t.pattern.values, IsPlainName (t.pattern.filenameFor v))
    (base : Path) {w : World} (ht : w.disk.IsTree) (hhome : w.disk.find? w.disk.home = some .directory) :
    OnlyFilesIn ((base.join t.source).place w.disk.home).dropLast w.disk ((t.expand base).on w).2.disk ∧
      ∀ files, ((t.expand base).on w).1 = .ok files →
        ∀ p ∈ files, p.parent? = (base.join t.source).parent? := by
  rw [expand_on]
  by_cases hfile : w.disk.hasFile (base.join t.source) = true
  · obtain ⟨name, content, hs, haccepted, hstands, hplace, -⟩ := stands_of_hasFile ht hhome hfile
    have hfiles : ∀ p ∈ t.files (base.join t.source), ∃ f, IsPlainName f ∧
        p = (base.join t.source).withName f := by
      intro p hp
      obtain ⟨v, hv, rfl⟩ := List.mem_map.mp hp
      exact ⟨_, hnames v hv, rfl⟩
    have hdisk := t.remarked_disk w
    rw [if_pos hfile, hplace, List.dropLast_concat]
    constructor
    · have hbefore : Beside w.disk.home (base.join t.source) w.disk (t.remarked w).disk := by
        rw [hdisk]
        exact ⟨hstands, .refl _ _⟩
      refine (fill_keeps hs haccepted.noNull (fun p hp => ?_) (t.remarked w) hbefore).only
      obtain ⟨f, hf, rfl⟩ := hfiles p hp
      exact ⟨f, hf, hs.withName_eq hf⟩
    · intro paths hpaths p hp
      obtain rfl := fill_ends _ _ (t.remarked w) paths _ trivial (Prod.ext hpaths rfl)
      obtain ⟨f, hf, rfl⟩ := hfiles p hp
      exact hs.parent?_withName hf
  · rw [if_neg hfile]
    exact ⟨.refl _ _, fun files h => by cases h⟩

/-- A world with a template in a directory. -/
def smallWorld : World :=
  ⟨[(["x"], Entry.directory), (["x", "t"], .file "n".toUTF8)].foldl (fun d (q, e) => d.insert q e)
    ⟨∅, []⟩, []⟩

/-- A template with one file in its directory. -/
def small : Template := ⟨Path.ofText "x/t", .list placeholder [.text "b"], []⟩

theorem expand_beside_small :
    (∀ v ∈ small.pattern.values, IsPlainName (small.pattern.filenameFor v)) ∧
    ((small.expand ⟨[""]⟩).on smallWorld).1.toOption = some [⟨["x", "b"]⟩] ∧
    OnlyFilesIn ["x"] smallWorld.disk ((small.expand ⟨[""]⟩).on smallWorld).2.disk ∧
    (Path.mk ["x", "b"]).parent? = (Path.mk ["x", "t"]).parent? := by
  have hnames : ∀ v ∈ small.pattern.values, IsPlainName (small.pattern.filenameFor v) := by decide +kernel
  have hok : ((small.expand ⟨[""]⟩).on smallWorld).1.toOption = some [⟨["x", "b"]⟩] := by decide +kernel
  obtain ⟨honly, hparent⟩ := expand_beside hnames ⟨[""]⟩ (w := smallWorld) (by decide +kernel)
    (by decide +kernel)
  exact ⟨hnames, hok, honly, hparent _ (eq_ok_of_toOption hok) _ List.mem_cons_self⟩

/-- An entry for a template with a file that is not in its directory. -/
def strayEntry : Yaml := .mapping [(.string "path", .string "x/t"), (.string "filename_pattern", .mapping
  [(.string "type", .string "list"), (.string "filename_template", .string ("../" ++ placeholder)),
    (.string "list", .sequence [.string "b"])])]

/-- The template of that entry. -/
def stray : Template := ⟨Path.ofText "x/t", .list ("../" ++ placeholder) [.text "b"], []⟩

/-- Names that lead out of the directory are accepted, and **files are written elsewhere**. -/
theorem expand_stray :
    ofYaml strayEntry = .ok stray ∧ smallWorld.disk.IsTree ∧
    smallWorld.disk.find? smallWorld.disk.home = some .directory ∧
    ((Path.mk [""]).join stray.source).place smallWorld.disk.home = ["x", "t"] ∧
    ((stray.expand ⟨[""]⟩).on smallWorld).1.toOption = some [⟨["x", "..", "b"]⟩] ∧
    (Path.mk ["x", "..", "b"]).parent? ≠ (Path.mk ["x", "t"]).parent? ∧
    smallWorld.disk.find? ["b"] = none ∧
    ((stray.expand ⟨[""]⟩).on smallWorld).2.disk.find? ["b"] = some (.file "n".toUTF8) ∧
    ¬OnlyFilesIn ["x"] smallWorld.disk ((stray.expand ⟨[""]⟩).on smallWorld).2.disk := by
  have hnone : smallWorld.disk.find? ["b"] = none := by decide +kernel
  have hsome : ((stray.expand ⟨[""]⟩).on smallWorld).2.disk.find? ["b"] = some (.file "n".toUTF8) := by
    decide +kernel
  refine ⟨rfl, by decide +kernel, by decide +kernel, by decide +kernel, by decide +kernel,
    by decide +kernel, hnone, hsome, fun h => ?_⟩
  rcases h.find? ["b"] with hsame | ⟨⟨name, hname⟩, -⟩
  · rw [hnone, hsome] at hsame
    cases hsame
  · simp at hname

end Template

end SiteGen
