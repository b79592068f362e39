import SiteGen.Proofs.Disk.Overwrite
import SiteGen.Proofs.Replacement.Fold
import SiteGen.Proofs.Replacement.Literal

/-!
# Placeholders

A name in double braces is no regular expression, so that it is replaced where it stands. None is left in the files
that a replacement has gone through, if the values cannot make up a new one.

* `Settles`: what can take the place of a placeholder for good.
* `Disk.Replaced`: what replacing the text in one file says about what all paths read.
* `no_placeholder_left`: after replacements of either kind no placeholder is left.
-/

namespace SiteGen

open Disk Run

/-! ## Placeholders as targets -/

theorem Regex.read?_brace (rest : List Char) : Regex.read? ('\x7b' :: rest) = none := by
  have hstep : (⟨[], [], false, [], []⟩ : Pattern.Progress).step '\x7b' rest = none := by
    show (Pattern.readBounds false rest).bind _ = none
    exact Option.bind_eq_none_iff.mpr fun _ _ => rfl
  have hread : Pattern.read? ('\x7b' :: rest) = none := by
    unfold Pattern.read? Pattern.readFrom
    show Option.filter _ (((⟨[], [], false, [], []⟩ : Pattern.Progress).step '\x7b' rest).bind _) = none
    rw [hstep]
    rfl
  rw [read?, hread]
  rfl

variable {name : List Char}

theorem Target.isLiteral_braced (name : List Char) : (Target.mk (String.ofList (braced name))).IsLiteral := by
  refine .inl ?_
  rw [Target.regex?, String.toList_ofList]
  exact Regex.read?_brace _

/-- Whether a value can take the place of a placeholder **for good**: it has no braces and is not a part of the
name. -/
structure Settles (name value : List Char) : Prop where
  left : '\x7b' ∉ value
  right : '\x7d' ∉ value
  part : ¬value <:+: name

theorem settles_iff {value : List Char} :
    Settles name value ↔ '\x7b' ∉ value ∧ '\x7d' ∉ value ∧ ¬value <:+: name :=
  ⟨fun ⟨hleft, hright, hpart⟩ => ⟨hleft, hright, hpart⟩, fun ⟨hleft, hright, hpart⟩ => ⟨hleft, hright, hpart⟩⟩

instance (name value : List Char) : Decidable (Settles name value) := decidable_of_iff' _ settles_iff

/-- **No placeholder is left** in a text. -/
theorem Settles.absent {value : String} (h : Settles name value.toList) {target : String}
    (ht : target = String.ofList (braced name)) (text : String) :
    ¬braced name <:+: ((Target.mk target).replaceAll value text).toList := by
  subst ht
  rw [(Target.isLiteral_braced name).replaceAll_eq, Target.substituted, String.toList_ofList,
    String.toList_ofList]
  exact not_infix_substitute h.left h.right h.part text.toList

/-! ## What is read after a step -/

namespace Disk

variable {d d' : Disk} {f : String → String} {path : Path}

/-- Whether the text of a file has been **replaced**, as all paths see it: no file appears or vanishes, and what is
read has been the same before, or it is what has been made of a text. -/
structure Replaced (f : String → String) (path : Path) (d d' : Disk) : Prop where
  hasFile : ∀ q, d'.hasFile q = d.hasFile q
  read : ∀ q, d'.readText q = d.readText q ∨ ∃ text, d'.readText q = .ok (f text)
  replaced : d.hasFile path = true → ∃ text, d'.readText path = .ok (f text)

theorem Replaced.of_writeText {text : String} (h : d.readText path = .ok text)
    (hwrite : d.writeText path (f text) = .ok d') : Replaced f path d d' := by
  obtain ⟨q, content, -, hq, heq⟩ := writeText_eq h (f text)
  obtain rfl := Except.ok.inj (heq.symm.trans hwrite)
  refine ⟨hasFile_insert_file hq _, fun p => ?_, fun _ => ⟨text, ?_⟩⟩
  · exact (readText_insert_file hq _ p).imp id fun h => ⟨text, h⟩
  · obtain ⟨d₁, hwrite', hread, -⟩ := writeText_of_readText h (f text)
    rwa [Except.ok.inj (hwrite.symm.trans hwrite')]

/-- Whether the texts of all files among some paths **have a property**. -/
def AllRead (P : String → Prop) (paths : List Path) (d : Disk) : Prop :=
  ∀ path ∈ paths, d.hasFile path = true → ∃ text, d.readText path = .ok text ∧ P text

variable {P : String → Prop}

/-- What holds of the texts that have been read **holds of one more** if it holds of all that is made. -/
theorem Replaced.concat (h : Replaced f path d d') (hf : ∀ text, P (f text)) {done : List Path}
    (hd : AllRead P done d) : AllRead P (done ++ [path]) d' := by
  intro q hq hfile
  rw [h.hasFile] at hfile
  rcases List.mem_append.mp hq with hq | hq
  · obtain ⟨text, hread, htext⟩ := hd q hq hfile
    rcases h.read q with heq | ⟨text', heq⟩
    · exact ⟨text, heq.trans hread, htext⟩
    · exact ⟨_, heq, hf text'⟩
  · obtain rfl := List.mem_singleton.mp hq
    obtain ⟨text, hread⟩ := h.replaced hfile
    exact ⟨_, hread, hf text⟩

end Disk

/-! ## Carrying out replacements -/

section

variable {P : String → Prop} {d₀ : Disk}

theorem PositionalReplacement.applyTo_replaced (r : PositionalReplacement) (value : Scalar) (path : Path) :
    Ends (· = d₀) (r.applyTo value path) fun _ d => d₀.hasFile path = true ∧
      Replaced ((Target.mk r.target).replaceAll value.written) path d₀ d := by
  unfold applyTo applyToBy
  have htext : Ends (· = d₀) (fileText path) fun text d => d = d₀ ∧ d₀.readText path = .ok text := by
    unfold fileText
    refine (Ends.inspect _).bind fun b => .ite (fun _ => ?_) fun _ => .fail _
    refine (Ends.query _).imp (fun d hd => hd.1) fun text d hd => ?_
    obtain ⟨rfl, h⟩ := hd
    exact ⟨rfl, h⟩
  refine htext.bind fun text => .of_pre fun hread => ?_
  refine .change fun d d' hd hwrite => ?_
  subst hd
  exact ⟨hasFile_of_readText hread, .of_writeText hread hwrite⟩

theorem FilesetReplacement.applyTo_replaced (r : FilesetReplacement) (path : Path) :
    Ends (· = d₀) (r.applyTo path) fun _ d =>
      Replaced ((Target.mk r.target).replaceAll r.value.written) path d₀ d := by
  -- a disk on which nothing changes
  have hsame : (∀ text, d₀.readText path = .ok text → (Target.mk r.target).replaceAll r.value.written text = text) →
      (d₀.hasFile path = true → ∃ text, d₀.readText path = .ok text) →
      Replaced ((Target.mk r.target).replaceAll r.value.written) path d₀ d₀ := fun heq hread => by
    refine ⟨fun _ => rfl, fun _ => Or.inl rfl, fun hfile => ?_⟩
    obtain ⟨text, htext⟩ := hread hfile
    exact ⟨text, by rw [htext, heq text htext]⟩
  unfold applyTo applyToBy
  refine (Ends.inspect _).bind fun b => .ite (fun _ => ?_) fun hb => ?_
  · refine (Ends.query _).bind fun text => ?_
    have hpre : ∀ d, (d = d₀ ∧ d.hasFile path = b) ∧ d.readText path = .ok text →
        d = d₀ ∧ d₀.readText path = .ok text := by
      rintro d ⟨⟨rfl, -⟩, hread⟩
      exact ⟨rfl, hread⟩
    refine (Ends.of_pre fun hread => ?_).imp hpre fun _ _ hd => hd
    refine .ite (fun heq => .pure fun d hd => ?_) fun _ => ?_
    · subst hd
      refine hsame (fun text' h => ?_) fun _ => ⟨text, hread⟩
      obtain rfl := Except.ok.inj (hread.symm.trans h)
      exact heq
    · refine Ends.seq (.change fun d d' hd hwrite => ?_) fun _ => .pure fun _ hd => hd
      subst hd
      exact Replaced.of_writeText hread hwrite
  · have hpost : ∀ d, d = d₀ ∧ d.hasFile path = b →
        Replaced ((Target.mk r.target).replaceAll r.value.written) path d₀ d := by
      rintro d ⟨rfl, hfile⟩
      refine ⟨fun _ => rfl, fun _ => Or.inl rfl, fun h => ?_⟩
      exact absurd (hfile.symm.trans h) hb
    refine ((Ends.inspect _).post fun _ d hd => hpost d hd.1).seq fun _ =>
      .ite (fun _ => .pure fun _ hd => hd) fun _ => ?_
    exact (Ends.warn _).seq fun _ => .pure fun _ hd => hd

theorem PositionalReplacement.apply_replaced {r : PositionalReplacement} {files : List Path}
    (hP : ∀ value ∈ r.valuesFor files.length, ∀ text, P ((Target.mk r.target).replaceAll value.written text)) :
    Ends (fun _ => True) (r.apply files) fun _ d => ∀ path ∈ files, ∃ text, d.readText path = .ok text ∧ P text := by
  rw [PositionalReplacement.apply_eq]
  refine .ite (fun _ => .fail _) fun hlength => ?_
  have hloop := @Ends.forM _ (fun x : Scalar × Path => r.applyTo x.1 x.2)
    (fun done d => AllRead P (done.map (·.2)) d ∧ ∀ x ∈ done, d.hasFile x.2 = true)
    [] ((r.valuesFor files.length).zip files) fun done x rest heq => ?_
  · refine hloop.imp (fun d _ => ⟨fun _ h => (List.not_mem_nil h).elim, fun _ h => (List.not_mem_nil h).elim⟩)
      fun _ d ⟨hread, hfile⟩ path hpath => ?_
    have hfiles : ((r.valuesFor files.length).zip files).map (·.2) = files :=
      List.map_snd_zip (Nat.le_of_eq (not_not.mp hlength).symm)
    rw [List.nil_append] at hread hfile
    obtain ⟨x, hx, rfl⟩ := List.mem_map.mp (hfiles.symm ▸ hpath)
    exact hread x.2 (List.mem_map_of_mem hx) (hfile x hx)
  · have hx : x ∈ (r.valuesFor files.length).zip files := mem_of_step heq
    have hvalue : x.1 ∈ r.valuesFor files.length := (List.of_mem_zip hx).1
    intro w a w' ⟨hread, hfile⟩ hon
    obtain ⟨hthis, hreplaced⟩ := r.applyTo_replaced x.1 x.2 w a w' rfl hon
    refine ⟨?_, fun y hy => ?_⟩
    · rw [List.map_append]
      exact hreplaced.concat (hP x.1 hvalue) hread
    · rw [hreplaced.hasFile]
      rcases List.mem_append.mp hy with hy | hy
      · exact hfile y hy
      · obtain rfl := List.mem_singleton.mp hy
        exact hthis

theorem FilesetReplacement.applyEach_replaced {r : FilesetReplacement}
    (hP : ∀ text, P ((Target.mk r.target).replaceAll r.value.written text)) :
    ∀ (paths done : List Path), Ends (fun d => AllRead P done d ∧ ∀ q, d.hasFile q = d₀.hasFile q)
      (r.applyEach paths) fun _ d => AllRead P (done ++ paths) d ∧ ∀ q, d.hasFile q = d₀.hasFile q
  | [], done => .pure fun d hd => by rwa [List.append_nil]
  | path :: rest, done => by
    have hstep : Ends (fun d => AllRead P done d ∧ ∀ q, d.hasFile q = d₀.hasFile q) (r.applyTo path)
        fun _ d => AllRead P (done ++ [path]) d ∧ ∀ q, d.hasFile q = d₀.hasFile q := by
      intro w a w' ⟨hread, hfile⟩ hon
      have hreplaced := r.applyTo_replaced path w a w' rfl hon
      exact ⟨hreplaced.concat hP hread, fun q => (hreplaced.hasFile q).trans (hfile q)⟩
    rw [FilesetReplacement.applyEach_cons]
    refine hstep.seq fun _ => ?_
    have hrest := applyEach_replaced hP rest (done ++ [path])
    rw [List.append_assoc] at hrest
    exact hrest.seq fun _ => .pure fun _ hd => hd

theorem FilesetReplacement.apply_replaced {r : FilesetReplacement} {root : Path}
    (hP : ∀ text, P ((Target.mk r.target).replaceAll r.value.written text)) :
    Ends (· = d₀) (r.apply root) fun _ d => ∃ paths, r.resolved d₀ root = .ok paths ∧ AllRead P paths d ∧
      ∀ q, d.hasFile q = d₀.hasFile q := by
  rw [FilesetReplacement.apply_eq]
  refine resolve_ends.bind fun paths => .of_pre fun hpaths => ?_
  refine (applyEach_replaced hP paths []).imp (fun d hd => ?_)
    fun _ d hd => ⟨paths, hpaths, hd⟩
  subst hd
  exact ⟨fun _ h => (List.not_mem_nil h).elim, fun _ => rfl⟩

end

/-- **No placeholder is left behind**: after a replacement of a placeholder has been carried out, no file that it has
gone through has the placeholder, whatever stood there and however the files are called. -/
theorem no_placeholder_left (name : List Char) :
    (∀ (r : FilesetReplacement) (root : Path) (w w' : World) (n : Nat), r.target = String.ofList (braced name) →
      Settles name r.value.written.toList → (r.apply root).on w = (.ok n, w') →
      ∃ paths, (r.resolve root).on w = (.ok paths, w) ∧ ∀ path ∈ paths,
        w'.disk.hasFile path = w.disk.hasFile path ∧ (w'.disk.hasFile path = true →
          ∃ text, w'.disk.readText path = .ok text ∧ ¬braced name <:+: text.toList)) ∧
    (∀ (r : PositionalReplacement) (files : List Path) (w w' : World), r.target = String.ofList (braced name) →
      (∀ value ∈ r.valuesFor files.length, Settles name value.written.toList) →
      (r.apply files).on w = (.ok (), w') →
      ∀ path ∈ files, ∃ text, w'.disk.readText path = .ok text ∧ ¬braced name <:+: text.toList) := by
  constructor
  · intro r root w w' n ht hvalue hrun
    obtain ⟨paths, hpaths, hread, hfile⟩ :=
      FilesetReplacement.apply_replaced (P := fun text => ¬braced name <:+: text.toList)
        (fun text => hvalue.absent ht text) w n w' rfl hrun
    exact ⟨paths, by rw [FilesetReplacement.resolve_on, hpaths], fun path hpath => ⟨hfile path, hread path hpath⟩⟩
  · intro r files w w' ht hvalue hrun
    exact PositionalReplacement.apply_replaced (P := fun text => ¬braced name <:+: text.toList)
      (fun value hm text => (hvalue value hm).absent ht text) w () w' trivial hrun

/-- A disk with a placeholder in a file. -/
def bracedDisk : Disk :=
  [(["w"], Entry.directory), (["w", "t"], .file "{{A}}b".toUTF8)].foldl (fun d (q, e) => d.insert q e) ⟨∅, []⟩

theorem no_placeholder_left_small : ∃ w₁ w₂ : World,
    ((FilesetReplacement.mk "{{A}}" (.text "c") (some ["t"]) none).apply ⟨["w"]⟩).on ⟨bracedDisk, []⟩ = (.ok 1, w₁) ∧
    (∃ paths, ((FilesetReplacement.mk "{{A}}" (.text "c") (some ["t"]) none).resolve ⟨["w"]⟩).on ⟨bracedDisk, []⟩ =
      (.ok paths, ⟨bracedDisk, []⟩) ∧ ∀ path ∈ paths, w₁.disk.hasFile path = bracedDisk.hasFile path ∧
        (w₁.disk.hasFile path = true →
          ∃ text, w₁.disk.readText path = .ok text ∧ ¬braced ['A'] <:+: text.toList)) ∧
    ((PositionalReplacement.mk "{{A}}" none).apply [⟨["w", "t"]⟩]).on ⟨bracedDisk, []⟩ = (.ok (), w₂) ∧
    ∃ text, w₂.disk.readText ⟨["w", "t"]⟩ = .ok text ∧ ¬braced ['A'] <:+: text.toList := by
  obtain ⟨hfileset, hpositional⟩ := no_placeholder_left ['A']
  have hliteral : (Target.mk "{{A}}").IsLiteral := .inl (by decide +kernel)
  have hrun := Site.apply_on_changed (.mk "{{A}}" (.text "c") (some ["t"]) none) ⟨["w"]⟩ ⟨["w", "t"]⟩ ["w", "t"]
    "{{A}}b" "cb" ⟨bracedDisk, []⟩ (by decide +kernel) (by decide +kernel) (by decide +kernel) (by decide +kernel)
    (by decide +kernel) (by rw [hliteral.replaceAll_eq]; decide +kernel) (by decide)
  have hstands : Stands [] ⟨["w"]⟩ bracedDisk := ⟨by decide +kernel, rfl, by decide +kernel⟩
  have hfile : bracedDisk.find? ["w", "t"] = some (.file "{{A}}b".toUTF8) := by decide +kernel
  have hholding : Holding [] ⟨["w"]⟩ ["t"] (fun _ => "{{A}}b".toUTF8) bracedDisk bracedDisk := by
    refine ⟨hstands, fun i name hi => ?_, fun _ _ => rfl⟩
    obtain rfl := List.mem_singleton.mp (List.mem_of_getElem? hi)
    exact hfile
  obtain ⟨_, w₂, hon⟩ := PositionalReplacement.apply_succeeds (r := .mk "{{A}}" none) (by decide)
    (by decide +kernel) (by decide) (fun _ h => by cases h) (fun _ => ⟨_, rfl⟩) ⟨bracedDisk, []⟩ hholding
  refine ⟨_, w₂, hrun, hfileset _ _ _ _ _ (by decide) (by decide) hrun, hon, ?_⟩
  exact hpositional _ _ _ _ (by decide) (by decide +kernel) hon _ List.mem_cons_self

end SiteGen
