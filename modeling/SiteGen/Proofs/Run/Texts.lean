import SiteGen.Proofs.Run.Ends

/-!
# Texts in files

* `fromUTF8?_eq_some`: the bytes of a text.
* `Disk.HasText`, `Disk.refusal`: paths that lead to texts, and why others do not.
* `Disk.Stands.writeBytes`, `Disk.Stands.copyFile`: writing and copying a file below a directory.
* `Disk.hasFile_names`, `Disk.Called`: a file called by names that go down from a directory.
* `Run.fileText_on`, `Run.fileText_refused`: how reading the text of a file ends.
* `Run.fileText_ends`, `Run.putText_ends`: what reading and writing a text says about the disk.
-/

namespace SiteGen

theorem fromUTF8?_toUTF8 (s : String) : String.fromUTF8? s.toUTF8 = some s := dif_pos s.isValidUTF8

/-- The bytes of a text that is read are **the bytes of the text**. -/
theorem fromUTF8?_eq_some {content : ByteArray} {text : String}
    (h : String.fromUTF8? content = some text) : content = text.toUTF8 := by
  unfold String.fromUTF8? at h
  split at h
  · rw [← Option.some.inj h]
    rfl
  · cases h

/-- The entry with the content of a file **mapped**. -/
def Entry.map (f : ByteArray → ByteArray) : Entry → Entry
  | .file content => .file (f content)
  | e => e

@[simp]
theorem Entry.map_id (e : Entry) : e.map id = e := by
  cases e <;> rfl

theorem Entry.map_map (f g : ByteArray → ByteArray) (e : Entry) : (e.map f).map g = e.map (g ∘ f) := by
  cases e <;> rfl

theorem map_of_not_file {e : Option Entry} (h : ∀ content, e ≠ some (.file content))
    (f : ByteArray → ByteArray) : e.map (·.map f) = e := by
  rcases e with _ | ⟨⟨⟩ | content | target⟩
  · rfl
  · rfl
  · exact absurd rfl (h content)
  · rfl

theorem file_of_any {e : Option Entry} (h : e.any (·.isFile) = true) : ∃ content, e = some (.file content) := by
  rcases e with _ | ⟨⟨⟩ | content | target⟩
  · cases h
  · cases h
  · exact ⟨content, rfl⟩
  · cases h

theorem any_isDirectory_iff {e : Option Entry} : e.any (·.isDirectory) = true ↔ e = some .directory := by
  rcases e with _ | ⟨⟨⟩ | content | target⟩ <;> simp [Entry.isDirectory]

theorem any_isFile_of_not_file {e : Option Entry} (h : ∀ content, e ≠ some (.file content)) :
    e.any (·.isFile) = false := by
  rcases e with _ | ⟨⟨⟩ | content | target⟩
  · rfl
  · rfl
  · exact absurd rfl (h content)
  · rfl

namespace Disk

open SiteGen.Path

variable {d : Disk} {p : Path} {home : Place}

theorem find?_of_readText (hd : d.Linkless) {text : String} (h : d.readText p = .ok text) :
    d.find? (p.place d.home) = some (.file text.toUTF8) := by
  unfold readText at h
  cases hr : d.readBytes p with
  | error fault => simp [hr, bind, Except.bind] at h
  | ok content =>
    simp only [hr, bind, Except.bind] at h
    cases ht : String.fromUTF8? content with
    | none => simp [ht] at h
    | some text' =>
      simp only [ht, Except.ok.injEq] at h
      rw [find?_of_readBytes hd hr, fromUTF8?_eq_some ht, h]

theorem hasFile_of_readText {text : String} (h : d.readText p = .ok text) : d.hasFile p = true := by
  unfold readText readBytes at h
  unfold hasFile
  cases hl : d.look p with
  | error fault => simp [hl, bind, Except.bind] at h
  | ok r =>
    obtain ⟨q, e⟩ := r
    cases e with
    | file content => rfl
    | directory => simp [hl, bind, Except.bind] at h
    | link target => simp [hl, bind, Except.bind] at h

/-- Whether a path leads to **a text**: to a file whose bytes are one. -/
def HasText (d : Disk) (p : Path) : Prop := ∃ text, d.readText p = .ok text

/-- Why there is **no text** at the end of a path. -/
def refusal (d : Disk) (p : Path) : Error := if d.hasFile p then .disk .notText else .fileNotFound p

theorem readBytes_of_hasFile (h : d.hasFile p = true) : ∃ content, d.readBytes p = .ok content := by
  unfold hasFile at h
  unfold readBytes
  cases hl : d.look p with
  | error fault => simp [hl, Except.toOption] at h
  | ok found =>
    obtain ⟨q, e⟩ := found
    cases e with
    | file content => exact ⟨content, rfl⟩
    | directory => simp [hl, Except.toOption, Entry.isFile] at h
    | link target => simp [hl, Except.toOption, Entry.isFile] at h

theorem readText_of_readBytes {text : String} (h : d.readBytes p = .ok text.toUTF8) : d.readText p = .ok text := by
  unfold readText
  rw [h]
  simp only [bind, Except.bind, fromUTF8?_toUTF8]

theorem readText_of_not_hasText (h : d.hasFile p = true) (hnot : ¬d.HasText p) :
    d.readText p = .error .notText := by
  obtain ⟨content, hbytes⟩ := readBytes_of_hasFile h
  unfold HasText readText at hnot
  unfold readText
  rw [hbytes] at hnot ⊢
  cases ht : String.fromUTF8? content with
  | none => simp [bind, Except.bind, ht]
  | some text => exact absurd ⟨text, by simp [bind, Except.bind, ht]⟩ hnot

/-- Where a path leads to if it leads to a text: to **the bytes of the text**. -/
theorem hasText_iff (hd : d.Linkless) : d.HasText p ↔ d.hasFile p = true ∧
    ∃ text : String, d.find? (p.place d.home) = some (.file text.toUTF8) := by
  constructor
  · rintro ⟨text, h⟩
    exact ⟨hasFile_of_readText h, text, find?_of_readText hd h⟩
  · rintro ⟨h, text, hp⟩
    obtain ⟨content, hbytes⟩ := readBytes_of_hasFile h
    obtain rfl := Entry.file.inj (Option.some.inj ((find?_of_readBytes hd hbytes).symm.trans hp))
    exact ⟨text, readText_of_readBytes hbytes⟩

/-- **The text of a file** in a directory that stands. -/
theorem Stands.readText_child (h : Stands home p d) {name : String} (hn : IsDiskName name)
    (hlong : (p.join ⟨[name]⟩).isLong = false) {text : String}
    (hfile : d.find? (p.place home ++ [name]) = some (.file text.toUTF8)) :
    d.readText (p.join ⟨[name]⟩) = .ok text := by
  obtain ⟨ht, rfl, hleads⟩ := h
  have hplace := place_child (p := p) d.home hn.toIsPlainName
  have hfound : d.hasFile (p.join ⟨[name]⟩) = true := by
    rw [hasFile_child ht hleads hn, hfile, hlong]
    rfl
  obtain ⟨text', hread⟩ := (hasText_iff ht.noLink).mpr ⟨hfound, text, by rw [hplace, hfile]⟩
  have hsame := (find?_of_readText ht.noLink hread).symm.trans (hplace ▸ hfile)
  rw [hread, String.toByteArray_inj.mp (Entry.file.inj (Option.some.inj hsame))]

/-- **Writing bytes** below a directory that stands. -/
theorem Stands.writeBytes (h : Stands home p d) {q : Path} (hq : Descends q) {content : ByteArray}
    {d' : Disk} (hwrite : d.writeBytes (p.join q) content = .ok d') :
    Stands home p d' ∧ d.find? ((p.join q).place home) ≠ some .directory ∧
      ∀ x, d'.find? x = if (p.join q).place home = x then some (.file content) else d.find? x := by
  obtain ⟨x, hcalls, hnot, rfl⟩ :=
    writeBytes_cases h.tree (h.leads.grounded_join hq.toContinues) hwrite
  obtain ⟨ht, rfl, hleads⟩ := id h
  have hplace := hcalls.place_eq
  subst hplace
  refine ⟨h.of_dirsStay ?_ rfl (dirsStay_insert_file hcalls.ne_nil hnot _), hnot, fun y => ?_⟩
  · exact hcalls.insert ht (hleads.admits hq) (by simp) fun hdir => absurd hdir hnot
  · rw [find?_insert _ _ _ _ hcalls.ne_nil]

/-- **Copying a file** to below a directory that stands: it gets the content of the source, unless the
source is the same file. -/
theorem Stands.copyFile (h : Stands home p d) {source q : Path} (hq : Descends q) {d' : Disk}
    (hcopy : d.copyFile source (p.join q) = .ok d') :
    Stands home p d' ∧ d.find? ((p.join q).place home) ≠ some .directory ∧ ∃ content,
      (∀ x, d'.find? x = if (p.join q).place home = x then some (.file content) else d.find? x) ∧
      (source.place home ≠ (p.join q).place home →
        d.find? (source.place home) = some (.file content)) := by
  obtain ⟨x, content, hcalls, hnot, ht, rfl, hread⟩ :=
    copyFile_cases h.tree (h.leads.grounded_join hq.toContinues) (h.leads.admits hq) hcopy
  obtain ⟨-, rfl, -⟩ := id h
  have hplace := hcalls.place_eq
  subst hplace
  exact ⟨h.of_dirsStay ht rfl (dirsStay_insert_insert hcalls.ne_nil hnot _ _), hnot, content,
    find?_insert_insert hcalls.ne_nil d _ _, hread⟩

theorem accepted_of_hasFile (h : d.hasFile p = true) : p.Accepted := by
  unfold hasFile at h
  cases hl : d.look p with
  | error fault => simp [hl, Except.toOption] at h
  | ok found => exact accepted_of_lookFor hl

/-- A file that is there **is found** by the names on the way, if they are not too long. -/
theorem hasFile_names (h : Stands home p d) {names : List String} (hne : names ≠ [])
    (hn : ∀ n ∈ names, IsDiskName n) :
    d.hasFile (p.join ⟨names⟩) =
      (!(p.join ⟨names⟩).isLong && (d.find? (p.place home ++ names)).any (·.isFile)) := by
  obtain ⟨ht, rfl, hp⟩ := h
  have hplain : ∀ n ∈ names, IsPlainName n := fun n hm => (hn n hm).toIsPlainName
  rw [Bool.eq_iff_iff, Bool.and_eq_true, Bool.not_eq_true']
  constructor
  · intro hfile
    rw [← place_names d.home hne hplain]
    exact ⟨(accepted_of_hasFile hfile).not_long, isFile_of_hasFile ht.noLink hfile⟩
  · rintro ⟨hlong, hfile⟩
    cases he : d.find? (p.place d.home ++ names) with
    | none => simp [he] at hfile
    | some e =>
      rw [hasFile, look, lookFor_names ht hp hne hn hlong he]
      rw [he] at hfile
      exact hfile

/-- Whether a file with a content is **called by names** below a directory, by a path that is not too long. -/
structure Called (home : Place) (p : Path) (names : List String) (content : ByteArray) (d : Disk) : Prop where
  file : d.find? (p.place home ++ names) = some (.file content)
  short : (p.join ⟨names⟩).isLong = false

theorem Called.ne_nil (h : Stands home p d) {names : List String} {content : ByteArray}
    (hf : Called home p names content d) : names ≠ [] := by
  rintro rfl
  have := hf.file
  rw [List.append_nil, h.place] at this
  cases this

/-- A name leads to a file **just when one is called** by it. -/
theorem hasFile_iff_called (h : Stands home p d) {name : String} (hn : IsDiskName name) :
    d.hasFile (p.join ⟨[name]⟩) = true ↔ ∃ content, Called home p [name] content d := by
  rw [hasFile_names h (List.cons_ne_nil _ _) (List.forall_mem_singleton.mpr hn), Bool.and_eq_true,
    Bool.not_eq_true']
  constructor
  · rintro ⟨hlong, hfile⟩
    obtain ⟨content, hcontent⟩ := file_of_any hfile
    exact ⟨content, hcontent, hlong⟩
  · rintro ⟨content, hcontent, hlong⟩
    exact ⟨hlong, by rw [hcontent]; rfl⟩

end Disk

namespace Run

open Disk SiteGen.Path

variable {home : Place} {p q : Path} {d₀ : Disk}

theorem fileText_on {w : World} {text : String} (h : w.disk.readText p = .ok text) :
    (fileText p).on w = (.ok text, w) := by
  unfold fileText
  rw [bind_of_ok (inspect_on _ _), if_pos (hasFile_of_readText h), query_on, h]
  rfl

/-- A path that leads to no text **is refused**. -/
theorem fileText_refused {w : World} (h : ¬w.disk.HasText p) :
    (fileText p).on w = (.error (w.disk.refusal p), w) := by
  unfold fileText refusal
  rw [bind_of_ok (inspect_on _ _)]
  by_cases hfile : w.disk.hasFile p = true
  · rw [if_pos hfile, if_pos hfile, query_on, readText_of_not_hasText hfile h]
    rfl
  · rw [if_neg hfile, if_neg hfile]
    rfl

theorem fileText_ends (p : Path) (hd : d₀.Linkless) :
    Ends (· = d₀) (fileText p) fun text d =>
      d = d₀ ∧ d₀.find? (p.place d₀.home) = some (.file text.toUTF8) := by
  unfold fileText
  refine (Ends.inspect _).bind fun b => .ite (fun _ => ?_) fun _ => .fail _
  refine ((Ends.query _).imp (fun d hd => hd.1) fun text d h => ?_)
  obtain ⟨rfl, h⟩ := h
  exact ⟨rfl, find?_of_readText hd h⟩

/-- **Writing a text** writes its bytes at the place of the path. -/
theorem putText_ends (hq : Descends q) (h : Stands home p d₀) (text : String) :
    Ends (· = d₀) (putText (p.join q) text) fun _ d => Stands home p d ∧
      ∀ x, d.find? x = if (p.join q).place home = x then some (.file text.toUTF8) else d₀.find? x := by
  refine .change fun d d' hd hwrite => ?_
  subst hd
  obtain ⟨hstands, -, hfind⟩ := h.writeBytes hq hwrite
  exact ⟨hstands, hfind⟩

end Run

end SiteGen
