import Mathlib.Algebra.BigOperators.Group.Finset.Basic
import Mathlib.Data.List.Permutation
import SiteGen.Proofs.Replacement.Positional
import SiteGen.Proofs.Replacement.Reworked
import SiteGen.Site

/-!
# Replacements one after the other

A replacement reworks the files that its globs select, each by itself, and counts those that it has
changed. What a list of replacements makes of a file is a fold over those that select it.

* `FilesetReplacement.reworkIn`, `foldIn`: what replacements make of the content of a file.
* `FilesetReplacement.Carried`: the outcome of a replacement in given files.
* `FilesetReplacement.apply_carried`: carrying out a replacement.
* `Site.replaceAll_fold`: carrying out the replacements of a site.
-/

namespace SiteGen

open Disk SiteGen.Path Run

/-! ## Targets that do not occur -/

namespace Regex

theorem splitFrom_of_no_pieces (find : Finder) (before : Option Char) (rest gap : List Char)
    (h : (splitFrom find before rest false gap).pieces = []) :
    (splitFrom find before rest false gap).tail = gap.reverse ++ rest := by
  induction rest generalizing before gap with
  | nil =>
    unfold splitFrom at h ⊢
    split at h
    · simp at h
    · simp_all
  | cons c rest ih =>
    unfold splitFrom at h ⊢
    split at h
    · split at h <;> simp at h
    · next hfind =>
      rw [ih _ _ h]
      simp

end Regex

theorem Target.replaceAll_of_spans_eq_nil {t : Target} {text : String} (h : t.spans text = [])
    (value : String) : t.replaceAll value text = text := by
  have hpieces : (Regex.Finder.split t.pattern.checkedEnd? text.toList).pieces = [] := by
    unfold spans Regex.Finder.spans at h
    cases hp : (Regex.Finder.split t.pattern.checkedEnd? text.toList).pieces with
    | nil => rfl
    | cons piece pieces =>
      rw [hp] at h
      simp [Regex.spansFrom] at h
  have htail := Regex.splitFrom_of_no_pieces _ _ _ _ hpieces
  unfold replaceAll Regex.Finder.replaceAll
  dsimp only
  rw [hpieces, Regex.Finder.split, htail]
  simp

namespace FilesetReplacement

variable {home : Place} {p : Path} {d₀ d : Disk} {r : FilesetReplacement}

/-! ## What replacements make of a file -/

/-- Whether paths **reach** a place: one of them that is not too long leads there. -/
def Reaches (home : Place) (paths : List Path) (x : Place) : Prop :=
  ∃ path ∈ paths, path.isLong = false ∧ path.place home = x

instance (home : Place) (paths : List Path) (x : Place) : Decidable (Reaches home paths x) :=
  inferInstanceAs (Decidable (∃ path ∈ paths, _))

/-- What a replacement makes of **the content** of a file: the text with the value in place of the target. -/
def rework (r : FilesetReplacement) : ByteArray → ByteArray :=
  onText ((Target.mk r.target).replaceAll r.value.written)

/-- What a replacement in the files of some paths makes of the content of **the file at a place**. -/
def reworkIn (r : FilesetReplacement) (home : Place) (paths : List Path) (x : Place)
    (content : ByteArray) : ByteArray :=
  if Reaches home paths x then r.rework content else content

/-- What replacements, each with the paths of its files, make of it **one after the other**. -/
def foldIn (home : Place) (entries : List (FilesetReplacement × List Path)) (x : Place)
    (content : ByteArray) : ByteArray :=
  entries.foldl (fun content entry => entry.1.reworkIn home entry.2 x content) content

variable {path : Path} {paths : List Path} {x : Place}

theorem reaches_cons : Reaches home (path :: paths) x ↔
    (path.isLong = false ∧ path.place home = x) ∨ Reaches home paths x := by
  simp [Reaches]

theorem reaches_singleton : Reaches home [path] x ↔ path.isLong = false ∧ path.place home = x := by
  simp [Reaches]

theorem rework_text (text : String) :
    r.rework text.toUTF8 = ((Target.mk r.target).replaceAll r.value.written text).toUTF8 := onText_toUTF8 ..

theorem reworkIn_of_not_reaches (h : ¬Reaches home paths x) : r.reworkIn home paths x = id := by
  funext content
  rw [reworkIn, if_neg h, id]

theorem reworkIn_of_reaches (h : Reaches home paths x) : r.reworkIn home paths x = r.rework := by
  funext content
  rw [reworkIn, if_pos h]

theorem reworkIn_cons (h : ¬Reaches home paths (path.place home)) (x : Place) :
    r.reworkIn home (path :: paths) x = r.reworkIn home paths x ∘ r.reworkIn home [path] x := by
  by_cases hpath : Reaches home [path] x
  · have hx : path.place home = x := (reaches_singleton.mp hpath).2
    rw [reworkIn_of_reaches (reaches_cons.mpr (.inl (reaches_singleton.mp hpath))),
      reworkIn_of_reaches hpath, reworkIn_of_not_reaches (hx ▸ h), Function.id_comp]
  · have hiff : Reaches home (path :: paths) x ↔ Reaches home paths x := by
      rw [reaches_cons, ← reaches_singleton, or_iff_right hpath]
    rw [reworkIn_of_not_reaches hpath, Function.comp_id]
    funext content
    rw [reworkIn, reworkIn, if_congr hiff rfl rfl]

theorem foldIn_cons (entry : FilesetReplacement × List Path)
    (entries : List (FilesetReplacement × List Path)) (x : Place) :
    foldIn home (entry :: entries) x = foldIn home entries x ∘ entry.1.reworkIn home entry.2 x := rfl

theorem text_of_reworkIn {content : ByteArray} {text : String}
    (h : r.reworkIn home paths x content = text.toUTF8) : ∃ text : String, content = text.toUTF8 := by
  cases ht : String.fromUTF8? content with
  | some text' => exact ⟨text', fromUTF8?_eq_some ht⟩
  | none =>
    have hsame : r.reworkIn home paths x content = content := by
      simp [reworkIn, rework, onText, ht]
    exact ⟨text, hsame.symm.trans h⟩

/-! ## Carrying out one replacement -/

/-- The **outcome** of a replacement in the files of some paths: they are reworked, the number of changed
ones is counted, and all of them were texts. -/
structure Carried (r : FilesetReplacement) (home : Place) (paths : List Path) (d₀ : Disk) (n : Nat)
    (d : Disk) : Prop where
  reworked : Reworked (r.reworkIn home paths) d₀ d
  count : n = d₀.differences (fun _ => id) (r.reworkIn home paths)
  text : ∀ x content, Reaches home paths x → d₀.find? x = some (.file content) →
    ∃ text : String, content = text.toUTF8

theorem Carried.same (ht : d.IsTree)
    (h : ∀ x content, Reaches home paths x → d.find? x = some (.file content) →
      ∃ text : String, content = text.toUTF8 ∧ r.rework content = content) :
    Carried r home paths d 0 d := by
  have hsame : ∀ x content, d.find? x = some (.file content) → r.reworkIn home paths x content = content := by
    intro x content hx
    by_cases hm : Reaches home paths x
    · obtain ⟨-, -, hcontent⟩ := h x content hm hx
      rw [reworkIn_of_reaches hm, hcontent]
    · rw [reworkIn_of_not_reaches hm, id]
  refine ⟨.refl ht hsame, (differences_eq_zero ht fun x content hx => (hsame x content hx).symm).symm, ?_⟩
  intro x content hm hx
  obtain ⟨text, htext, -⟩ := h x content hm hx
  exact ⟨text, htext⟩

/-- **One file** is changed if what is written to it is not what was there. -/
theorem Carried.written {text : String} (ht : d₀.IsTree) (hlong : path.isLong = false)
    (hf : d₀.find? (path.place home) = some (.file text.toUTF8))
    (hchanged : (Target.mk r.target).replaceAll r.value.written text ≠ text)
    (hhome : d.home = d₀.home) (htree : d.IsTree)
    (hwritten : ∀ x, d.find? x = if path.place home = x then
      some (.file ((Target.mk r.target).replaceAll r.value.written text).toUTF8) else d₀.find? x) :
    Carried r home [path] d₀ 1 d := by
  have hthis : r.reworkIn home [path] (path.place home) = r.rework :=
    reworkIn_of_reaches (reaches_singleton.mpr ⟨hlong, rfl⟩)
  have hother : ∀ x, path.place home ≠ x → r.reworkIn home [path] x = id := fun x hx =>
    reworkIn_of_not_reaches fun h => hx (reaches_singleton.mp h).2
  refine ⟨⟨hhome, htree, fun x => ?_⟩, ?_, fun x content hx hc => ?_⟩
  · rw [hwritten]
    by_cases hx : path.place home = x
    · subst hx
      rw [if_pos rfl, hf, Option.map_some, Entry.map, hthis, rework_text]
    · rw [if_neg hx, hother x hx]
      cases d₀.find? x <;> simp
  · refine (differences_eq_one ht hf ?_ fun y hy => (hother y (Ne.symm hy)).symm).symm
    rw [hthis, rework_text, id]
    exact fun heq => hchanged (String.toByteArray_inj.mp heq).symm
  · obtain ⟨-, rfl⟩ := reaches_singleton.mp hx
    exact ⟨text, by simpa using hc.symm.trans hf⟩

theorem applyTo_carried (h : Stands home p d₀) {m : List String} (hne : m ≠ [])
    (hm : ∀ n ∈ m, IsDiskName n) :
    Ends (· = d₀) (r.applyTo (p.join ⟨m⟩)) fun changed d =>
      Carried r home [p.join ⟨m⟩] d₀ (if changed then 1 else 0) d := by
  have hplain : ∀ n ∈ m, IsPlainName n := fun n hn => (hm n hn).toIsPlainName
  have hplace : (p.join ⟨m⟩).place home = p.place home ++ m := place_names home hne hplain
  unfold applyTo applyToBy
  refine (Ends.inspect _).bind fun b => .ite (fun _ => ?_) (fun hb => ?_)
  · refine (Ends.query _).bind fun text => ?_
    have hpre : ∀ d, (d = d₀ ∧ d.hasFile (p.join ⟨m⟩) = b) ∧ d.readText (p.join ⟨m⟩) = .ok text →
        d = d₀ ∧ (p.join ⟨m⟩).isLong = false ∧
          d₀.find? ((p.join ⟨m⟩).place home) = some (.file text.toUTF8) := by
      rintro d ⟨⟨rfl, -⟩, hread⟩
      have hf := find?_of_readText h.tree.noLink hread
      rw [h.home_eq] at hf
      exact ⟨rfl, (accepted_of_hasFile (hasFile_of_readText hread)).not_long, hf⟩
    refine (Ends.of_pre fun hread => ?_).imp hpre fun _ _ hd => hd
    obtain ⟨hlong, hf⟩ := hread
    refine .ite (fun heq => .pure fun d hd => ?_) fun hchanged => ?_
    · subst hd
      refine .same h.tree fun x content hx hc => ?_
      obtain ⟨-, rfl⟩ := reaches_singleton.mp hx
      obtain rfl : text.toUTF8 = content := by simpa using hf.symm.trans hc
      exact ⟨text, rfl, by rw [rework_text, heq]⟩
    · exact ((putText_ends (descends_names hne hplain) h _).post fun _ d hd =>
        Carried.written h.tree hlong hf hchanged (hd.1.home_eq.trans h.home_eq.symm) hd.1.tree hd.2).seq
        fun _ => .pure fun d hd => hd
  · have hpost : ∀ d, d = d₀ ∧ d.hasFile (p.join ⟨m⟩) = b → Carried r home [p.join ⟨m⟩] d₀ 0 d := by
      rintro d ⟨rfl, hfile⟩
      refine .same h.tree fun x content hx hc => ?_
      -- a path that is not too long would have been found to be a file
      obtain ⟨hlong, rfl⟩ := reaches_singleton.mp hx
      rw [hplace] at hc
      rw [hasFile_names h hne hm, hlong, hc] at hfile
      exact absurd hfile.symm hb
    refine ((Ends.inspect _).post fun _ d hd => hpost d hd.1).seq fun _ =>
      .ite (fun _ => .pure fun _ hd => hd) fun _ => ?_
    exact (Ends.warn _).seq fun _ => .pure fun _ hd => hd

theorem Carried.cons {d₁ : Disk} {k n : Nat} (ht : d₀.IsTree)
    (hnot : ¬Reaches home paths (path.place home)) (h : Carried r home [path] d₀ k d₁)
    (h' : Carried r home paths d₁ n d) : Carried r home (path :: paths) d₀ (k + n) d := by
  have hapart : ∀ x, Reaches home paths x → r.reworkIn home [path] x = id := fun x hx =>
    reworkIn_of_not_reaches fun hthis => hnot ((reaches_singleton.mp hthis).2 ▸ hx)
  refine ⟨(h.reworked.trans h'.reworked).congr fun x => (reworkIn_cons hnot x).symm, ?_, ?_⟩
  · rw [h.count, h'.count, h.reworked.differences_eq ht, ← differences_congr (fun _ => rfl)
      (reworkIn_cons hnot)]
    refine differences_add fun x => ?_
    by_cases hx : Reaches home paths x
    · exact Or.inl (hapart x hx)
    · refine Or.inr ?_
      rw [reworkIn_cons hnot, reworkIn_of_not_reaches hx, Function.id_comp]
  · intro x content hx hc
    rcases reaches_cons.mp hx with hx | hx
    · exact h.text x content (reaches_singleton.mpr hx) hc
    · refine h'.text x content hx ?_
      rw [h.reworked.find?, hc, Option.map_some, Entry.map, hapart x hx, id]

/-- Rewriting **several files**, each called once. -/
theorem applyEach_carried : ∀ {list : List (List String)} {d₀ : Disk}, Stands home p d₀ → list.Nodup →
    (∀ m ∈ list, m ≠ [] ∧ ∀ n ∈ m, IsDiskName n) →
    Ends (· = d₀) (r.applyEach (list.map fun m => p.join ⟨m⟩)) fun n d =>
      Carried r home (list.map fun m => p.join ⟨m⟩) d₀ n d
  | [], d₀, h, _, _ => .pure fun d hd => by
    subst hd
    exact .same h.tree (by simp [Reaches])
  | m :: list, d₀, h, hnodup, hlist => by
    obtain ⟨hnot, hnodup⟩ := List.nodup_cons.mp hnodup
    obtain ⟨hne, hm⟩ := hlist m List.mem_cons_self
    have hplace : ∀ l ∈ m :: list, (p.join ⟨l⟩).place home = p.place home ++ l := fun l hl =>
      place_names home (hlist l hl).1 fun n hn => ((hlist l hl).2 n hn).toIsPlainName
    have hother : ¬Reaches home (list.map fun m => p.join ⟨m⟩) ((p.join ⟨m⟩).place home) := by
      rintro ⟨path, hpath, -, heq⟩
      obtain ⟨l, hl, rfl⟩ := List.mem_map.mp hpath
      rw [hplace l (List.mem_cons_of_mem _ hl), hplace m List.mem_cons_self] at heq
      exact hnot (List.append_cancel_left heq ▸ hl)
    rw [List.map_cons, applyEach_cons]
    refine (applyTo_carried h hne hm).bind fun changed => ?_
    have hrest : Ends (Carried r home [p.join ⟨m⟩] d₀ (if changed then 1 else 0))
        (r.applyEach (list.map fun m => p.join ⟨m⟩)) fun n d =>
          Carried r home (p.join ⟨m⟩ :: list.map fun m => p.join ⟨m⟩) d₀
            ((if changed then 1 else 0) + n) d := fun w n w' hw hon =>
      hw.cons h.tree hother (applyEach_carried (hw.reworked.stands h) hnodup
        (fun l hl => hlist l (List.mem_cons_of_mem _ hl)) w n w' rfl hon)
    exact hrest.bind fun n => .pure fun _ hd => hd

/-- **Carrying out a replacement** reworks the files that it resolves to. -/
theorem apply_carried (h : Stands home p d₀) (hp : p.Accepted) :
    Ends (· = d₀) (r.apply p) fun n d => ∃ paths, r.resolved d₀ p = .ok paths ∧
      Carried r home paths d₀ n d := by
  rw [apply_eq]
  refine resolve_ends.bind fun paths => .of_pre fun hpaths => ?_
  obtain ⟨list, rfl, hnodup, hlist, -⟩ := select_names h hp r hpaths
  exact (applyEach_carried h hnodup fun m hm => ⟨(hlist m hm).1, (hlist m hm).2.1⟩).post
    fun _ d hd => ⟨_, hpaths, hd⟩

theorem resolved_reworked {f : Place → ByteArray → ByteArray} (h : Stands home p d₀)
    (hp : p.Accepted) (hd : Reworked f d₀ d) : r.resolved d p = r.resolved d₀ p :=
  hd.select_eq h hp _ _

/-! ## Carrying out several replacements -/

variable {entries : List (FilesetReplacement × List Path)}

theorem foldIn_eq_self {text : String} (h : ∀ entry ∈ entries,
      Reaches home entry.2 x → (Target.mk entry.1.target).spans text = []) :
    foldIn home entries x text.toUTF8 = text.toUTF8 := by
  induction entries with
  | nil => rfl
  | cons entry entries ih =>
    have hentry : entry.1.reworkIn home entry.2 x text.toUTF8 = text.toUTF8 := by
      by_cases hx : Reaches home entry.2 x
      · rw [reworkIn_of_reaches hx, rework_text,
          Target.replaceAll_of_spans_eq_nil (h _ List.mem_cons_self hx)]
      · rw [reworkIn_of_not_reaches hx, id]
    rw [foldIn_cons, Function.comp_apply, hentry]
    exact ih fun e he => h e (List.mem_cons_of_mem _ he)

theorem foldIn_of_not_reaches (h : ∀ entry ∈ entries, ¬Reaches home entry.2 x) :
    foldIn home entries x = id := by
  induction entries with
  | nil => rfl
  | cons entry entries ih =>
    rw [foldIn_cons, reworkIn_of_not_reaches (h _ List.mem_cons_self),
      ih fun e he => h e (List.mem_cons_of_mem _ he), Function.comp_id]

/-- In how many files the content differs **before and after a replacement**, for all of them together. -/
def changes (home : Place) (entries : List (FilesetReplacement × List Path)) (d : Disk) : Nat :=
  ∑ i ∈ Finset.range entries.length,
    d.differences (foldIn home (entries.take i)) (foldIn home (entries.take (i + 1)))

theorem changes_cons {entry : FilesetReplacement × List Path} (ht : d₀.IsTree)
    (h : Reworked (entry.1.reworkIn home entry.2) d₀ d) : changes home (entry :: entries) d₀ =
      d₀.differences (fun _ => id) (entry.1.reworkIn home entry.2) + changes home entries d := by
  unfold changes
  rw [List.length_cons, Finset.sum_range_succ', Nat.add_comm]
  congr 1
  refine Finset.sum_congr rfl fun i _ => ?_
  rw [h.differences_eq ht]
  rfl

/-- The **outcome** of replacements in the files of some paths, one after the other. -/
structure Folded (home : Place) (entries : List (FilesetReplacement × List Path)) (d₀ : Disk) (n : Nat)
    (d : Disk) : Prop where
  reworked : Reworked (foldIn home entries) d₀ d
  count : n = changes home entries d₀
  text : ∀ entry ∈ entries, ∀ x content, Reaches home entry.2 x →
    d₀.find? x = some (.file content) → ∃ text : String, content = text.toUTF8

theorem Folded.nil (ht : d.IsTree) : Folded home [] d 0 d :=
  ⟨.refl ht fun _ _ _ => rfl, rfl, by simp⟩

/-- One more replacement, **before the others**. -/
theorem Carried.fold {d₁ : Disk} {k n : Nat} (ht : d₀.IsTree)
    (h : Carried r home paths d₀ k d₁) (h' : Folded home entries d₁ n d) :
    Folded home ((r, paths) :: entries) d₀ (k + n) d := by
  refine ⟨h.reworked.trans h'.reworked, ?_, fun entry hentry x content hx hc => ?_⟩
  · rw [h.count, h'.count, changes_cons ht h.reworked]
  · rcases List.mem_cons.mp hentry with rfl | hentry
    · exact h.text x content hx hc
    · -- what a later replacement reads as a text was one at the beginning
      obtain ⟨text, htext⟩ := h'.text entry hentry x (r.reworkIn home paths x content) hx
        (by rw [h.reworked.find?, hc]; rfl)
      exact text_of_reworkIn htext

end FilesetReplacement

namespace Site

open FilesetReplacement

variable {s : Site} {home : Place}

/-- **Carrying out the replacements of a site**: each resolves to what it would resolve to at the
beginning. -/
theorem replaceAll_folded (hp : s.directory.Accepted) :
    ∀ {rs : List FilesetReplacement} {d₀ : Disk}, Stands home s.directory d₀ →
    Ends (· = d₀) (s.replaceAll rs) fun n d => ∃ entries : List (FilesetReplacement × List Path),
      entries.map (·.1) = rs ∧
      (∀ entry ∈ entries, entry.1.resolved d₀ s.directory = .ok entry.2) ∧
      Folded home entries d₀ n d
  | [], d₀, h => .pure fun d hd => by
    subst hd
    exact ⟨[], rfl, by simp, .nil h.tree⟩
  | r :: rs, d₀, h => by
    unfold replaceAll
    refine (apply_carried h hp).bind fun k => ?_
    have hrest : Ends (fun d => ∃ paths, r.resolved d₀ s.directory = .ok paths ∧
        Carried r home paths d₀ k d) (s.replaceAll rs) fun n d =>
          ∃ entries : List (FilesetReplacement × List Path), entries.map (·.1) = r :: rs ∧
          (∀ entry ∈ entries, entry.1.resolved d₀ s.directory = .ok entry.2) ∧
          Folded home entries d₀ (k + n) d := by
      rintro w n w' ⟨paths, hpaths, hw⟩ hon
      obtain ⟨entries, hrs, hresolved, hfolded⟩ :=
        replaceAll_folded hp (hw.reworked.stands h) w n w' rfl hon
      refine ⟨(r, paths) :: entries, by rw [List.map_cons, hrs], fun entry hentry => ?_,
        hw.fold h.tree hfolded⟩
      rcases List.mem_cons.mp hentry with rfl | hentry
      · exact hpaths
      · rw [← resolved_reworked h hp hw.reworked]
        exact hresolved entry hentry
    exact hrest.bind fun n => .pure fun _ hd => hd

/-- **The replacements of a site, one after the other**. If they succeed, each replacement could have
been resolved at the beginning, and the content of each file is what is made of its own old content by
those replacements, in their order, that select it by a path that is not too long. Nothing else changes, and
the number is that of the files that each replacement has changed. -/
theorem replaceAll_fold (s : Site) (rs : List FilesetReplacement) (w w' : World) (n : Nat)
    (ht : w.disk.IsTree) (hs : w.disk.hasDirectory s.directory = true)
    (hrun : (s.replaceAll rs).on w = (.ok n, w')) :
    ∃ entries : List (FilesetReplacement × List Path),
      entries.map (·.1) = rs ∧
      (∀ entry ∈ entries, (entry.1.resolve s.directory).on w = (.ok entry.2, w)) ∧
      w'.disk.home = w.disk.home ∧
      (∀ x content, w.disk.find? x = some (.file content) →
        w'.disk.find? x = some (.file (foldIn w.disk.home entries x content)) ∧
        ((∃ entry ∈ entries, Reaches w.disk.home entry.2 x) →
          ∃ text : String, content = text.toUTF8)) ∧
      (∀ x, (w.disk.find? x).any (·.isFile) = false → w'.disk.find? x = w.disk.find? x) ∧
      (∀ x, (∀ entry ∈ entries, ¬Reaches w.disk.home entry.2 x) →
        w'.disk.find? x = w.disk.find? x) ∧
      (∀ x text, w.disk.find? x = some (.file text.toUTF8) →
        (∀ entry ∈ entries, Reaches w.disk.home entry.2 x →
          (Target.mk entry.1.target).spans text = []) →
        w'.disk.find? x = w.disk.find? x) ∧
      n = ∑ i ∈ Finset.range entries.length,
        w.disk.differences (foldIn w.disk.home (entries.take i))
          (foldIn w.disk.home (entries.take (i + 1))) := by
  obtain ⟨hleads, hp⟩ := leads_of_hasDirectory ht.noLink hs
  obtain ⟨entries, hrs, hresolved, hfolded⟩ :=
    replaceAll_folded hp ⟨ht, rfl, hleads⟩ w n w' rfl hrun
  have hfind := hfolded.reworked.find?
  refine ⟨entries, hrs, fun entry hentry => ?_, hfolded.reworked.home, fun x content hx => ⟨?_, ?_⟩,
    fun x hx => ?_, fun x hx => ?_, fun x text hx hnone => ?_, hfolded.count⟩
  · rw [resolve_on, hresolved entry hentry]
  · rw [hfind, hx]
    rfl
  · rintro ⟨entry, hentry, hreaches⟩
    exact hfolded.text entry hentry x content hreaches hx
  · rw [hfind]
    rcases h : w.disk.find? x with _ | ⟨⟨⟩ | content | target⟩
    · rfl
    · rfl
    · rw [h] at hx
      cases hx
    · rfl
  · rw [hfind, foldIn_of_not_reaches hx]
    cases w.disk.find? x <;> simp
  · rw [hfind, hx, Option.map_some, Entry.map, foldIn_eq_self hnone]

/-! ## A small site -/

/-- Two replacements in a file, of which the second goes on with what the first makes. -/
def chain : List FilesetReplacement :=
  [⟨"a", .text "b", some ["t"], none⟩, ⟨"b", .text "c", some ["t"], none⟩]

/-- A site with two files. -/
def chainDisk : Disk :=
  [(["w"], Entry.directory), (["w", "config"], .directory), (["w", "config", "s"], .directory),
    (["w", "config", "s", "t"], .file "a".toUTF8), (["w", "config", "s", "u"], .file "a".toUTF8)].foldl
    (fun d (q, e) => d.insert q e) ⟨∅, []⟩

/-- The site. -/
def chainSite : Site := ⟨"s", ⟨Path.ofText "w", []⟩⟩

/-- A replacement that changes **one file**. -/
theorem apply_on_changed (r : FilesetReplacement) (root path : Path) (place : Place) (old new : String)
    (w : World) (hresolved : (r.resolved w.disk root).toOption = some [path])
    (hfile : w.disk.hasFile path = true) (hread : (w.disk.readText path).toOption = some old)
    (hplace : (w.disk.locate .make path).toOption = some place)
    (hentry : w.disk.find? place = some (.file old.toUTF8))
    (hnew : (Target.mk r.target).replaceAll r.value.written old = new) (hne : new ≠ old) :
    (r.apply root).on w = (.ok 1, { w with disk := w.disk.insert place (.file new.toUTF8) }) := by
  have hquery : (Run.query (·.readText path)).on w = (.ok old, w) := by
    rw [query_on, eq_ok_of_toOption hread]
    rfl
  have hwrite : w.disk.writeText path new = .ok (w.disk.insert place (.file new.toUTF8)) := by
    unfold writeText writeBytes
    rw [eq_ok_of_toOption hplace]
    simp only [bind, Except.bind, hentry]
  have hto : (r.applyTo path).on w =
      (.ok true, { w with disk := w.disk.insert place (.file new.toUTF8) }) := by
    unfold applyTo applyToBy
    rw [bind_of_ok (inspect_on _ _), if_pos hfile, bind_of_ok hquery, hnew, if_neg hne]
    exact bind_of_ok (change_on_ok hwrite)
  rw [apply_eq, bind_of_ok ((resolve_on r root w).trans (by rw [eq_ok_of_toOption hresolved])), applyEach_cons, bind_of_ok hto]
  rfl

theorem replaceAll_chain : ∃ w', (chainSite.replaceAll chain).on ⟨chainDisk, []⟩ = (.ok 2, w') := by
  have hfirst := apply_on_changed ⟨"a", .text "b", some ["t"], none⟩ chainSite.directory
    ⟨["w", "config", "s", "t"]⟩ ["w", "config", "s", "t"] "a" "b" ⟨chainDisk, []⟩ (by decide +kernel)
    (by decide +kernel) (by decide +kernel) (by decide +kernel) (by decide +kernel) (by cbv) (by decide)
  have hafter := apply_on_changed ⟨"b", .text "c", some ["t"], none⟩ chainSite.directory
    ⟨["w", "config", "s", "t"]⟩ ["w", "config", "s", "t"] "b" "c"
    ⟨chainDisk.insert ["w", "config", "s", "t"] (.file "b".toUTF8), []⟩ (by decide +kernel)
    (by decide +kernel) (by decide +kernel) (by decide +kernel) (by decide +kernel) (by cbv) (by decide)
  have hsecond : (chainSite.replaceAll [⟨"b", .text "c", some ["t"], none⟩]).on _ = (.ok 1, _) :=
    bind_of_ok hafter
  exact ⟨_, (bind_of_ok hfirst).trans (bind_of_ok hsecond)⟩

theorem replaceAll_fold_small : chainDisk.IsTree ∧ chainDisk.hasDirectory chainSite.directory = true ∧
    ∃ (entries : List (FilesetReplacement × List Path)) (w' : World),
      (chainSite.replaceAll chain).on ⟨chainDisk, []⟩ = (.ok 2, w') ∧
      entries.map (·.1) = chain ∧
      w'.disk.find? ["w", "config", "s", "t"] =
        some (.file (foldIn [] entries ["w", "config", "s", "t"] "a".toUTF8)) ∧
      2 = ∑ i ∈ Finset.range entries.length,
        chainDisk.differences (foldIn [] (entries.take i)) (foldIn [] (entries.take (i + 1))) := by
  have ht : chainDisk.IsTree := by decide +kernel
  have hs : chainDisk.hasDirectory chainSite.directory = true := by decide +kernel
  obtain ⟨w', hrun⟩ := replaceAll_chain
  obtain ⟨entries, hrs, -, -, hfiles, -, -, -, hn⟩ :=
    replaceAll_fold chainSite chain ⟨chainDisk, []⟩ w' 2 ht hs hrun
  exact ⟨ht, hs, entries, w', hrun, hrs, (hfiles _ _ (by decide +kernel)).1, hn⟩

end Site

end SiteGen
