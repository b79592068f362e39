import SiteGen.Proofs.Run.Texts
import SiteGen.Replacement.Apply

/-!
# Replacements in a list of files

A positional replacement makes something of each file of a list, with the value at the position of the
file.

* `PositionalReplacement.rewrite`, `rewriteAll`: what replacements make of a text; `exists_value` is the value
  at a position.
* `Disk.Holding`: files of given names in a directory, with their contents.
* `PositionalReplacement.apply_ends`, `apply_succeeds`: carrying out a replacement rewrites each file.
* `PositionalReplacement.apply_mismatch`: nothing is done if there are not as many values as files.
-/

namespace SiteGen

open Disk SiteGen.Path Run

/-- A content **rewritten** as a text, if it is one. -/
def onText (f : String → String) (content : ByteArray) : ByteArray :=
  match String.fromUTF8? content with
  | some text => (f text).toUTF8
  | none => content

theorem onText_toUTF8 (f : String → String) (text : String) : onText f text.toUTF8 = (f text).toUTF8 := by
  rw [onText, fromUTF8?_toUTF8]

theorem onText_id (content : ByteArray) : onText id content = content := by
  unfold onText
  split
  · next text h => exact (fromUTF8?_eq_some h).symm
  · rfl

theorem onText_onText (f g : String → String) (content : ByteArray) :
    onText g (onText f content) = onText (g ∘ f) content := by
  cases h : String.fromUTF8? content with
  | none => simp [onText, h]
  | some text =>
    rw [fromUTF8?_eq_some h, onText_toUTF8, onText_toUTF8, onText_toUTF8]
    rfl

namespace Disk

/-- Whether files with **names** in a directory hold contents, and nothing else differs from a disk. -/
structure Holding (home : Place) (p : Path) (names : List String) (contents : Nat → ByteArray)
    (d₀ d : Disk) : Prop where
  stands : Stands home p d
  file : ∀ i name, names[i]? = some name →
    d.find? (p.place home ++ [name]) = some (.file (contents i))
  other : ∀ q, (∀ name ∈ names, q ≠ p.place home ++ [name]) → d.find? q = d₀.find? q

variable {home : Place} {p : Path} {names : List String} {contents contents' : Nat → ByteArray}
  {d₀ d : Disk}

theorem Holding.congr (h : Holding home p names contents d₀ d)
    (hc : ∀ i < names.length, contents i = contents' i) : Holding home p names contents' d₀ d :=
  ⟨h.stands, fun i name hi => by rw [h.file i name hi, hc i (List.getElem?_eq_some_iff.mp hi).1], h.other⟩

theorem Holding.find?_cases (h : Holding home p names contents d₀ d) (name : String) :
    (∃ content, d.find? (p.place home ++ [name]) = some (.file content)) ∨
      d.find? (p.place home ++ [name]) = d₀.find? (p.place home ++ [name]) := by
  by_cases hm : name ∈ names
  · obtain ⟨i, hi⟩ := List.mem_iff_getElem?.mp hm
    exact Or.inl ⟨_, h.file i name hi⟩
  · refine Or.inr (h.other _ fun n hn heq => hm ?_)
    rw [concat_injective _ heq]
    exact hn

/-- **One file** gets another content. -/
theorem Holding.write (h : Holding home p names contents d₀ d) (hnodup : names.Nodup) {k : Nat}
    {name : String} (hk : names[k]? = some name) {d' : Disk} (hstands : Stands home p d')
    {content : ByteArray}
    (hfind : ∀ x, d'.find? x =
      if p.place home ++ [name] = x then some (.file content) else d.find? x) :
    Holding home p names (Function.update contents k content) d₀ d' := by
  refine ⟨hstands, fun i other hi => ?_, fun q hq => ?_⟩
  · rw [hfind]
    by_cases hik : i = k
    · subst hik
      obtain rfl := Option.some.inj (hk.symm.trans hi)
      rw [if_pos rfl, Function.update_self]
    · rw [Function.update_of_ne hik, if_neg, h.file i other hi]
      intro heq
      obtain rfl := concat_injective _ heq
      exact hik ((List.getElem?_inj (List.getElem?_eq_some_iff.mp hi).1 hnodup).mp (hi.trans hk.symm))
  · rw [hfind, if_neg, h.other q hq]
    exact fun heq => hq name (List.mem_iff_getElem?.mpr ⟨k, hk⟩) heq.symm

end Disk

namespace PositionalReplacement

/-- Whether a replacement has **a value for each** of `n` files: the numbers of the files, or as many
values. -/
def Covers (r : PositionalReplacement) (n : Nat) : Prop := ∀ values, r.values = some values → values.length = n

theorem covers_iff {r : PositionalReplacement} {n : Nat} : r.Covers n ↔ (r.valuesFor n).length = n := by
  unfold Covers valuesFor
  cases r.values with
  | none => simp [numbers]
  | some values => simp

/-- What a replacement makes of **the text** of a file, by the number of files and the position. -/
def rewrite (r : PositionalReplacement) (n i : Nat) (text : String) : String :=
  match (r.valuesFor n)[i]? with
  | some value => (Target.mk r.target).replaceAll value.written text
  | none => text

theorem rewrite_eq {r : PositionalReplacement} {n i : Nat} {value : Scalar} (h : (r.valuesFor n)[i]? = some value) :
    r.rewrite n i = (Target.mk r.target).replaceAll value.written := by
  funext text
  rw [rewrite, h]

/-- The value at a position: **the one that is given** there, or the number of the file. -/
theorem exists_value {r : PositionalReplacement} {n i : Nat} (hr : r.Covers n) (hi : i < n) :
    ∃ value, (r.valuesFor n)[i]? = some value ∧ (r.values = none → value = .integer (i + 1)) ∧
      ∀ values, r.values = some values → values[i]? = some value := by
  cases hv : r.values with
  | none =>
    exact ⟨.integer (i + 1), by simp [valuesFor, hv, numbers, hi], fun _ => rfl, nofun⟩
  | some values =>
    have hlt : i < values.length := by rwa [hr values hv]
    have hvalue := List.getElem?_eq_getElem hlt
    refine ⟨values[i], by rwa [valuesFor, hv, Option.getD_some], nofun, fun values' h => ?_⟩
    rwa [← Option.some.inj h]

/-- What replacements make of the text of a file, **one after the other**. -/
def rewriteAll (rs : List PositionalReplacement) (n i : Nat) (text : String) : String :=
  rs.foldl (fun text r => r.rewrite n i text) text

theorem rewriteAll_concat (rs : List PositionalReplacement) (r : PositionalReplacement) (n i : Nat) :
    rewriteAll (rs ++ [r]) n i = r.rewrite n i ∘ rewriteAll rs n i := by
  funext text
  rw [rewriteAll, List.foldl_append]
  rfl

variable {r : PositionalReplacement} {value : Scalar} {home : Place} {p : Path} {name : String}
  {d₀ d : Disk} {names : List String} {contents : Nat → ByteArray}

/-! ## One file -/

/-- **Rewriting one file** changes only its content. -/
theorem applyTo_ends (h : Stands home p d) (hn : IsPlainName name) {content : ByteArray}
    (hfile : d.find? (p.place home ++ [name]) = some (.file content)) :
    Ends (· = d) (r.applyTo value (p.join ⟨[name]⟩)) fun _ d' => Stands home p d' ∧
      ∀ x, d'.find? x = if p.place home ++ [name] = x then
        some (.file (onText ((Target.mk r.target).replaceAll value.written) content)) else d.find? x := by
  unfold applyTo applyToBy
  refine (fileText_ends _ h.tree.noLink).bind fun text => ?_
  refine (Ends.of_pre fun htext => ?_).imp (fun d' hd => hd) fun _ _ hd => hd
  rw [h.home_eq, place_child home hn, hfile] at htext
  obtain rfl := Entry.file.inj (Option.some.inj htext)
  have hput := putText_ends (descends_single hn) h
    ((Target.mk r.target).replaceAll value.written text)
  rw [place_child home hn] at hput
  simpa only [onText_toUTF8] using hput

theorem applyTo_succeeds (h : Stands home p d) (hn : IsDiskName name)
    (hlong : (p.join ⟨[name]⟩).isLong = false) {text : String}
    (hfile : d.find? (p.place home ++ [name]) = some (.file text.toUTF8)) :
    Succeeds (· = d) (r.applyTo value (p.join ⟨[name]⟩)) := by
  have hread := h.readText_child hn hlong hfile
  obtain ⟨ht, rfl, hleads⟩ := h
  intro w hw
  subst hw
  unfold applyTo applyToBy
  rw [bind_of_ok (fileText_on hread), putText]
  refine Succeeds.change (fun d hd => ?_) w rfl
  subst hd
  rw [writeText, writeBytes_child ht hleads hn, hlong, hfile, if_neg Bool.false_ne_true, if_neg (by simp),
    if_pos (by simp)]
  exact ⟨_, rfl⟩

/-! ## All files -/

/-- The contents after the files **before position** `k` have been rewritten. -/
def rewritten (r : PositionalReplacement) (n : Nat) (contents : Nat → ByteArray) (k i : Nat) :
    ByteArray :=
  if i < k then onText (r.rewrite n i) (contents i) else contents i

theorem update_rewritten {n k : Nat} (hvalue : (r.valuesFor n)[k]? = some value) :
    Function.update (r.rewritten n contents k) k
      (onText ((Target.mk r.target).replaceAll value.written) (r.rewritten n contents k k)) =
        r.rewritten n contents (k + 1) := by
  funext i
  by_cases hik : i = k
  · subst hik
    rw [Function.update_self, rewritten, rewritten, if_neg (Nat.lt_irrefl _), if_pos (Nat.lt_succ_self _)]
    rw [rewrite_eq hvalue]
  · rw [Function.update_of_ne hik, rewritten, rewritten]
    congr 1
    simp only [eq_iff_iff]
    omega

theorem zip_step {values : List Scalar} {done rest : List (Scalar × Path)} {x : Scalar × Path}
    (h : values.zip (names.map fun name => p.join ⟨[name]⟩) = done ++ x :: rest) :
    values[done.length]? = some x.1 ∧ ∃ name, names[done.length]? = some name ∧ x.2 = p.join ⟨[name]⟩ := by
  have hx : (values.zip (names.map fun name => p.join ⟨[name]⟩))[done.length]? = some x := by
    rw [h]
    simp
  obtain ⟨hvalue, hpath⟩ := List.getElem?_zip_eq_some.mp hx
  rw [List.getElem?_map] at hpath
  obtain ⟨name, hname, heq⟩ := Option.map_eq_some_iff.mp hpath
  exact ⟨hvalue, name, hname, heq.symm⟩

/-- Rewriting the file **at the next position**. -/
theorem applyTo_step (hn : ∀ name ∈ names, IsPlainName name) (hnodup : names.Nodup)
    {done rest : List (Scalar × Path)} {x : Scalar × Path}
    (h : (r.valuesFor names.length).zip (names.map fun name => p.join ⟨[name]⟩) = done ++ x :: rest) :
    Ends (Holding home p names (r.rewritten names.length contents done.length) d₀)
      (r.applyTo x.1 x.2) fun _ d =>
        Holding home p names (r.rewritten names.length contents (done ++ [x]).length) d₀ d := by
  obtain ⟨hvalue, name, hname, hx⟩ := zip_step h
  rw [hx]
  intro w a w' hw hon
  obtain ⟨hstands, hfind⟩ := applyTo_ends hw.stands
    (hn name (List.mem_iff_getElem?.mpr ⟨_, hname⟩)) (hw.file _ _ hname) w a w' rfl hon
  have hwritten := hw.write hnodup hname hstands hfind
  rwa [update_rewritten hvalue, ← List.length_concat, List.concat_eq_append] at hwritten

/-- **Carrying out** a replacement rewrites each of the files. -/
theorem apply_ends (hn : ∀ name ∈ names, IsPlainName name) (hnodup : names.Nodup) :
    Ends (Holding home p names contents d₀) (r.apply (names.map fun name => p.join ⟨[name]⟩)) fun _ d =>
      Holding home p names (fun i => onText (r.rewrite names.length i) (contents i)) d₀ d := by
  rw [apply_eq, List.length_map]
  refine .ite (fun _ => .fail _) fun hlength => ?_
  have hloop := @Ends.forM _ (fun x : Scalar × Path => r.applyTo x.1 x.2)
    (fun done d => Holding home p names (r.rewritten names.length contents done.length) d₀ d)
    [] _ fun done x rest heq => applyTo_step hn hnodup heq
  refine hloop.imp (fun d hd => hd.congr fun i _ => by simp [rewritten]) fun _ d hd =>
    hd.congr fun i hi => ?_
  rw [rewritten, List.nil_append, List.length_zipWith, List.length_map, if_pos (by omega)]

/-- Carrying out a replacement **succeeds** if there is a value for each file, and the files are texts. -/
theorem apply_succeeds (hn : ∀ name ∈ names, IsDiskName name)
    (hlong : ∀ name ∈ names, (p.join ⟨[name]⟩).isLong = false) (hnodup : names.Nodup)
    (hr : r.Covers names.length) (htext : ∀ i, ∃ text : String, contents i = text.toUTF8) :
    Succeeds (Holding home p names contents d₀) (r.apply (names.map fun name => p.join ⟨[name]⟩)) := by
  rw [apply_eq, List.length_map]
  refine .ite (fun hne => absurd (covers_iff.mp hr) hne) fun hlength => ?_
  have hplain : ∀ name ∈ names, IsPlainName name := fun name hm => (hn name hm).toIsPlainName
  have hloop := @Succeeds.forM_upTo _ (fun x : Scalar × Path => r.applyTo x.1 x.2)
    (fun done d => Holding home p names (r.rewritten names.length contents done.length) d₀ d)
    [] _ (fun done x rest heq => ?_) fun done x rest heq => applyTo_step hplain hnodup heq
  · exact hloop.pre fun d hd => hd.congr fun i _ => by simp [rewritten]
  · obtain ⟨-, name, hname, hx⟩ := zip_step heq
    obtain ⟨text, ht⟩ : ∃ text : String,
        r.rewritten names.length contents done.length done.length = text.toUTF8 := by
      rw [rewritten, if_neg (Nat.lt_irrefl _)]
      exact htext _
    rw [hx]
    intro w hw
    have hfile := hw.file _ _ hname
    rw [ht] at hfile
    have hm : name ∈ names := List.mem_iff_getElem?.mpr ⟨_, hname⟩
    exact applyTo_succeeds hw.stands (hn name hm) (hlong name hm) hfile w rfl

/-- If there are **not as many values as files**, nothing is done. -/
theorem apply_mismatch {files : List Path} {values : List Scalar} (hr : r.values = some values)
    (hlength : values.length ≠ files.length) (w : World) :
    (r.apply files).on w = (.error (.countMismatch r.target values.length files.length), w) := by
  have hvalues : r.valuesFor files.length = values := by rw [valuesFor, hr, Option.getD_some]
  rw [apply_eq, hvalues, if_pos hlength]
  rfl

end PositionalReplacement

end SiteGen
