import Mathlib.Data.List.Permutation
import SiteGen.Proofs.Disk.Overwrite
import SiteGen.Proofs.Replacement.Positional
import SiteGen.Proofs.Replacement.Reworked

/-!
# Files that are listed more than once

A positional replacement goes through its list from the front. A file is rewritten once for each position
at which it is listed, in order; at the first path that leads to no text, the replacement stops.

* `PositionalReplacement.positions`: where a file is listed.
* `PositionalReplacement.reworkAt`: what a replacement makes of the file at a place, by the positions.
* `PositionalReplacement.Listed`: the disk after the files that are listed so far have been rewritten.
* `PositionalReplacement.apply_listed`: the outcome of a replacement in any list of files.
-/

namespace SiteGen

open Disk SiteGen.Path Run

theorem Disk.reworked_insert {d : Disk} {q : Place} (ht : d.IsTree) {text : String}
    (hq : d.find? q = some (.file text.toUTF8)) (f : String → String) :
    Reworked (fun x => if q = x then onText f else id) d (d.insert q (.file (f text).toUTF8)) := by
  refine ⟨rfl, ht.insert_file hq _, fun x => ?_⟩
  rw [find?_insert _ _ _ _ (ne_nil_of_file hq)]
  by_cases hx : q = x
  · subst hx
    rw [if_pos rfl, if_pos rfl, hq, Option.map_some, Entry.map, onText_toUTF8]
  · rw [if_neg hx, if_neg hx]
    cases d.find? x <;> simp

namespace PositionalReplacement

variable {r : PositionalReplacement} {home : Place} {n : Nat} {files : List Path} {path : Path}
  {value : Scalar} {x : Place} {d₀ d : Disk} {w : World}

/-! ## Positions -/

/-- The positions at which a list of paths **leads to** a place, in increasing order. -/
def positions (home : Place) (files : List Path) (x : Place) : List Nat :=
  (List.range files.length).filter fun i => files[i]?.map (·.place home) = some x

theorem positions_concat (files : List Path) (path : Path) (x : Place) :
    positions home (files ++ [path]) x =
      positions home files x ++ if path.place home = x then [files.length] else [] := by
  unfold positions
  rw [List.length_append, List.length_singleton, List.range_succ, List.filter_append]
  congr 1
  · refine List.filter_congr fun i hi => ?_
    rw [List.getElem?_append_left (List.mem_range.mp hi)]
  · simp [List.filter_cons]

theorem positions_eq_nil (h : ∀ path ∈ files, path.place home ≠ x) : positions home files x = [] := by
  refine List.filter_eq_nil_iff.mpr fun i _ hi => ?_
  obtain ⟨path, hpath, hx⟩ := Option.map_eq_some_iff.mp (of_decide_eq_true hi)
  exact h path (List.mem_of_getElem? hpath) hx

/-- What a replacement in `n` files makes of a text **at some positions**, one after the other. -/
def rewriteAt (r : PositionalReplacement) (n : Nat) (positions : List Nat) (text : String) : String :=
  positions.foldl (fun text i => r.rewrite n i text) text

/-- What a replacement in `n` files makes of **the content of the file** at a place, as often as the place is
listed. -/
def reworkAt (r : PositionalReplacement) (n : Nat) (home : Place) (files : List Path) (x : Place) :
    ByteArray → ByteArray :=
  onText (r.rewriteAt n (positions home files x))

theorem reworkAt_of_not_listed (h : ∀ path ∈ files, path.place home ≠ x) :
    r.reworkAt n home files x = id := by
  funext content
  rw [reworkAt, positions_eq_nil h]
  exact onText_id content

theorem reworkAt_concat (x : Place) : r.reworkAt n home (files ++ [path]) x =
    (if path.place home = x then onText (r.rewrite n files.length) else id) ∘ r.reworkAt n home files x := by
  funext content
  rw [Function.comp_apply, reworkAt, reworkAt, positions_concat]
  split
  · rw [onText_onText]
    congr 1
    funext text
    rw [rewriteAt, List.foldl_append]
    rfl
  · rw [List.append_nil, id]

/-! ## Going through the list -/

theorem applyTo_on (ht : w.disk.IsTree) {text : String} (h : w.disk.readText path = .ok text) :
    let new := (Target.mk r.target).replaceAll value.written text
    (r.applyTo value path).on w =
      (.ok (), { w with disk := w.disk.insert (path.place w.disk.home) (.file new.toUTF8) }) := by
  obtain ⟨q, content, hplace, hq, hwrite⟩ :=
    writeText_eq h ((Target.mk r.target).replaceAll value.written text)
  obtain rfl := place_of_locate ht.noLink hplace
  unfold applyTo applyToBy
  rw [bind_of_ok (fileText_on h)]
  exact change_on_ok hwrite

/-- Whether the files **listed so far** have been rewritten, out of `n`; every path still leads to what it led
to. -/
structure Listed (r : PositionalReplacement) (n : Nat) (files : List Path) (d₀ d : Disk) : Prop where
  reworked : Reworked (r.reworkAt n d₀.home files) d₀ d
  hasFile : ∀ p, d.hasFile p = d₀.hasFile p
  hasText : ∀ p, d.HasText p ↔ d₀.HasText p

theorem Listed.refl (ht : d.IsTree) : Listed r n [] d d := by
  refine ⟨.refl ht fun x content _ => ?_, fun _ => rfl, fun _ => Iff.rfl⟩
  rw [reworkAt_of_not_listed (by simp), id]

theorem Listed.refusal_eq (h : Listed r n files d₀ d) (p : Path) : d.refusal p = d₀.refusal p := by
  rw [refusal, refusal, h.hasFile]

theorem Listed.find?_eq (h : Listed r n files d₀ d) (hx : ∀ path ∈ files, path.place d₀.home ≠ x) :
    d.find? x = d₀.find? x := by
  rw [h.reworked.find?, reworkAt_of_not_listed hx]
  cases d₀.find? x <;> simp

/-- **The next file** of the list is rewritten with the value at its position. -/
theorem Listed.step (h : Listed r n files d₀ w.disk) (hvalue : (r.valuesFor n)[files.length]? = some value)
    (hpath : d₀.HasText path) : ∃ d, (r.applyTo value path).on w = (.ok (), { w with disk := d }) ∧
      Listed r n (files ++ [path]) d₀ d := by
  obtain ⟨text, hread⟩ := (h.hasText path).mpr hpath
  have ht := h.reworked.tree
  have hq := find?_of_readText ht.noLink hread
  refine ⟨_, applyTo_on ht hread, ?_, fun p => ?_, fun p => ?_⟩
  · have hinsert := h.reworked.trans (reworked_insert ht hq ((Target.mk r.target).replaceAll value.written))
    rw [h.reworked.home] at hinsert ⊢
    exact hinsert.congr fun x => by rw [reworkAt_concat, rewrite_eq hvalue]
  · rw [hasFile_insert_file hq, h.hasFile]
  · rw [hasText_insert_file ht.noLink hq, h.hasText]

/-- As long as paths lead to texts, **their files are rewritten**, and the replacement goes on with the rest of
the list. -/
theorem forM_listed (hn : (r.valuesFor n).length = n) (rest : List Path) : ∀ (texts files : List Path) {w : World},
    files.length + (texts ++ rest).length = n → Listed r n files d₀ w.disk → (∀ p ∈ texts, d₀.HasText p) →
    ∃ d, Listed r n (files ++ texts) d₀ d ∧
      ((((r.valuesFor n).drop files.length).zip (texts ++ rest)).forM fun (value, path) =>
        r.applyTo value path).on w =
      ((((r.valuesFor n).drop (files ++ texts).length).zip rest).forM fun (value, path) =>
        r.applyTo value path).on { w with disk := d }
  | [], files, w, _, h, _ => ⟨w.disk, by rwa [List.append_nil], by rw [List.append_nil, List.nil_append]⟩
  | path :: texts, files, w, hlength, h, htexts => by
    have hlt : files.length < (r.valuesFor n).length := by
      simp only [List.length_append, List.length_cons] at hlength
      omega
    obtain ⟨d₁, hon, h₁⟩ := h.step (List.getElem?_eq_getElem hlt) (htexts path List.mem_cons_self)
    have hrest := forM_listed hn rest texts (files ++ [path]) (w := { w with disk := d₁ })
      (by simp only [List.length_append, List.length_cons, List.length_nil] at hlength ⊢; omega) h₁
      fun p hp => htexts p (List.mem_cons_of_mem _ hp)
    rw [List.append_assoc, List.singleton_append] at hrest
    obtain ⟨d, hd, hrest⟩ := hrest
    refine ⟨d, hd, ?_⟩
    rw [List.drop_eq_getElem_cons hlt, List.cons_append, List.zip_cons_cons]
    have hsplit : files.length + 1 = (files ++ [path]).length := by simp
    rw [hsplit]
    exact (bind_of_ok hon).trans hrest

/-- Carrying out a replacement comes **to the rest of the list** when the paths before it lead to texts. -/
theorem apply_rest (hr : r.Covers files.length) (ht : w.disk.IsTree) {texts rest : List Path}
    (hfiles : files = texts ++ rest) (htexts : ∀ p ∈ texts, w.disk.HasText p) :
    ∃ d, Listed r files.length texts w.disk d ∧ (r.apply files).on w =
      ((((r.valuesFor files.length).drop texts.length).zip rest).forM fun (value, path) =>
        r.applyTo value path).on { w with disk := d } := by
  have hn := covers_iff.mp hr
  obtain ⟨d, hd, hrun⟩ := forM_listed hn rest texts [] (by simp [hfiles]) (Listed.refl ht) htexts
  refine ⟨d, hd, Eq.trans ?_ hrun⟩
  rw [apply_eq, if_neg (not_not.mpr hn), List.length_nil, List.drop_zero, ← hfiles]

/-- **The outcome of a replacement in any list of files**, which may list a file more than once. With a wrong
number of values, nothing is done. Otherwise the files are rewritten with the value at each position at which they
are listed, one after the other. If some path leads to no text, this stops at the first one, and the files that are
listed before it have been rewritten. -/
theorem apply_listed (r : PositionalReplacement) (files : List Path) (w : World) (ht : w.disk.IsTree) :
    (∀ values, r.values = some values → values.length ≠ files.length →
      (r.apply files).on w = (.error (.countMismatch r.target values.length files.length), w)) ∧
    (r.Covers files.length →
      (∀ i < files.length, ∃ value, (r.values = none → value = .integer (i + 1)) ∧
        (∀ values, r.values = some values → values[i]? = some value) ∧
        r.rewrite files.length i = (Target.mk r.target).replaceAll value.written) ∧
      ((∀ path ∈ files, w.disk.HasText path) →
        ∃ d, (r.apply files).on w = (.ok (), { w with disk := d }) ∧
          Reworked (r.reworkAt files.length w.disk.home files) w.disk d ∧
          ∀ x, (∀ path ∈ files, path.place w.disk.home ≠ x) → d.find? x = w.disk.find? x) ∧
      ∀ before path after, files = before ++ path :: after → (∀ p ∈ before, w.disk.HasText p) →
        ¬w.disk.HasText path →
        ∃ d, (r.apply files).on w = (.error (w.disk.refusal path), { w with disk := d }) ∧
          Reworked (r.reworkAt files.length w.disk.home before) w.disk d ∧
          ∀ x, (∀ p ∈ before, p.place w.disk.home ≠ x) → d.find? x = w.disk.find? x) := by
  refine ⟨fun values hr hlength => apply_mismatch hr hlength w, fun hr => ⟨fun i hi => ?_, fun htexts => ?_,
    fun before path after hfiles hbefore hpath => ?_⟩⟩
  · obtain ⟨value, hvalue, hnone, hsome⟩ := exists_value hr hi
    exact ⟨value, hnone, hsome, rewrite_eq hvalue⟩
  · obtain ⟨d, hd, hrun⟩ := apply_rest hr ht (List.append_nil files).symm htexts
    refine ⟨d, hrun.trans ?_, hd.reworked, fun x => hd.find?_eq⟩
    rw [List.zip_nil_right]
    rfl
  · obtain ⟨d, hd, hrun⟩ := apply_rest hr ht hfiles hbefore
    refine ⟨d, hrun.trans ?_, hd.reworked, fun x => hd.find?_eq⟩
    have hlt : before.length < (r.valuesFor files.length).length := by
      rw [covers_iff.mp hr, hfiles]
      simp
    have hrefused := fileText_refused (w := { w with disk := d }) fun h => hpath ((hd.hasText path).mp h)
    rw [hd.refusal_eq] at hrefused
    rw [List.drop_eq_getElem_cons hlt, List.zip_cons_cons]
    exact bind_of_error (bind_of_error hrefused)

/-- A disk with a text and a file that is none. -/
def twoFiles : Disk := ((⟨∅, []⟩ : Disk).insert ["t"] (.file "a".toUTF8)).insert ["u"] (.file ⟨#[0xff]⟩)

/-- A replacement that goes on with what it has made itself. -/
def growing : PositionalReplacement := ⟨"a", some [.text "ba", .text "c", .text "d"]⟩

theorem apply_listed_twice : ∃ d,
    (growing.apply [⟨["t"]⟩, ⟨[".", "t"]⟩, ⟨["u"]⟩]).on ⟨twoFiles, []⟩ = (.error (.disk .notText), ⟨d, []⟩) ∧
    d.find? ["t"] = some (.file "bc".toUTF8) ∧ d.find? ["u"] = twoFiles.find? ["u"] := by
  have htexts : ∀ p ∈ [Path.mk ["t"], ⟨[".", "t"]⟩], twoFiles.HasText p := by
    simp only [List.mem_cons, List.not_mem_nil, or_false]
    rintro p (rfl | rfl) <;> exact ⟨"a", eq_ok_of_toOption (by decide +kernel)⟩
  have hnone : ¬twoFiles.HasText ⟨["u"]⟩ := by
    rintro ⟨text, h⟩
    have hread : (twoFiles.readText ⟨["u"]⟩).toOption = none := by decide +kernel
    rw [h] at hread
    cases hread
  obtain ⟨-, hcovers⟩ := apply_listed growing [⟨["t"]⟩, ⟨[".", "t"]⟩, ⟨["u"]⟩] ⟨twoFiles, []⟩ (by decide +kernel)
  obtain ⟨-, -, hstops⟩ := hcovers fun _ h => (Option.some.inj h) ▸ rfl
  obtain ⟨d, hrun, hreworked, hother⟩ := hstops _ _ _ rfl htexts hnone
  have hrefusal : twoFiles.refusal ⟨["u"]⟩ = .disk .notText := if_pos (by decide +kernel)
  have hentry : twoFiles.find? ["t"] = some (.file "a".toUTF8) := by decide +kernel
  have hpositions : positions [] [⟨["t"]⟩, ⟨[".", "t"]⟩] ["t"] = [0, 1] := by decide +kernel
  have hnew : growing.rewriteAt 3 [0, 1] "a" = "bc" := by cbv
  refine ⟨d, hrun.trans (by rw [hrefusal]), ?_, hother _ (by decide +kernel)⟩
  rw [hreworked.find?, hentry, Option.map_some, Entry.map, reworkAt, onText_toUTF8]
  change some (Entry.file (growing.rewriteAt 3 (positions [] _ _) "a").toUTF8) = _
  rw [hpositions, hnew]

end PositionalReplacement

end SiteGen
