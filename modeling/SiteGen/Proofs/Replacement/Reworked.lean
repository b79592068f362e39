import Mathlib.Data.List.Count
import SiteGen.Proofs.Replacement.Apply
import SiteGen.Proofs.Run.Texts

/-!
# Reworked files

A disk is **reworked** if each file gets a new content, which depends on its place and on its old
content, and nothing else changes.

* `Disk.Reworked`: whether a disk is another one, reworked by a function.
* `Disk.Reworked.select_eq`: globs select the same before and afterwards.
* `Disk.differences`: on how many files two functions differ; `Disk.Reworked.differences_eq` and
  `Disk.differences_add` say how this goes on from disk to disk.
-/

namespace SiteGen

open Disk SiteGen.Path

namespace Entry

@[simp]
theorem isDirectory_map (f : ByteArray → ByteArray) (e : Entry) : (e.map f).isDirectory = e.isDirectory := by
  cases e <;> rfl

end Entry

namespace Disk

variable {d d₀ d₁ d₂ : Disk} {f g : Place → ByteArray → ByteArray} {home : Place} {p : Path}

/-! ## All that is there -/

theorem toList_sorted (d : Disk) : d.toList.Pairwise fun a b => compare a.1 b.1 = .lt :=
  Std.ExtTreeMap.ordered_keys_toList

theorem nodup_toList (d : Disk) : d.toList.Nodup := by
  refine (toList_sorted d).imp fun {a b} h heq => ?_
  rw [heq, Std.ReflOrd.compare_self] at h
  cases h

theorem IsTree.mem_toList_iff (h : d.IsTree) {x : Place} {e : Entry} :
    (x, e) ∈ d.toList ↔ x ≠ [] ∧ d.find? x = some e := by
  rw [mem_toList]
  by_cases hx : x = []
  · subst hx
    simp [h.noRoot]
  · rw [find?_of_ne hx]
    simp [hx]

/-! ## Reworking -/

/-- Whether a disk is another one with the content of each file **reworked** by a function for its place. -/
structure Reworked (f : Place → ByteArray → ByteArray) (d₀ d : Disk) : Prop where
  home : d.home = d₀.home
  tree : d.IsTree
  find? : ∀ x, d.find? x = (d₀.find? x).map (·.map (f x))

/-- What of something met **decides whether it is selected**. -/
def signature (v : Visit) : Path × List String × Bool := (v.path, v.names, v.entry.isDirectory)

theorem selected_eq (includes excludes : List Glob) (vs : List Visit) :
    (do
      let vs ← (walked vs).mapError fun (path, fault) => Error.walk path fault
      .ok (selectVisits includes excludes vs)) =
      match (vs.map signature).find? fun v => v.2.2 && v.1.isLong with
      | some v => .error (.walk v.1 .nameTooLong)
      | none => .ok (((vs.map signature).filter fun v =>
          selects includes excludes (Path.mk (if v.2.1.isEmpty then [""] else v.2.1)).text).map (·.1)) := by
  rw [List.find?_map, List.filter_map, List.map_map, walked]
  change _ = match (vs.find? Visit.isLongDirectory).map signature with | some v => _ | none => _
  cases vs.find? Visit.isLongDirectory <;> rfl

namespace Reworked

theorem refl (h : d.IsTree) (hf : ∀ x content, d.find? x = some (.file content) → f x content = content) :
    Reworked f d d := by
  refine ⟨rfl, h, fun x => ?_⟩
  rcases hx : d.find? x with _ | ⟨⟨⟩ | content | target⟩
  · rfl
  · rfl
  · rw [Option.map_some, Entry.map, hf x content hx]
  · rfl

theorem trans (h : Reworked f d₀ d₁) (h' : Reworked g d₁ d₂) : Reworked (fun x => g x ∘ f x) d₀ d₂ := by
  refine ⟨h'.home.trans h.home, h'.tree, fun x => ?_⟩
  rw [h'.find?, h.find?, Option.map_map]
  congr 1
  funext e
  exact Entry.map_map _ _ e

theorem congr (h : Reworked f d₀ d) (hfg : ∀ x, f x = g x) : Reworked g d₀ d :=
  ⟨h.home, h.tree, fun x => by rw [h.find?, hfg]⟩

theorem dirsStay (h : Reworked f d₀ d) : DirsStay d₀ d := fun x hx => by
  rw [h.find?, hx]
  rfl

theorem stands (h : Reworked f d₀ d) (hp : Stands home p d₀) : Stands home p d :=
  hp.of_dirsStay h.tree h.home h.dirsStay

theorem toList_eq (h₀ : d₀.IsTree) (h : Reworked f d₀ d) :
    d.toList = d₀.toList.map fun entry => (entry.1, entry.2.map (f entry.1)) := by
  have hsorted : (d₀.toList.map fun entry => (entry.1, entry.2.map (f entry.1))).Pairwise
      fun a b => compare a.1 b.1 = .lt :=
    List.pairwise_map.mpr ((toList_sorted d₀).imp fun hab => hab)
  have hnodup : (d₀.toList.map fun entry => (entry.1, entry.2.map (f entry.1))).Nodup := by
    refine hsorted.imp fun {a b} hab heq => ?_
    rw [heq, Std.ReflOrd.compare_self] at hab
    cases hab
  have hperm : d.toList.Perm (d₀.toList.map fun entry => (entry.1, entry.2.map (f entry.1))) := by
    rw [List.perm_ext_iff_of_nodup (nodup_toList d) hnodup]
    rintro ⟨x, e⟩
    rw [h.tree.mem_toList_iff, h.find?, List.mem_map]
    constructor
    · rintro ⟨hx, he⟩
      obtain ⟨e₀, he₀, rfl⟩ := Option.map_eq_some_iff.mp he
      exact ⟨(x, e₀), h₀.mem_toList_iff.mpr ⟨hx, he₀⟩, rfl⟩
    · rintro ⟨⟨y, e₀⟩, hm, heq⟩
      obtain ⟨rfl, rfl⟩ := Prod.mk.inj heq
      obtain ⟨hy, he₀⟩ := h₀.mem_toList_iff.mp hm
      exact ⟨hy, by rw [he₀]; rfl⟩
  refine hperm.eq_of_pairwise (fun a b _ _ hab hba => ?_) (toList_sorted d) hsorted
  rw [Std.OrientedOrd.eq_swap, hba] at hab
  cases hab

theorem size_eq (h₀ : d₀.IsTree) (h : Reworked f d₀ d) : d.size = d₀.size := by
  have hlength : ∀ d : Disk, d.size = d.toList.length := fun d => Std.ExtTreeMap.length_toList.symm
  rw [hlength, hlength, h.toList_eq h₀, List.length_map]

/-! ## What is selected -/

theorem names_eq (h₀ : d₀.IsTree) (h : Reworked f d₀ d) (x : Place) :
    d.names x = (d₀.names x).map fun child => (child.1, child.2.map (f (x ++ [child.1]))) := by
  rw [names, names, h.toList_eq h₀, List.filterMap_map, List.map_filterMap]
  refine List.filterMap_congr ?_
  rintro ⟨y, e⟩ -
  cases hn : childName? x y with
  | none => simp [hn]
  | some name => simp only [Function.comp_apply, hn, Option.map_some, ← childName?_eq_some.mp hn]

/-- What is met on a walk is met **by the same names**, and the directories stay directories. -/
theorem visits_eq (h₀ : d₀.IsTree) (h : Reworked f d₀ d) : ∀ (n : Nat) (x : Place) (p : Path)
    (names : List String), (visits d n x p names).map signature = (visits d₀ n x p names).map signature
  | 0, _, _, _ => rfl
  | n + 1, x, p, names => by
    rw [visits, visits, h.names_eq h₀, List.flatMap_map, List.map_flatMap, List.map_flatMap]
    refine List.flatMap_congr fun child _ => ?_
    simp only [Entry.isDirectory_map, List.map_cons, signature]
    split
    · rw [visits_eq h₀ h n]
    · rfl

/-- **Globs select the same** before and after files are reworked. -/
theorem select_eq (h : Reworked f d₀ d) (hs : Stands home p d₀) (hp : p.Accepted)
    (includes excludes : List String) :
    d.select p includes excludes = d₀.select p includes excludes := by
  have hbound : d.depthBound = d₀.depthBound := by rw [depthBound, depthBound, h.size_eq hs.tree]
  rw [select_of_stands hs hp, select_of_stands (h.stands hs) hp, hbound]
  simp only [selected_eq, h.visits_eq hs.tree]

end Reworked

/-! ## How many files differ -/

/-- On **how many files** of a disk two functions differ. -/
def differences (d : Disk) (f g : Place → ByteArray → ByteArray) : Nat :=
  d.toList.countP fun entry => entry.2.map (f entry.1) ≠ entry.2.map (g entry.1)

theorem differences_congr {f' g' : Place → ByteArray → ByteArray} (hf : ∀ x, f x = f' x)
    (hg : ∀ x, g x = g' x) : d.differences f g = d.differences f' g' := by
  rw [funext hf, funext hg]

/-- After a disk has been reworked, functions differ on as many files as they did after the reworking
function before. -/
theorem Reworked.differences_eq (h₀ : d₀.IsTree) (h : Reworked f d₀ d)
    (g g' : Place → ByteArray → ByteArray) :
    d.differences g g' = d₀.differences (fun x => g x ∘ f x) (fun x => g' x ∘ f x) := by
  rw [differences, differences, h.toList_eq h₀, List.countP_map]
  simp only [Function.comp_def, Entry.map_map]

theorem differences_eq_zero (h : d.IsTree)
    (hf : ∀ x content, d.find? x = some (.file content) → f x content = g x content) :
    d.differences f g = 0 := by
  rw [differences, List.countP_eq_zero]
  rintro ⟨x, e⟩ hm
  have he := (h.mem_toList_iff.mp hm).2
  cases e with
  | file content => simp [Entry.map, hf x content he]
  | directory => simp [Entry.map]
  | link target => simp [Entry.map]

/-- Functions that differ on **one file** only. -/
theorem differences_eq_one (h : d.IsTree) {x : Place} {content : ByteArray}
    (hx : d.find? x = some (.file content)) (hne : f x content ≠ g x content)
    (hother : ∀ y, y ≠ x → f y = g y) : d.differences f g = 1 := by
  have hnil : x ≠ [] := by
    rintro rfl
    rw [find?_nil] at hx
    cases hx
  rw [← List.count_eq_one_of_mem (nodup_toList d) (h.mem_toList_iff.mpr ⟨hnil, hx⟩), differences]
  refine List.countP_congr ?_
  rintro ⟨y, e⟩ hm
  have he := (h.mem_toList_iff.mp hm).2
  by_cases hy : y = x
  · subst hy
    obtain rfl := Option.some.inj (hx.symm.trans he)
    simp [Entry.map, hne]
  · simp [hother y hy, hy]

/-- The differences of two steps **add up** if no file is changed in both. -/
theorem differences_add {g₀ : Place → ByteArray → ByteArray} (h : ∀ x, f x = g₀ x ∨ g x = f x) :
    d.differences g₀ f + d.differences f g = d.differences g₀ g := by
  unfold differences
  induction d.toList with
  | nil => rfl
  | cons entry l ih =>
    simp only [List.countP_cons]
    rcases h entry.1 with heq | heq <;>
      simp only [heq, ne_eq, not_true_eq_false, decide_false, Bool.false_eq_true, if_false] at ih ⊢ <;>
      omega

end Disk

end SiteGen
