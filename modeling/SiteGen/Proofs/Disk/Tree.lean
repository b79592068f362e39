import Mathlib.Data.List.Sort
import Mathlib.Data.String.Basic
import SiteGen.Disk.Operations
import SiteGen.Proofs.Path.Trail

/-!
# Disks that are trees

On a disk without links that is **a tree**, everything is in a directory and has a name that a path
can call it by. Two such disks are the same if they have the same at every place.

* `Disk.IsNested`: the same for a disk that may have links; above what is there are directories.
* `Disk.IsTree`: a nested disk without links.
* `Disk.find?_eraseBelow`, `Disk.find?_moveBelow`: what is there after removing and moving.
* `Disk.mem_names`, `Disk.names_sorted`, `Disk.names_congr`: the names in a directory.
* `IsNested.length_le_size`: nothing is deeper than the disk is large.
* `IsNested.insert`, `IsTree.insert`, `IsTree.eraseBelow`, `IsTree.erase`, `IsTree.moveBelow`: what keeps a
  tree a tree.
-/

namespace SiteGen

/-- A name that can be **on a disk**: a plain one without null character. -/
structure IsDiskName (name : String) : Prop extends Path.IsPlainName name where
  no_null : '\x00' ∉ name.toList

theorem isDiskName_iff {name : String} :
    IsDiskName name ↔ Path.IsPlainName name ∧ '\x00' ∉ name.toList :=
  ⟨fun h => ⟨h.toIsPlainName, h.no_null⟩, fun ⟨h, hnull⟩ => ⟨h, hnull⟩⟩

instance (name : String) : Decidable (IsDiskName name) := decidable_of_iff' _ isDiskName_iff

namespace Disk

/-! ## What is there -/

theorem find?_nil (d : Disk) : d.find? [] = some .directory := by simp [find?]

theorem find?_of_ne {d : Disk} {p : Place} (h : p ≠ []) : d.find? p = d.entries[p]? := by
  simp [find?, h]

theorem find?_eraseBelow (d : Disk) (p q : Place) (hq : q ≠ []) :
    (d.eraseBelow p).find? q = if p <+: q then none else d.find? q := by
  rw [find?_of_ne hq, find?_of_ne hq, eraseBelow, Std.ExtTreeMap.getElem?_filter']
  by_cases h : p <+: q
  · simp [h]
  · cases d.entries[q]? with
    | none => simp
    | some e => simp [h, Option.filter_some]

theorem insert_insert (d : Disk) (p : Place) (e e' : Entry) : (d.insert p e).insert p e' = d.insert p e' := by
  refine Disk.ext (Std.ExtTreeMap.ext_getElem? fun q => ?_) rfl
  simp only [insert, Std.ExtTreeMap.getElem?_insert]
  split <;> rfl

theorem mem_toList {d : Disk} {p : Place} {e : Entry} :
    (p, e) ∈ d.toList ↔ d.entries[p]? = some e :=
  Std.ExtTreeMap.mem_toList_iff_getElem?_eq_some

/-- A disk is **a tree** if there are no links, and all that is there is in a directory and has a name
that can be on a disk. -/
structure IsTree (d : Disk) : Prop where
  noLink : ∀ p target, d.find? p ≠ some (.link target)
  noRoot : d.entries[([] : Place)]? = none
  parent : ∀ p name, (d.find? (p ++ [name])).isSome → d.find? p = some .directory
  name : ∀ p name, (d.find? (p ++ [name])).isSome → IsDiskName name

variable {d d₁ d₂ : Disk}

/-- A disk is **nested** if all that is there, a link or not, is in a directory and has a name that can be on a
disk. -/
structure IsNested (d : Disk) : Prop where
  noRoot : d.entries[([] : Place)]? = none
  parent : ∀ p name, (d.find? (p ++ [name])).isSome → d.find? p = some .directory
  name : ∀ p name, (d.find? (p ++ [name])).isSome → IsDiskName name

theorem IsTree.nested (h : d.IsTree) : d.IsNested := ⟨h.noRoot, h.parent, h.name⟩

theorem isNested_iff : d.IsNested ↔ d.entries[([] : Place)]? = none ∧
    ∀ x ∈ d.toList, d.find? x.1.dropLast = some .directory ∧ ∀ name ∈ x.1.getLast?, IsDiskName name := by
  constructor
  · refine fun h => ⟨h.noRoot, fun (q, e) hx => ?_⟩
    rw [mem_toList] at hx
    rcases List.eq_nil_or_concat q with rfl | ⟨l, name, rfl⟩
    · rw [h.noRoot] at hx
      cases hx
    · rw [List.concat_eq_append] at hx ⊢
      rw [← find?_of_ne (by simp)] at hx
      have hsome : (d.find? (l ++ [name])).isSome := by rw [hx]; rfl
      exact ⟨by simpa using h.parent l name hsome, by simpa using h.name l name hsome⟩
  · rintro ⟨hroot, h⟩
    have hmem : ∀ l name, (d.find? (l ++ [name])).isSome → ∃ e, (l ++ [name], e) ∈ d.toList := fun l name hsome => by
      obtain ⟨e, he⟩ := Option.isSome_iff_exists.mp hsome
      exact ⟨e, mem_toList.mpr (by rwa [find?_of_ne (by simp)] at he)⟩
    refine ⟨hroot, fun l name hsome => ?_, fun l name hsome => ?_⟩
    · obtain ⟨e, he⟩ := hmem l name hsome
      simpa using (h _ he).1
    · obtain ⟨e, he⟩ := hmem l name hsome
      exact (h _ he).2 name (by simp)

instance (d : Disk) : Decidable d.IsNested := decidable_of_iff' _ isNested_iff

theorem isTree_iff : d.IsTree ↔ d.IsNested ∧ ∀ x ∈ d.toList, x.2.isDirectory ∨ x.2.isFile := by
  constructor
  · refine fun h => ⟨h.nested, fun (q, e) hx => ?_⟩
    rw [mem_toList] at hx
    cases e with
    | directory => exact Or.inl rfl
    | file content => exact Or.inr rfl
    | link target =>
      refine absurd hx ?_
      by_cases hq : q = []
      · rw [hq, h.noRoot]
        nofun
      · rw [← find?_of_ne hq]
        exact h.noLink q target
  · rintro ⟨hnested, h⟩
    refine ⟨fun q target hq => ?_, hnested.noRoot, hnested.parent, hnested.name⟩
    by_cases hne : q = []
    · rw [hne, find?_nil] at hq
      cases hq
    · rw [find?_of_ne hne] at hq
      simpa [Entry.isDirectory, Entry.isFile] using h _ (mem_toList.mpr hq)

instance (d : Disk) : Decidable d.IsTree := decidable_of_iff' _ isTree_iff

namespace IsNested

theorem find?_prefix (h : d.IsNested) {p q : Place} (hq : (d.find? q).isSome) (hp : p <+: q)
    (hne : p ≠ q) : d.find? p = some .directory := by
  obtain ⟨rest, rfl⟩ := hp
  induction rest using List.reverseRecOn with
  | nil => simp at hne
  | append_singleton l name ih =>
    rw [← List.append_assoc] at hq
    have hl := h.parent _ _ hq
    by_cases hl' : l = []
    · simpa [hl'] using hl
    · exact ih (by rw [hl]; rfl) (by simpa using hl')

theorem isSome_prefix (h : d.IsNested) {p q : Place} (hq : (d.find? q).isSome) (hp : p <+: q) :
    (d.find? p).isSome := by
  by_cases hne : p = q
  · rwa [hne]
  · rw [h.find?_prefix hq hp hne]
    rfl

/-- **Nothing is below** where nothing is. -/
theorem find?_none (h : d.IsNested) {p q : Place} (hp : d.find? p = none) (hpq : p <+: q) :
    d.find? q = none := by
  by_contra hsome
  have hsome' := h.isSome_prefix (Option.isSome_iff_ne_none.mpr hsome) hpq
  rw [hp] at hsome'
  cases hsome'

theorem find?_below (h : d.IsNested) {p : Place} (hp : d.find? p = none) (m : List String) :
    d.find? (p ++ m) = none := h.find?_none hp (List.prefix_append p m)

theorem isDiskName_of_mem (h : d.IsNested) {q : Place} (hq : (d.find? q).isSome) {name : String}
    (hn : name ∈ q) : IsDiskName name := by
  obtain ⟨l, r, rfl⟩ := List.append_of_mem hn
  exact h.name l name (h.isSome_prefix hq ⟨r, by simp⟩)

/-- Nothing is deeper than the disk is large. -/
theorem length_le_size (h : d.IsNested) {p : Place} (hp : (d.find? p).isSome) : p.length ≤ d.size := by
  let above := (List.range p.length).map fun i => p.take (i + 1)
  have hsub : above ⊆ d.entries.keys := by
    intro q hq
    obtain ⟨i, hi, rfl⟩ := List.mem_map.mp hq
    have hne : p.take (i + 1) ≠ [] := by
      have := List.mem_range.mp hi
      exact List.ne_nil_of_length_pos (by rw [List.length_take]; omega)
    rw [Std.ExtTreeMap.mem_keys, Std.ExtTreeMap.mem_iff_isSome_getElem?, ← find?_of_ne hne]
    exact h.isSome_prefix hp (List.take_prefix _ _)
  have hnodup : above.Nodup := by
    refine List.nodup_range.map_on fun i hi j hj hij => ?_
    have := congrArg List.length hij
    rw [List.length_take, List.length_take] at this
    rw [List.mem_range] at hi hj
    omega
  have hle := (List.subperm_of_subset hnodup hsub).length_le
  rw [List.length_map, List.length_range, Std.ExtTreeMap.length_keys] at hle
  exact hle

end IsNested

namespace IsTree

theorem find?_prefix (h : d.IsTree) {p q : Place} (hq : (d.find? q).isSome) (hp : p <+: q) (hne : p ≠ q) :
    d.find? p = some .directory := h.nested.find?_prefix hq hp hne

theorem isSome_prefix (h : d.IsTree) {p q : Place} (hq : (d.find? q).isSome) (hp : p <+: q) :
    (d.find? p).isSome := h.nested.isSome_prefix hq hp

theorem find?_none (h : d.IsTree) {p q : Place} (hp : d.find? p = none) (hpq : p <+: q) :
    d.find? q = none := h.nested.find?_none hp hpq

theorem isDiskName_of_mem (h : d.IsTree) {q : Place} (hq : (d.find? q).isSome) {name : String}
    (hn : name ∈ q) : IsDiskName name := h.nested.isDiskName_of_mem hq hn

theorem ext (h₁ : d₁.IsTree) (h₂ : d₂.IsTree) (hhome : d₁.home = d₂.home)
    (h : ∀ p, d₁.find? p = d₂.find? p) : d₁ = d₂ := by
  refine Disk.ext (Std.ExtTreeMap.ext_getElem? fun p => ?_) hhome
  by_cases hp : p = []
  · rw [hp, h₁.noRoot, h₂.noRoot]
  · rw [← find?_of_ne hp, ← find?_of_ne hp, h p]

end IsTree

/-! ## Names in a directory -/

theorem childName?_eq_some {p q : Place} {name : String} :
    childName? p q = some name ↔ q = p ++ [name] := by
  unfold childName?
  constructor
  · intro h
    split at h
    · next n hn =>
      split at h
      · next hp =>
        obtain ⟨r, rfl⟩ := List.isPrefixOf_iff_prefix.mp hp
        rw [List.drop_left] at hn
        rw [hn, Option.some.inj h]
      · cases h
    · cases h
  · rintro rfl
    simp

theorem mem_names {d : Disk} {p : Place} {name : String} {e : Entry} :
    (name, e) ∈ d.names p ↔ d.find? (p ++ [name]) = some e := by
  rw [find?_of_ne (by simp), ← mem_toList, names, List.mem_filterMap]
  constructor
  · rintro ⟨⟨q, e'⟩, hq, h⟩
    obtain ⟨n, hn, heq⟩ := Option.map_eq_some_iff.mp h
    obtain ⟨rfl, rfl⟩ := Prod.mk.inj heq
    rwa [childName?_eq_some.mp hn] at hq
  · intro h
    exact ⟨_, h, by simp [childName?_eq_some.mpr rfl]⟩

theorem compare_append_left (p a b : Place) : compare (p ++ a) (p ++ b) = compare a b := by
  induction p with
  | nil => rfl
  | cons s p ih =>
    change List.compareLex compare (s :: (p ++ a)) (s :: (p ++ b)) = _
    rw [List.compareLex_cons_cons, Std.ReflOrd.compare_self]
    exact ih

theorem compare_single_eq_lt {a b : String} : compare ([a] : Place) [b] = .lt ↔ a < b := by
  change List.compareLex compare [a] [b] = .lt ↔ _
  rw [List.compareLex_cons_cons, List.compareLex_nil_nil]
  have hlt : compare a b = .lt ↔ a < b := compareOfLessAndEq_eq_lt
  cases h : compare a b with
  | lt => simpa [h] using hlt
  | eq => simpa [h] using hlt
  | gt => simpa [h] using hlt

/-- The names in a directory come **in order**. -/
theorem names_sorted (d : Disk) (p : Place) : (d.names p).Pairwise (·.1 < ·.1) := by
  have h : d.toList.Pairwise (fun a b => compare a.1 b.1 = .lt) :=
    Std.ExtTreeMap.ordered_keys_toList
  refine List.Pairwise.filterMap _ (fun a a' haa b hb b' hb' => ?_) h
  obtain ⟨n, hn, rfl⟩ := Option.map_eq_some_iff.mp hb
  obtain ⟨n', hn', rfl⟩ := Option.map_eq_some_iff.mp hb'
  rw [childName?_eq_some.mp hn, childName?_eq_some.mp hn', compare_append_left,
    compare_single_eq_lt] at haa
  exact haa

theorem nodup_names (d : Disk) (p : Place) : (d.names p).Nodup := by
  refine (names_sorted d p).imp fun {a b} h heq => ?_
  rw [heq] at h
  exact lt_irrefl _ h

/-- What is listed depends only on what is directly in the directory. -/
theorem names_congr {d₁ d₂ : Disk} {p : Place}
    (h : ∀ name, d₁.find? (p ++ [name]) = d₂.find? (p ++ [name])) : d₁.names p = d₂.names p := by
  have hperm : (d₁.names p).Perm (d₂.names p) := by
    rw [List.perm_ext_iff_of_nodup (nodup_names d₁ p) (nodup_names d₂ p)]
    rintro ⟨name, e⟩
    rw [mem_names, mem_names, h name]
  exact hperm.eq_of_pairwise (fun a b _ _ hab hba => absurd hab hba.asymm) (names_sorted d₁ p)
    (names_sorted d₂ p)

/-! ## What keeps a tree a tree -/

section Keeping

variable {d : Disk} {p q : Place}

theorem concat_ne_nil (p : Place) (name : String) : p ++ [name] ≠ [] := by simp

theorem concat_injective (p : Place) : Function.Injective fun name : String => p ++ [name] :=
  fun _ _ h => (List.cons.inj (List.append_cancel_left h)).1

/-- Something new in a directory, or something else in place of what is no directory. -/
theorem IsNested.insert (h : d.IsNested) {name : String} {e : Entry} (hp : d.find? p = some .directory)
    (hn : IsDiskName name) (hold : d.find? (p ++ [name]) = some .directory → e = .directory) :
    (d.insert (p ++ [name]) e).IsNested := by
  have hf := fun r => find?_insert d (p ++ [name]) r e (concat_ne_nil p name)
  refine ⟨?_, fun r n hr => ?_, fun r n hr => ?_⟩
  · rw [Disk.insert, Std.ExtTreeMap.getElem?_insert]
    simp [h.noRoot]
  · rw [hf] at hr ⊢
    by_cases hrn : p ++ [name] = r ++ [n]
    · obtain ⟨rfl, -⟩ := List.append_inj' hrn rfl
      rw [if_neg (by simp)]
      exact hp
    · rw [if_neg hrn] at hr
      have hr' := h.parent r n hr
      split
      · next heq => rw [hold (heq ▸ hr')]
      · exact hr'
  · rw [hf] at hr
    by_cases hrn : p ++ [name] = r ++ [n]
    · obtain ⟨-, hn'⟩ := List.append_inj' hrn rfl
      obtain rfl := List.cons.inj hn' |>.1
      exact hn
    · rw [if_neg hrn] at hr
      exact h.name r n hr

/-- Something new in a directory, or a file in place of another one. -/
theorem IsTree.insert (h : d.IsTree) {name : String} {e : Entry} (hp : d.find? p = some .directory)
    (hn : IsDiskName name) (he : ∀ target, e ≠ .link target)
    (hold : d.find? (p ++ [name]) = some .directory → e = .directory) :
    (d.insert (p ++ [name]) e).IsTree := by
  have hnested := h.nested.insert hp hn hold
  refine ⟨fun r target => ?_, hnested.noRoot, hnested.parent, hnested.name⟩
  rw [find?_insert _ _ _ _ (concat_ne_nil p name)]
  split
  · exact fun heq => he target (Option.some.inj heq)
  · exact h.noLink r target

/-- Nothing in place of a file. -/
theorem IsTree.erase (h : d.IsTree) (hp : p ≠ []) (hfile : d.find? p ≠ some .directory) :
    (d.erase p).IsTree := by
  have hf := fun r => find?_erase d p r hp
  have hof : ∀ r, ((d.erase p).find? r).isSome → (d.find? r).isSome := by
    intro r hr
    rw [hf] at hr
    split at hr
    · cases hr
    · exact hr
  refine ⟨fun r target => ?_, ?_, fun r n hr => ?_, fun r n hr => h.name r n (hof _ hr)⟩
  · rw [hf]
    split
    · simp
    · exact h.noLink r target
  · rw [Disk.erase, Std.ExtTreeMap.getElem?_erase]
    simp [h.noRoot]
  · have hr' := h.parent r n (hof _ hr)
    rw [hf, if_neg]
    · exact hr'
    · rintro rfl
      exact hfile hr'

/-- Nothing at a place and below it. -/
theorem IsTree.eraseBelow (h : d.IsTree) (p : Place) : (d.eraseBelow p).IsTree := by
  have hof : ∀ r, ((d.eraseBelow p).find? r).isSome → (d.find? r).isSome := by
    intro r hr
    by_cases hne : r = []
    · rw [hne, find?_nil]
      rfl
    · rw [find?_eraseBelow d p r hne] at hr
      split at hr
      · cases hr
      · exact hr
  refine ⟨fun r target => ?_, ?_, fun r n hr => ?_, fun r n hr => h.name r n (hof _ hr)⟩
  · by_cases hne : r = []
    · rw [hne, find?_nil]
      simp
    · rw [find?_eraseBelow d p r hne]
      split
      · simp
      · exact h.noLink r target
  · rw [Disk.eraseBelow, Std.ExtTreeMap.getElem?_filter', h.noRoot]
    rfl
  · by_cases hne : r = []
    · rw [hne, find?_nil]
    · have hr' := h.parent r n (hof _ hr)
      rw [find?_eraseBelow d p r hne, if_neg]
      · exact hr'
      · intro hpr
        rw [find?_eraseBelow d p _ (concat_ne_nil r n),
          if_pos (hpr.trans (List.prefix_append _ _))] at hr
        cases hr

/-! ## Moving -/

theorem find?_foldl_insert_of_not_mem (goal : Place → Place) (hgoal : ∀ r, goal r ≠ []) (x : Place) :
    ∀ (l : List (Place × Entry)) (d : Disk), (∀ a ∈ l, goal a.1 ≠ x) →
      (l.foldl (fun d (r, e) => d.insert (goal r) e) d).find? x = d.find? x
  | [], _, _ => rfl
  | a :: l, d, h => by
    rw [List.foldl_cons, find?_foldl_insert_of_not_mem goal hgoal x l _
      fun b hb => h b (List.mem_cons_of_mem _ hb), find?_insert _ _ _ _ (hgoal a.1),
      if_neg (h a List.mem_cons_self)]

theorem find?_foldl_insert_of_mem (goal : Place → Place) (hgoal : ∀ r, goal r ≠ []) :
    ∀ (l : List (Place × Entry)) (d : Disk), l.Pairwise (goal ·.1 ≠ goal ·.1) →
      ∀ a ∈ l, (l.foldl (fun d (r, e) => d.insert (goal r) e) d).find? (goal a.1) = some a.2
  | b :: l, d, h, a, ha => by
    rw [List.pairwise_cons] at h
    rw [List.foldl_cons]
    rcases List.mem_cons.mp ha with rfl | ha
    · rw [find?_foldl_insert_of_not_mem goal hgoal _ l _ fun c hc => (h.1 c hc).symm,
        find?_insert _ _ _ _ (hgoal a.1), if_pos rfl]
    · exact find?_foldl_insert_of_mem goal hgoal l _ h.2 a ha

theorem home_foldl_insert (goal : Place → Place) :
    ∀ (l : List (Place × Entry)) (d : Disk),
      (l.foldl (fun d (r, e) => d.insert (goal r) e) d).home = d.home
  | [], _ => rfl
  | _ :: l, _ => by rw [List.foldl_cons, home_foldl_insert goal l, home_insert]

theorem noRoot_foldl_insert (goal : Place → Place) (hgoal : ∀ r, goal r ≠ []) :
    ∀ (l : List (Place × Entry)) (d : Disk), d.entries[([] : Place)]? = none →
      (l.foldl (fun d (r, e) => d.insert (goal r) e) d).entries[([] : Place)]? = none
  | [], _, h => h
  | a :: l, d, h => by
    refine noRoot_foldl_insert goal hgoal l _ ?_
    show (d.entries.insert (goal a.1) a.2)[([] : Place)]? = none
    rw [Std.ExtTreeMap.getElem?_insert, h]
    simp [hgoal a.1]

@[simp]
theorem home_moveBelow (d : Disk) (p q : Place) : (d.moveBelow p q).home = d.home := by
  unfold moveBelow
  simp only [home_foldl_insert (fun r => q ++ r.drop p.length), home_eraseBelow]

/-- **What is there after moving** a place to another one. -/
theorem find?_moveBelow (d : Disk) {p q : Place} (hp : p ≠ []) (hq : q ≠ []) (x : Place) :
    (d.moveBelow p q).find? x =
      if q <+: x then d.find? (p ++ x.drop q.length) else if p <+: x then none else d.find? x := by
  have hgoal : ∀ r : Place, q ++ r.drop p.length ≠ [] := fun r => by simp [hq]
  have hpne : ∀ s : Place, p ++ s ≠ [] := fun s => by simp [hp]
  have hmem : ∀ r e, (r, e) ∈ d.toList.filter (fun a => p.isPrefixOf a.1) ↔
      ∃ s, r = p ++ s ∧ d.find? (p ++ s) = some e := by
    intro r e
    rw [List.mem_filter, mem_toList, List.isPrefixOf_iff_prefix]
    constructor
    · rintro ⟨he, s, rfl⟩
      exact ⟨s, rfl, by rw [find?_of_ne (hpne s)]; exact he⟩
    · rintro ⟨s, rfl, he⟩
      rw [find?_of_ne (hpne s)] at he
      exact ⟨he, s, rfl⟩
  have hdistinct : (d.toList.filter (fun a => p.isPrefixOf a.1)).Pairwise
      (fun a b => q ++ a.1.drop p.length ≠ q ++ b.1.drop p.length) := by
    refine List.Pairwise.imp_of_mem (fun {a b} ha hb hne heq => hne ?_)
      ((Std.ExtTreeMap.distinct_keys_toList (t := d.entries)).filter _)
    obtain ⟨s, hs, -⟩ := (hmem a.1 a.2).mp ha
    obtain ⟨t, ht, -⟩ := (hmem b.1 b.2).mp hb
    rw [hs, ht, List.drop_left, List.drop_left, List.append_cancel_left_eq] at heq
    rw [hs, ht, heq]
    exact Std.ReflOrd.compare_self
  unfold moveBelow
  by_cases hqx : q <+: x
  · obtain ⟨s, rfl⟩ := hqx
    rw [if_pos (List.prefix_append _ _), List.drop_left]
    cases he : d.find? (p ++ s) with
    | some e =>
      have h := find?_foldl_insert_of_mem (fun r => q ++ r.drop p.length) hgoal _
        ((d.eraseBelow p).eraseBelow q) hdistinct (p ++ s, e) ((hmem _ e).mpr ⟨s, rfl, he⟩)
      simpa only [List.drop_left] using h
    | none =>
      rw [find?_foldl_insert_of_not_mem (fun r => q ++ r.drop p.length) hgoal]
      · rw [find?_eraseBelow _ _ _ (by simp [hq]), if_pos (List.prefix_append _ _)]
      · intro a ha heq
        obtain ⟨t, ht, hsome⟩ := (hmem a.1 a.2).mp ha
        rw [ht, List.drop_left, List.append_cancel_left_eq] at heq
        rw [heq, he] at hsome
        cases hsome
  · rw [if_neg hqx, find?_foldl_insert_of_not_mem (fun r => q ++ r.drop p.length) hgoal]
    · by_cases hx : x = []
      · rw [hx, find?_nil, find?_nil, if_neg (by simpa using hp)]
      · rw [find?_eraseBelow _ _ _ hx, if_neg hqx, find?_eraseBelow _ _ _ hx]
    · rintro a - rfl
      exact hqx (List.prefix_append _ _)

/-- What is at a place moved to a name in a directory that is not below it. -/
theorem IsTree.moveBelow (h : d.IsTree) {name : String} (hp : p ≠ []) (hq : d.find? q = some .directory)
    (hn : IsDiskName name) (hpq : ¬p <+: q) : (d.moveBelow p (q ++ [name])).IsTree := by
  have hf := find?_moveBelow d hp (concat_ne_nil q name)
  -- what is in a directory after moving is new there, was moved with it, or stayed in it
  have hin : ∀ r n, ((d.moveBelow p (q ++ [name])).find? (r ++ [n])).isSome →
      (r = q ∧ n = name) ∨
      (∃ s, r = q ++ [name] ++ s ∧ (d.find? (p ++ s ++ [n])).isSome) ∨
      (¬q ++ [name] <+: r ∧ ¬p <+: r ∧ (d.find? (r ++ [n])).isSome) := by
    intro r n hr
    rw [hf] at hr
    split at hr
    · next hpre =>
      rcases List.prefix_concat_iff.mp hpre with heq | ⟨s, rfl⟩
      · obtain ⟨rfl, hn'⟩ := List.append_inj' heq rfl
        exact Or.inl ⟨rfl, (List.cons.inj hn').1.symm⟩
      · rw [List.append_assoc _ s, List.drop_left, ← List.append_assoc] at hr
        exact Or.inr (Or.inl ⟨s, rfl, hr⟩)
    · next hpre =>
      split at hr
      · cases hr
      · next hpr =>
        exact Or.inr (Or.inr ⟨fun hc => hpre (hc.trans (List.prefix_append _ _)),
          fun hc => hpr (hc.trans (List.prefix_append _ _)), hr⟩)
  refine ⟨fun r target => ?_, ?_, fun r n hr => ?_, fun r n hr => ?_⟩
  · rw [hf]
    split
    · exact h.noLink _ target
    · split
      · simp
      · exact h.noLink r target
  · exact noRoot_foldl_insert (fun r => q ++ [name] ++ r.drop p.length) (fun r => by simp) _ _
      ((h.eraseBelow p).eraseBelow _).noRoot
  · rcases hin r n hr with ⟨rfl, -⟩ | ⟨s, rfl, hs⟩ | ⟨hnot, hpr, hs⟩
    · rw [hf, if_neg (fun hc => by simpa using hc.length_le), if_neg hpq, hq]
    · rw [hf, if_pos (List.prefix_append _ _), List.drop_left]
      exact h.parent _ n hs
    · rw [hf, if_neg hnot, if_neg hpr]
      exact h.parent r n hs
  · rcases hin r n hr with ⟨-, rfl⟩ | ⟨s, -, hs⟩ | ⟨-, -, hs⟩
    · exact hn
    · exact h.name _ n hs
    · exact h.name r n hs

end Keeping

end Disk

end SiteGen
