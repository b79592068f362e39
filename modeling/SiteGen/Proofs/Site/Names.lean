import SiteGen.Proofs.Site.Enter

/-!
# The sites to run

* `Workspace.inOrder_pairwise`, `Workspace.mem_inOrder`: the sites that are requested come in order, each
  once.
* `Workspace.inOrder_congr`: only which sites are requested matters.
* `Workspace.select_all`: if none are requested, all that are there are run.
-/

namespace SiteGen

open Disk SiteGen.Path Run

namespace Workspace

/-! ## Names in order -/

theorem mem_dropRepeats {name : String} : ∀ {l : List String}, name ∈ dropRepeats l ↔ name ∈ l
  | [] => Iff.rfl
  | [_] => Iff.rfl
  | a :: b :: rest => by
    rw [dropRepeats]
    split
    · next h =>
      subst h
      rw [mem_dropRepeats]
      simp
    · rw [List.mem_cons, mem_dropRepeats, ← List.mem_cons]

theorem dropRepeats_pairwise : ∀ {l : List String}, l.Pairwise (· ≤ ·) →
    (dropRepeats l).Pairwise (· < ·)
  | [], _ => .nil
  | [a], _ => List.pairwise_singleton _ a
  | a :: b :: rest, h => by
    obtain ⟨ha, hrest⟩ := List.pairwise_cons.mp h
    rw [dropRepeats]
    split
    · exact dropRepeats_pairwise hrest
    · next hne =>
      refine List.pairwise_cons.mpr ⟨fun c hc => ?_, dropRepeats_pairwise hrest⟩
      have hab : a < b := lt_of_le_of_ne (ha b (by simp)) hne
      rcases List.mem_cons.mp (mem_dropRepeats.mp hc) with rfl | hc
      · exact hab
      · exact lt_of_lt_of_le hab ((List.pairwise_cons.mp hrest).1 c hc)

/-- The names **increase**. -/
theorem inOrder_pairwise (names : List String) : (inOrder names).Pairwise (· < ·) := by
  refine dropRepeats_pairwise ?_
  have hsorted := @List.pairwise_mergeSort _ (fun a b : String => decide (a ≤ b))
    (fun a b c hab hbc => by simpa using le_trans (of_decide_eq_true hab) (of_decide_eq_true hbc))
    (fun a b => by simpa using le_total a b) names
  exact hsorted.imp fun h => of_decide_eq_true h

theorem mem_inOrder {names : List String} {name : String} : name ∈ inOrder names ↔ name ∈ names := by
  rw [inOrder, mem_dropRepeats, List.mem_mergeSort]

/-- **Order and repetition** of names do not matter. -/
theorem inOrder_congr {names names' : List String} (h : ∀ name, name ∈ names ↔ name ∈ names') :
    inOrder names = inOrder names' :=
  (inOrder_pairwise names).eq_of_mem_iff (inOrder_pairwise names') fun name => by
    rw [mem_inOrder, mem_inOrder, h]

/-! ## The sites to run -/

variable {w : Workspace}

theorem select_of_ne_nil {names : List String} (h : names ≠ []) :
    w.select names = pure (inOrder names) := by
  rw [select, if_neg (by simpa using h)]

/-- If no site is requested, **all that are there** are run, unless the path of the directory that they are in is
too long. -/
theorem select_all {names : List String} (hne : names ≠ []) {world : World}
    (h : Stands world.disk.home w.root world.disk) (hlong : w.sites.isLong = false)
    (hall : ∀ name, name ∈ names ↔
      world.disk.find? (w.sitesPlace world.disk.home ++ [name]) = some .directory) :
    (w.select []).on world = (w.select names).on world := by
  obtain ⟨first, hfirst⟩ := List.exists_mem_of_ne_nil names hne
  have hdirectory : world.disk.find? (w.sitesPlace world.disk.home) = some .directory :=
    h.tree.parent _ first (by rw [(hall first).mp hfirst]; rfl)
  have hplain := isDiskName_sites.toIsPlainName
  have hlist := listing_of_leads (h.leads.child isDiskName_sites hdirectory)
    (h.leads.accepted_child isDiskName_sites hlong)
  rw [place_child _ hplain] at hlist
  have hon : (w.select []).on world = (.ok (((world.disk.names (w.sitesPlace world.disk.home)).filter
      (·.2.isDirectory)).map (·.1)), world) := by
    have hquery : (Run.query (·.listing w.sites)).on world =
        (.ok (world.disk.names (w.sitesPlace world.disk.home)), world) := by
      rw [query_on, Workspace.sites, hlist]
      rfl
    show (w.siteNames).on world = _
    rw [siteNames, bind_of_ok hquery]
    rfl
  rw [hon, select_of_ne_nil hne, pure_on]
  refine congrArg (fun l => (Except.ok l, world)) (List.Pairwise.eq_of_mem_iff (r := (· < ·)) ?_
    (inOrder_pairwise names) fun name => ?_)
  · exact List.Pairwise.map _ (fun _ _ h => h) ((names_sorted _ _).filter _)
  · rw [mem_inOrder, hall, List.mem_map]
    constructor
    · rintro ⟨⟨_, e⟩, hm, rfl⟩
      obtain ⟨hm, hdir⟩ := List.mem_filter.mp hm
      rw [mem_names.mp hm]
      cases e with
      | directory => rfl
      | file content => cases hdir
      | link target => cases hdir
    · exact fun hd => ⟨(name, .directory), List.mem_filter.mpr ⟨mem_names.mpr hd, rfl⟩, rfl⟩

end Workspace

end SiteGen
