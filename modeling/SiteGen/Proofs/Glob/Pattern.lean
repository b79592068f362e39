import Mathlib.Tactic.Choose
import SiteGen.Glob.Reader
import SiteGen.Path
import SiteGen.Proofs.Run.Result

/-!
# Patterns and their globs

* `Glob.Denotes`, `Glob.denotes_iff`: the glob of a pattern, the dots for the current directory in front left out.
* `Glob.exists_ofPatterns`, `Glob.exists_firstRefused`: the globs of a list of patterns, or what is refused.
-/

namespace SiteGen.Glob

variable {pattern : String} {g : Glob} {l rest : List Char} {n : Nat} {patterns : List String}

/-- What a pattern **denotes**: the glob that is written behind all the dots for the current directory in front
of it. -/
def Denotes (pattern : String) (g : Glob) : Prop :=
  ∃ n rest, pattern.toList = (List.replicate n ['.', '/']).flatten ++ rest ∧ ¬ ['.', '/'] <+: rest ∧
    read (String.ofList rest) = .ok g

/-- Whether a pattern **matches** what is called by names on the way to it. -/
def Matches (pattern : String) (names : List String) : Prop :=
  ∃ g, Denotes pattern g ∧ g.accepts (Path.mk names).text = true

theorem trimHere_eq_self (h : ¬ ['.', '/'] <+: rest) : trimHere rest = rest := by
  unfold trimHere
  split
  · next l => exact absurd (List.prefix_append ['.', '/'] l) h
  · rfl

theorem trimHere_replicate (h : ¬ ['.', '/'] <+: rest) :
    trimHere ((List.replicate n ['.', '/']).flatten ++ rest) = rest := by
  induction n with
  | zero =>
    rw [List.replicate_zero, List.flatten_nil, List.nil_append]
    exact trimHere_eq_self h
  | succ n ih => rwa [List.replicate_succ, List.flatten_cons, List.append_assoc, List.cons_append, List.cons_append,
      List.nil_append, trimHere]

theorem exists_trimHere (l : List Char) : ∃ n, l = (List.replicate n ['.', '/']).flatten ++ trimHere l ∧
    ¬ ['.', '/'] <+: trimHere l := by
  induction l using trimHere.induct with
  | case1 rest ih =>
    obtain ⟨n, hl, hrest⟩ := ih
    rw [trimHere]
    exact ⟨n + 1, by rw [List.replicate_succ, List.flatten_cons, List.append_assoc, ← hl]; rfl, hrest⟩
  | case2 l h =>
    have hnot : ¬ ['.', '/'] <+: l := fun ⟨rest, hrest⟩ => h rest hrest.symm
    rw [trimHere_eq_self hnot]
    exact ⟨0, rfl, hnot⟩

theorem denotes_iff : Denotes pattern g ↔ ofPattern pattern = .ok g := by
  unfold ofPattern
  constructor
  · rintro ⟨n, rest, hpattern, hrest, hread⟩
    rwa [hpattern, trimHere_replicate hrest]
  · intro hread
    obtain ⟨n, hl, hrest⟩ := exists_trimHere pattern.toList
    exact ⟨n, _, hl, hrest, hread⟩

/-- If each pattern denotes a glob, the patterns **have globs**, and these match what the patterns match. -/
theorem exists_ofPatterns (h : ∀ pattern ∈ patterns, ∃ g, Denotes pattern g) :
    ∃ globs, ofPatterns patterns = .ok globs ∧ ∀ names,
      anyAccepts globs (Path.mk names).text = true ↔ ∃ pattern ∈ patterns, Matches pattern names := by
  have hread : ∀ pattern ∈ patterns, ∃ g, ofPattern pattern = .ok g := fun pattern hp =>
    (h pattern hp).imp fun _ => denotes_iff.mp
  choose! glob hglob using hread
  refine ⟨patterns.map glob, mapM_ok hglob, fun names => ?_⟩
  rw [anyAccepts, List.any_map, List.any_eq_true]
  refine exists_congr fun pattern => and_congr_right fun hp => ⟨fun ha => ?_, ?_⟩
  · exact ⟨_, denotes_iff.mpr (hglob pattern hp), ha⟩
  · rintro ⟨g, hg, ha⟩
    obtain rfl := Except.ok.inj ((denotes_iff.mp hg).symm.trans (hglob pattern hp))
    exact ha

/-- If some pattern denotes no glob, there is a **first one that is refused**. -/
theorem exists_firstRefused (h : ∃ pattern ∈ patterns, ¬∃ g, Denotes pattern g) :
    ∃ n e, FirstRefused ofPattern patterns n e := by
  obtain ⟨pattern, hp, hno⟩ := h
  exact SiteGen.exists_firstRefused ⟨pattern, hp, fun g hg => hno ⟨g, denotes_iff.mpr hg⟩⟩

end SiteGen.Glob
