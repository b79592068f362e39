import SiteGen.Proofs.Disk.Visits
import SiteGen.Run

/-!
# Confined runs

A run is **confined** to a scope if it changes only certain places, and if what it does depends only
on certain places.

* `Disk.Within`: what changes from one disk to another.
* `Run.Scope`: the places that may be changed, rewritten and read.
* `Run.Confined`: a run within a scope, with what holds before and afterwards.
* `Run.Confined.bind`, `Run.Confined.forM`: confined runs go on after one another.
* `Run.Agrees`: a run that gives the same on two disks.
-/

namespace SiteGen

namespace Disk

/-- Whether a disk differs from another one only **within** bounds: anywhere at the places `W`, and in
the content of files at the places `V`. -/
structure Within (W V : Place → Prop) (d d' : Disk) : Prop where
  home : d'.home = d.home
  find? : ∀ q, d'.find? q = d.find? q ∨ W q ∨
    V q ∧ (d.find? q).any (·.isFile) = true ∧ (d'.find? q).any (·.isFile) = true

namespace Within

variable {W V W' V' : Place → Prop} {d d₁ d₂ d₃ : Disk}

theorem refl (W V : Place → Prop) (d : Disk) : Within W V d d := ⟨rfl, fun _ => Or.inl rfl⟩

theorem trans (h : Within W V d₁ d₂) (h' : Within W V d₂ d₃) : Within W V d₁ d₃ := by
  refine ⟨h'.home.trans h.home, fun q => ?_⟩
  rcases h.find? q with h₁ | hW | ⟨hV, hf₁, hf₂⟩
  · rcases h'.find? q with h₂ | hW | ⟨hV, hf₂, hf₃⟩
    · exact Or.inl (h₂.trans h₁)
    · exact Or.inr (Or.inl hW)
    · exact Or.inr (Or.inr ⟨hV, h₁ ▸ hf₂, hf₃⟩)
  · exact Or.inr (Or.inl hW)
  · rcases h'.find? q with h₂ | hW | ⟨-, -, hf₃⟩
    · exact Or.inr (Or.inr ⟨hV, hf₁, h₂ ▸ hf₂⟩)
    · exact Or.inr (Or.inl hW)
    · exact Or.inr (Or.inr ⟨hV, hf₁, hf₃⟩)

theorem mono (h : Within W V d₁ d₂) (hW : ∀ q, W q → W' q) (hV : ∀ q, V q → V' q) :
    Within W' V' d₁ d₂ :=
  ⟨h.home, fun q => (h.find? q).imp_right fun h' => h'.imp (hW q) fun ⟨h₁, h₂⟩ => ⟨hV q h₁, h₂⟩⟩

theorem sameOn (h : Within W V d₁ d₂) {R : Place → Prop} (hR : ∀ q, R q → ¬W q ∧ ¬V q) :
    SameOn R d₁ d₂ := by
  refine ⟨h.home.symm, fun q hq => ?_⟩
  rcases h.find? q with h' | hW | ⟨hV, -⟩
  · exact h'.symm
  · exact absurd hW (hR q hq).1
  · exact absurd hV (hR q hq).2

end Within

/-- Whether a path **stands** on a disk: it leads to a directory of a tree. -/
structure Stands (home : Place) (p : Path) (d : Disk) : Prop where
  tree : d.IsTree
  home_eq : d.home = home
  leads : d.Leads p

instance (home : Place) (p : Path) (d : Disk) : Decidable (Stands home p d) :=
  decidable_of_iff (d.IsTree ∧ d.home = home ∧ d.Leads p)
    ⟨fun h => ⟨h.1, h.2.1, h.2.2⟩, fun h => ⟨h.tree, h.home_eq, h.leads⟩⟩

/-- Whether all directories are still directories. -/
def DirsStay (d d' : Disk) : Prop := ∀ q, d.find? q = some .directory → d'.find? q = some .directory

namespace Stands

variable {home : Place} {p : Path} {d d' : Disk}

theorem place (h : Stands home p d) : d.find? (p.place home) = some .directory :=
  h.home_eq ▸ h.leads.place

theorem child (h : Stands home p d) {name : String} (hn : IsDiskName name)
    (hd : d.find? (p.place home ++ [name]) = some .directory) : Stands home (p.join ⟨[name]⟩) d := by
  obtain ⟨ht, rfl, hl⟩ := h
  exact ⟨ht, rfl, hl.child hn hd⟩

theorem of_dirsStay (h : Stands home p d) (ht : d'.IsTree) (hhome : d'.home = d.home)
    (hdirs : DirsStay d d') : Stands home p d' :=
  ⟨ht, hhome.trans h.home_eq, h.leads.noNull,
    fun q hq => hdirs q (h.leads.onTrail q (hhome ▸ hq))⟩

end Stands

end Disk

namespace Run

open Disk

variable {α β : Type}

/-! ## Single steps -/

theorem inspect_on (f : Disk → α) (w : World) : (inspect f).on w = (.ok (f w.disk), w) := rfl

theorem ofResult_on (r : Except Error α) (w : World) : (ofResult r).on w = (r, w) := by
  cases r <;> rfl

theorem query_on (f : Disk → Except Fault α) (w : World) :
    (query f).on w = ((f w.disk).mapError .disk, w) := by
  cases hf : f w.disk <;> simp only [query, on, hf] <;> rfl

theorem change_on_ok {f : Disk → Except Fault Disk} {w : World} {d : Disk} (h : f w.disk = .ok d) :
    (change f).on w = (.ok (), { w with disk := d }) := by
  simp only [change, on, h]

theorem change_on_error {f : Disk → Except Fault Disk} {w : World} {fault : Fault}
    (h : f w.disk = .error fault) : (change f).on w = (.error (.disk fault), w) := by
  simp only [change, on, h]

theorem tryChange_on (f : Disk → Disk × Option Fault) (w : World) :
    (tryChange f).on w =
      ((f w.disk).2.elim (.ok ()) fun fault => .error (.disk fault),
        { w with disk := (f w.disk).1 }) := by
  rcases hf : f w.disk with ⟨d, _ | fault⟩ <;> simp only [tryChange, on, hf] <;> rfl

/-! ## Runs that do the same -/

theorem bind_on_congr {x y : Run α} {f g : α → Run β} {w : World} (h : x.on w = y.on w)
    (hfg : ∀ a w', y.on w = (.ok a, w') → (f a).on w' = (g a).on w') :
    (x >>= f).on w = (y >>= g).on w := by
  rcases hy : y.on w with ⟨r, w'⟩
  have hx : x.on w = (r, w') := h.trans hy
  cases r with
  | ok a => rw [bind_of_ok hx, bind_of_ok hy, hfg a w' hy]
  | error e => rw [bind_of_error hx, bind_of_error hy]

theorem bind_on_eq {x : Run α} {f : α → Run β} {w w' : World} (h : x.on w = x.on w') :
    (x >>= f).on w = (x >>= f).on w' := by
  rcases hx : x.on w' with ⟨r, w''⟩
  cases r with
  | ok a => rw [bind_of_ok (h.trans hx), bind_of_ok hx]
  | error e => rw [bind_of_error (h.trans hx), bind_of_error hx]

theorem forM_on_congr {f g : β → Run PUnit} {K : Disk → Prop} {l : List β}
    (hfg : ∀ b ∈ l, ∀ w, K w.disk → (f b).on w = (g b).on w)
    (hK : ∀ b ∈ l, ∀ w w', K w.disk → (g b).on w = (.ok ⟨⟩, w') → K w'.disk) :
    ∀ w, K w.disk → (l.forM f).on w = (l.forM g).on w := by
  induction l with
  | nil => exact fun _ _ => rfl
  | cons b l ih =>
    intro w hw
    refine bind_on_congr (hfg b List.mem_cons_self w hw) fun _ w' hw' => ?_
    exact ih (fun c hc => hfg c (List.mem_cons_of_mem _ hc))
      (fun c hc => hK c (List.mem_cons_of_mem _ hc)) w' (hK b List.mem_cons_self w w' hw hw')

theorem forM_cons (b : β) (l : List β) (f : β → Run PUnit) : (b :: l).forM f = f b >>= fun _ => l.forM f := rfl

theorem forM_flatMap {γ : Type} (l : List β) (h : β → List γ) (f : γ → Run PUnit) :
    (l.flatMap h).forM f = l.forM fun b => (h b).forM f := by
  induction l with
  | nil => rfl
  | cons b l ih =>
    simp only [List.flatMap_cons, List.forM_eq_forM, List.forM_append, List.forM_cons] at ih ⊢
    rw [ih]

/-! ## Confined runs -/

/-- The **scope** of a run. -/
structure Scope where
  /-- The places that may be changed. -/
  writes : Place → Prop
  /-- The places of files that may be overwritten. -/
  rewrites : Place → Prop
  /-- The places that may be read. -/
  reads : Place → Prop
  /-- Whether all that is read is among the places that may be read. -/
  blind : Prop

/-- Whether a run from disks with `I` is **confined** to a scope. It changes nothing out of scope, `J`
holds of what it gives and of the disk then, and from two disks that are the same in scope it gives
the same and leaves the same in scope. -/
structure Confined (S : Scope) (I : Disk → Prop) (x : Run α) (J : α → Disk → Prop) : Prop where
  within : ∀ w, I w.disk → Within S.writes S.rewrites w.disk (x.on w).2.disk
  ends : ∀ w a w', I w.disk → x.on w = (.ok a, w') → J a w'.disk
  same : S.blind → ∀ w₁ w₂, I w₁.disk → I w₂.disk → SameOn S.reads w₁.disk w₂.disk →
    (x.on w₁).1 = (x.on w₂).1 ∧
      ∀ a, (x.on w₁).1 = .ok a → SameOn S.reads (x.on w₁).2.disk (x.on w₂).2.disk

namespace Confined

variable {S : Scope} {I I' : Disk → Prop} {x : Run α} {J J' : α → Disk → Prop}

theorem imp (h : Confined S I x J) (hI : ∀ d, I' d → I d) (hJ : ∀ a d, J a d → J' a d) :
    Confined S I' x J' where
  within w hw := h.within w (hI _ hw)
  ends w a w' hw hx := hJ a _ (h.ends w a w' (hI _ hw) hx)
  same hb w₁ w₂ h₁ h₂ hS := h.same hb w₁ w₂ (hI _ h₁) (hI _ h₂) hS

theorem post (h : Confined S I x J) (hJ : ∀ a d, J a d → J' a d) : Confined S I x J' :=
  h.imp (fun _ hd => hd) hJ

theorem pre (h : Confined S I x J) (hI : ∀ d, I' d → I d) : Confined S I' x J :=
  h.imp hI fun _ _ hd => hd

theorem of_pre {φ : Prop} (h : φ → Confined S I x J) : Confined S (fun d => I d ∧ φ) x J where
  within w hw := (h hw.2).within w hw.1
  ends w a w' hw hx := (h hw.2).ends w a w' hw.1 hx
  same hb w₁ w₂ h₁ h₂ hS := (h h₁.2).same hb w₁ w₂ h₁.1 h₂.1 hS

theorem of_not (h : ∀ d, ¬I d) : Confined S I x J where
  within _ hw := absurd hw (h _)
  ends _ _ _ hw _ := absurd hw (h _)
  same _ _ _ hw _ _ := absurd hw (h _)

theorem pure {a : α} (hJ : ∀ d, I d → J a d) : Confined S I (Pure.pure a) J where
  within w _ := Within.refl _ _ _
  ends w b w' hw hx := by
    obtain ⟨ha, rfl⟩ := Prod.mk.inj hx
    obtain rfl := Except.ok.inj ha
    exact hJ _ hw
  same _ _ _ _ _ hS := ⟨rfl, fun _ _ => hS⟩

theorem fail (e : Error) : Confined S I (fail e : Run α) J where
  within w _ := Within.refl _ _ _
  ends w b w' _ hx := by cases (Prod.mk.inj hx).1
  same _ _ _ _ _ _ := ⟨rfl, fun _ h => by cases h⟩

theorem inspect {f : Disk → α}
    (hf : S.blind → ∀ d₁ d₂, I d₁ → I d₂ → SameOn S.reads d₁ d₂ → f d₁ = f d₂) :
    Confined S I (inspect f) fun a d => I d ∧ f d = a where
  within w _ := Within.refl _ _ _
  ends w b w' hw hx := by
    obtain ⟨ha, rfl⟩ := Prod.mk.inj hx
    exact ⟨hw, Except.ok.inj ha⟩
  same hb w₁ w₂ h₁ h₂ hS := ⟨congrArg Except.ok (hf hb _ _ h₁ h₂ hS), fun _ _ => hS⟩

theorem query {f : Disk → Except Fault α}
    (hf : S.blind → ∀ d₁ d₂, I d₁ → I d₂ → SameOn S.reads d₁ d₂ → f d₁ = f d₂) :
    Confined S I (Run.query f) fun a d => I d ∧ f d = .ok a where
  within w _ := by
    rw [query_on]
    exact Within.refl _ _ _
  ends w a w' hw hx := by
    rw [query_on] at hx
    obtain ⟨ha, rfl⟩ := Prod.mk.inj hx
    refine ⟨hw, ?_⟩
    cases h : f w.disk with
    | ok b =>
      rw [h] at ha
      exact congrArg Except.ok (Except.ok.inj ha)
    | error fault =>
      rw [h] at ha
      cases ha
  same hb w₁ w₂ h₁ h₂ hS := by
    rw [query_on, query_on, hf hb _ _ h₁ h₂ hS]
    exact ⟨rfl, fun _ _ => hS⟩

theorem change {f : Disk → Except Fault Disk} {J : Disk → Prop}
    (hf : ∀ d d', I d → f d = .ok d' → Within S.writes S.rewrites d d' ∧ J d')
    (hsame : S.blind → ∀ d₁ d₂, I d₁ → I d₂ → SameOn S.reads d₁ d₂ → Alike S.reads (f d₁) (f d₂)) :
    Confined S I (Run.change f) fun _ d => J d where
  within w hw := by
    cases h : f w.disk with
    | ok d =>
      rw [change_on_ok h]
      exact (hf _ _ hw h).1
    | error fault =>
      rw [change_on_error h]
      exact Within.refl _ _ _
  ends w a w' hw hx := by
    cases h : f w.disk with
    | ok d =>
      rw [change_on_ok h] at hx
      rw [← (Prod.mk.inj hx).2]
      exact (hf _ _ hw h).2
    | error fault =>
      rw [change_on_error h] at hx
      cases (Prod.mk.inj hx).1
  same hb w₁ w₂ h₁ h₂ hS := by
    have halike := hsame hb _ _ h₁ h₂ hS
    cases hf₁ : f w₁.disk with
    | ok d₁ =>
      cases hf₂ : f w₂.disk with
      | ok d₂ =>
        rw [hf₁, hf₂] at halike
        rw [change_on_ok hf₁, change_on_ok hf₂]
        exact ⟨rfl, fun _ _ => halike⟩
      | error fault =>
        rw [hf₁, hf₂] at halike
        exact halike.elim
    | error fault =>
      cases hf₂ : f w₂.disk with
      | ok d₂ =>
        rw [hf₁, hf₂] at halike
        exact halike.elim
      | error fault' =>
        rw [hf₁, hf₂] at halike
        rw [change_on_error hf₁, change_on_error hf₂]
        exact ⟨congrArg (Except.error <| Error.disk ·) halike, fun _ h => by cases h⟩

theorem tryChange {f : Disk → Disk × Option Fault} {J : Disk → Prop}
    (hf : ∀ d, I d → Within S.writes S.rewrites d (f d).1 ∧ ((f d).2 = none → J (f d).1))
    (hsame : S.blind → ∀ d₁ d₂, I d₁ → I d₂ → SameOn S.reads d₁ d₂ →
      (f d₁).2 = (f d₂).2 ∧ SameOn S.reads (f d₁).1 (f d₂).1) :
    Confined S I (Run.tryChange f) fun _ d => J d where
  within w hw := by
    rw [tryChange_on]
    exact (hf _ hw).1
  ends w a w' hw hx := by
    rw [tryChange_on] at hx
    obtain ⟨ha, rfl⟩ := Prod.mk.inj hx
    refine (hf _ hw).2 ?_
    cases h : (f w.disk).2 with
    | none => rfl
    | some fault =>
      rw [h] at ha
      cases ha
  same hb w₁ w₂ h₁ h₂ hS := by
    obtain ⟨hfault, hdisk⟩ := hsame hb _ _ h₁ h₂ hS
    rw [tryChange_on, tryChange_on, hfault]
    exact ⟨rfl, fun _ _ => hdisk⟩

theorem ofResult (r : Except Error α) : Confined S I (ofResult r) fun a d => I d ∧ r = .ok a := by
  cases r with
  | ok a => exact pure fun d hd => ⟨hd, rfl⟩
  | error e => exact fail e

theorem warn (warning : Warning) : Confined S I (warn warning) fun _ d => I d where
  within w _ := Within.refl _ _ _
  ends w b w' hw hx := by
    rw [← (Prod.mk.inj hx).2]
    exact hw
  same _ _ _ _ _ hS := ⟨rfl, fun _ _ => hS⟩

/-- Confined runs **go on after one another**. -/
theorem bind (hx : Confined S I x J) {f : α → Run β} {K : β → Disk → Prop}
    (hf : ∀ a, Confined S (J a) (f a) K) : Confined S I (x >>= f) K where
  within w hw := by
    rcases h : x.on w with ⟨r, w'⟩
    have hwithin := hx.within w hw
    rw [h] at hwithin
    cases r with
    | ok a =>
      rw [bind_of_ok h]
      exact hwithin.trans ((hf a).within w' (hx.ends w a w' hw h))
    | error e =>
      rw [bind_of_error h]
      exact hwithin
  ends w b w'' hw hb := by
    obtain ⟨a, w', ha, hb⟩ := parts_of_ok hb
    exact (hf a).ends w' b w'' (hx.ends w a w' hw ha) hb
  same hb w₁ w₂ h₁ h₂ hS := by
    obtain ⟨hr, hd⟩ := hx.same hb w₁ w₂ h₁ h₂ hS
    rcases hx₁ : x.on w₁ with ⟨r₁, w₁'⟩
    rcases hx₂ : x.on w₂ with ⟨r₂, w₂'⟩
    rw [hx₁, hx₂] at hr hd
    obtain rfl : r₁ = r₂ := hr
    cases r₁ with
    | ok a =>
      rw [bind_of_ok hx₁, bind_of_ok hx₂]
      exact (hf a).same hb w₁' w₂' (hx.ends w₁ a w₁' h₁ hx₁) (hx.ends w₂ a w₂' h₂ hx₂) (hd a rfl)
    | error e =>
      rw [bind_of_error hx₁, bind_of_error hx₂]
      exact ⟨rfl, fun _ h => by cases h⟩

theorem seq {I' : Disk → Prop} {x : Run α} (hx : Confined S I x fun _ d => I' d) {f : α → Run β}
    {K : β → Disk → Prop} (hf : ∀ a, Confined S I' (f a) K) : Confined S I (x >>= f) K :=
  hx.bind hf

theorem ite {c : Prop} [Decidable c] {x y : Run α} (hx : c → Confined S I x J)
    (hy : ¬c → Confined S I y J) : Confined S I (if c then x else y) J := by
  split
  · next h => exact hx h
  · next h => exact hy h

theorem enlarge {W V : Place → Prop} (h : Confined { S with writes := W, rewrites := V } I x J)
    (hW : ∀ q, W q → S.writes q) (hV : ∀ q, V q → S.rewrites q) : Confined S I x J where
  within w hw := (h.within w hw).mono hW hV
  ends := h.ends
  same := h.same

/-- What does not depend on the places that are changed **still holds** afterwards. -/
theorem frame (h : Confined S I x J) {K : Disk → Prop}
    (hK : ∀ d d', I d → K d → Within S.writes S.rewrites d d' → K d') :
    Confined S (fun d => I d ∧ K d) x fun a d => J a d ∧ K d where
  within w hw := h.within w hw.1
  ends w a w' hw hx := by
    have hwithin := h.within w hw.1
    rw [hx] at hwithin
    exact ⟨h.ends w a w' hw.1 hx, hK _ _ hw.1 hw.2 hwithin⟩
  same hb w₁ w₂ h₁ h₂ hS := h.same hb w₁ w₂ h₁.1 h₂.1 hS

/-- Doing a confined run for each of a list. -/
theorem forM {l : List β} {f : β → Run PUnit} {I : Disk → Prop}
    (hf : ∀ b ∈ l, Confined S I (f b) fun _ d => I d) : Confined S I (l.forM f) fun _ d => I d := by
  induction l with
  | nil => exact pure fun _ hd => hd
  | cons b l ih =>
    exact (hf b List.mem_cons_self).seq fun _ => ih fun c hc => hf c (List.mem_cons_of_mem _ hc)

end Confined

/-! ## Two runs -/

/-- Whether a run **agrees with itself** on two disks with `P`: it gives the same, and if that is not an
error, `Q` holds of it and of the disks then. -/
def Agrees (P : Disk → Disk → Prop) (x : Run α) (Q : α → Disk → Disk → Prop) : Prop :=
  ∀ w₁ w₂ : World, P w₁.disk w₂.disk → (x.on w₁).1 = (x.on w₂).1 ∧
    ∀ a, (x.on w₁).1 = .ok a → Q a (x.on w₁).2.disk (x.on w₂).2.disk

namespace Agrees

variable {P P' : Disk → Disk → Prop} {x : Run α} {Q Q' : α → Disk → Disk → Prop}

theorem imp (h : Agrees P x Q) (hP : ∀ d₁ d₂, P' d₁ d₂ → P d₁ d₂)
    (hQ : ∀ a d₁ d₂, Q a d₁ d₂ → Q' a d₁ d₂) : Agrees P' x Q' := fun w₁ w₂ hw =>
  ⟨(h w₁ w₂ (hP _ _ hw)).1, fun a ha => hQ a _ _ ((h w₁ w₂ (hP _ _ hw)).2 a ha)⟩

theorem of_pre {φ : Prop} (h : φ → Agrees P x Q) : Agrees (fun d₁ d₂ => P d₁ d₂ ∧ φ) x Q :=
  fun w₁ w₂ hw => h hw.2 w₁ w₂ hw.1

theorem pure {a : α} (hQ : ∀ d₁ d₂, P d₁ d₂ → Q a d₁ d₂) : Agrees P (Pure.pure a) Q :=
  fun w₁ w₂ hw => ⟨rfl, fun b hb => by
    obtain rfl := Except.ok.inj hb
    exact hQ _ _ hw⟩

theorem warn (warning : Warning) : Agrees P (Run.warn warning) fun _ d₁ d₂ => P d₁ d₂ :=
  fun _ _ hw => ⟨rfl, fun _ _ => hw⟩

/-- Runs that agree with themselves **go on after one another**. -/
theorem bind (hx : Agrees P x Q) {f : α → Run β} {T : β → Disk → Disk → Prop}
    (hf : ∀ a, Agrees (Q a) (f a) T) : Agrees P (x >>= f) T := by
  intro w₁ w₂ hw
  obtain ⟨hr, hd⟩ := hx w₁ w₂ hw
  rcases hx₁ : x.on w₁ with ⟨r₁, w₁'⟩
  rcases hx₂ : x.on w₂ with ⟨r₂, w₂'⟩
  rw [hx₁, hx₂] at hr hd
  obtain rfl : r₁ = r₂ := hr
  cases r₁ with
  | ok a =>
    rw [bind_of_ok hx₁, bind_of_ok hx₂]
    exact hf a w₁' w₂' (hd a rfl)
  | error e =>
    rw [bind_of_error hx₁, bind_of_error hx₂]
    exact ⟨rfl, fun _ h => by cases h⟩

end Agrees

theorem Agrees.ends {S : Scope} {P : Disk → Disk → Prop} {I : Disk → Prop} {x : Run α}
    {Q : α → Disk → Disk → Prop} {J : α → Disk → Prop} (h : Agrees P x Q) (hx : Confined S I x J)
    (hP : ∀ d₁ d₂, P d₁ d₂ → I d₁ ∧ I d₂) :
    Agrees P x fun a d₁ d₂ => Q a d₁ d₂ ∧ J a d₁ ∧ J a d₂ := by
  intro w₁ w₂ hw
  obtain ⟨hr, hd⟩ := h w₁ w₂ hw
  obtain ⟨h₁, h₂⟩ := hP _ _ hw
  exact ⟨hr, fun a ha => ⟨hd a ha, hx.ends w₁ a _ h₁ (Prod.ext ha rfl),
    hx.ends w₂ a _ h₂ (Prod.ext (hr ▸ ha) rfl)⟩⟩

/-- A run confined to a scope **agrees with itself** on disks that are the same in scope. -/
theorem Confined.agrees {S : Scope} {I : Disk → Prop} {x : Run α} {J : α → Disk → Prop}
    (h : Confined S I x J) (hb : S.blind) :
    Agrees (fun d₁ d₂ => I d₁ ∧ I d₂ ∧ SameOn S.reads d₁ d₂) x
      fun a d₁ d₂ => SameOn S.reads d₁ d₂ ∧ J a d₁ ∧ J a d₂ := by
  have hsame : Agrees (fun d₁ d₂ => I d₁ ∧ I d₂ ∧ SameOn S.reads d₁ d₂) x
      fun _ d₁ d₂ => SameOn S.reads d₁ d₂ := fun w₁ w₂ hw => h.same hb w₁ w₂ hw.1 hw.2.1 hw.2.2
  exact hsame.ends h fun _ _ hd => ⟨hd.1, hd.2.1⟩

end Run

end SiteGen
