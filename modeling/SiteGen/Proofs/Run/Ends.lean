import SiteGen.Proofs.Run.Result
import SiteGen.Proofs.Run.Steps

/-!
# How runs end

* `Run.Ends`: what holds when a run has ended without an error, given what holds at the start.
* `Run.Ends.bind`, `Run.Ends.forM`: runs that go on after one another.
* `Run.Succeeds`: a run that ends without an error, and the same for runs after one another.
* `Run.Keeps`: what holds throughout a run, whether or not it ends with an error.
-/

namespace SiteGen

namespace Run

open Disk

variable {α β : Type} {I I' : Disk → Prop} {x : Run α} {J J' : α → Disk → Prop}

/-- What holds when a run **ends** without an error: from disks with `I`, it gives results and leaves disks
with `J`. -/
def Ends (I : Disk → Prop) (x : Run α) (J : α → Disk → Prop) : Prop :=
  ∀ w a w', I w.disk → x.on w = (.ok a, w') → J a w'.disk

theorem on_of_toOption {w : World} {a : α} (h : (x.on w).1.toOption = some a) :
    x.on w = (.ok a, (x.on w).2) := Prod.ext (eq_ok_of_toOption h) rfl

theorem mem_of_step {l m rest : List β} {b : β} (h : [] ++ l = m ++ b :: rest) : b ∈ l := by
  rw [← List.nil_append l, h]
  exact List.mem_append_right _ List.mem_cons_self

theorem Confined.toEnds {S : Scope} (h : Confined S I x J) : Ends I x J := h.ends

namespace Ends

theorem imp (h : Ends I x J) (hI : ∀ d, I' d → I d) (hJ : ∀ a d, J a d → J' a d) : Ends I' x J' :=
  fun w a w' hw hx => hJ a _ (h w a w' (hI _ hw) hx)

theorem post (h : Ends I x J) (hJ : ∀ a d, J a d → J' a d) : Ends I x J' := h.imp (fun _ hd => hd) hJ

theorem of_pre {φ : Prop} (h : φ → Ends I x J) : Ends (fun d => I d ∧ φ) x J :=
  fun w a w' hw hx => h hw.2 w a w' hw.1 hx

theorem pure {a : α} (hJ : ∀ d, I d → J a d) : Ends I (Pure.pure a) J := fun w b w' hw hx => by
  obtain ⟨ha, rfl⟩ := Prod.mk.inj hx
  obtain rfl := Except.ok.inj ha
  exact hJ _ hw

theorem fail (e : Error) : Ends I (fail e : Run α) J := fun w b w' _ hx => by
  cases (Prod.mk.inj hx).1

theorem inspect (f : Disk → α) : Ends I (inspect f) fun a d => I d ∧ f d = a := fun w a w' hw hx => by
  obtain ⟨ha, rfl⟩ := Prod.mk.inj hx
  exact ⟨hw, Except.ok.inj ha⟩

theorem query (f : Disk → Except Fault α) : Ends I (Run.query f) fun a d => I d ∧ f d = .ok a := by
  intro w a w' hw hx
  rw [query_on] at hx
  obtain ⟨ha, rfl⟩ := Prod.mk.inj hx
  refine ⟨hw, ?_⟩
  cases h : f w.disk with
  | ok b =>
    rw [h] at ha
    exact congrArg Except.ok (Except.ok.inj ha)
  | error fault =>
    rw [h] at ha
    cases ha

theorem change {f : Disk → Except Fault Disk} {J : Disk → Prop}
    (h : ∀ d d', I d → f d = .ok d' → J d') : Ends I (Run.change f) fun _ d => J d := by
  intro w a w' hw hx
  cases hf : f w.disk with
  | ok d =>
    rw [change_on_ok hf] at hx
    rw [← (Prod.mk.inj hx).2]
    exact h _ _ hw hf
  | error fault =>
    rw [change_on_error hf] at hx
    cases (Prod.mk.inj hx).1

theorem tryChange {f : Disk → Disk × Option Fault} {J : Disk → Prop}
    (h : ∀ d, I d → (f d).2 = none → J (f d).1) : Ends I (Run.tryChange f) fun _ d => J d := by
  intro w a w' hw hx
  rw [tryChange_on] at hx
  obtain ⟨ha, rfl⟩ := Prod.mk.inj hx
  refine h _ hw ?_
  cases hf : (f w.disk).2 with
  | none => rfl
  | some fault =>
    rw [hf] at ha
    cases ha

theorem ofResult (r : Except Error α) : Ends I (ofResult r) fun a d => I d ∧ r = .ok a := by
  cases r with
  | ok a => exact pure fun d hd => ⟨hd, rfl⟩
  | error e => exact fail e

theorem warn (warning : Warning) : Ends I (warn warning) fun _ d => I d := fun w b w' hw hx => by
  rw [← (Prod.mk.inj hx).2]
  exact hw

/-- Runs **go on after one another**. -/
theorem bind (hx : Ends I x J) {f : α → Run β} {K : β → Disk → Prop}
    (hf : ∀ a, Ends (J a) (f a) K) : Ends I (x >>= f) K := by
  intro w b w'' hw hb
  obtain ⟨a, w', ha, hb⟩ := parts_of_ok hb
  exact hf a w' b w'' (hx w a w' hw ha) hb

theorem seq {I' : Disk → Prop} {x : Run α} (hx : Ends I x fun _ d => I' d) {f : α → Run β}
    {K : β → Disk → Prop} (hf : ∀ a, Ends I' (f a) K) : Ends I (x >>= f) K := hx.bind hf

theorem ite {c : Prop} [Decidable c] {x y : Run α} (hx : c → Ends I x J) (hy : ¬c → Ends I y J) :
    Ends I (if c then x else y) J := by
  split
  · next h => exact hx h
  · next h => exact hy h

/-- Doing a run **for each of a list**: `K` holds of what has been done. -/
theorem forM {f : β → Run PUnit} {K : List β → Disk → Prop} : ∀ {done l : List β},
    (∀ m b rest, done ++ l = m ++ b :: rest → Ends (K m) (f b) fun _ d => K (m ++ [b]) d) →
      Ends (K done) (l.forM f) fun _ d => K (done ++ l) d
  | done, [], _ => by
    rw [List.append_nil]
    exact pure fun _ hd => hd
  | done, b :: l, h => by
    refine (h done b l rfl).seq fun _ => ?_
    have hrest := @forM f K (done ++ [b]) l fun m c rest heq => h m c rest (by
      rw [← heq, List.append_assoc]
      rfl)
    rw [List.append_assoc] at hrest
    exact hrest

end Ends

/-- Whether a run **succeeds**: from disks with `I`, it ends without an error. -/
def Succeeds (I : Disk → Prop) (x : Run α) : Prop :=
  ∀ w, I w.disk → ∃ a w', x.on w = (.ok a, w')

namespace Succeeds

theorem pre (h : Succeeds I x) (hI : ∀ d, I' d → I d) : Succeeds I' x := fun w hw => h w (hI _ hw)

theorem pure (a : α) : Succeeds I (Pure.pure a) := fun w _ => ⟨a, w, rfl⟩

theorem inspect (f : Disk → α) : Succeeds I (inspect f) := fun w _ => ⟨f w.disk, w, rfl⟩

theorem query {f : Disk → Except Fault α} (h : ∀ d, I d → ∃ a, f d = .ok a) :
    Succeeds I (Run.query f) := fun w hw => by
  obtain ⟨a, ha⟩ := h _ hw
  exact ⟨a, w, by rw [query_on, ha]; rfl⟩

theorem change {f : Disk → Except Fault Disk} (h : ∀ d, I d → ∃ d', f d = .ok d') :
    Succeeds I (Run.change f) := fun w hw => by
  obtain ⟨d, hd⟩ := h _ hw
  exact ⟨(), _, change_on_ok hd⟩

theorem tryChange {f : Disk → Disk × Option Fault} (h : ∀ d, I d → (f d).2 = none) :
    Succeeds I (Run.tryChange f) := fun w hw => by
  rw [tryChange_on, h _ hw]
  exact ⟨(), _, rfl⟩

/-- A run **goes on** where another one has succeeded. -/
theorem bind (hx : Succeeds I x) (he : Ends I x J) {f : α → Run β}
    (hf : ∀ a, Succeeds (J a) (f a)) : Succeeds I (x >>= f) := fun w hw => by
  obtain ⟨a, w', hon⟩ := hx w hw
  rw [bind_of_ok hon]
  exact hf a w' (he w a w' hw hon)

theorem seq {I' : Disk → Prop} (hx : Succeeds I x) (he : Ends I x fun _ d => I' d) {f : α → Run β}
    (hf : ∀ a, Succeeds I' (f a)) : Succeeds I (x >>= f) := hx.bind he hf

theorem ite {c : Prop} [Decidable c] {x y : Run α} (hx : c → Succeeds I x)
    (hy : ¬c → Succeeds I y) : Succeeds I (if c then x else y) := by
  split
  · next h => exact hx h
  · next h => exact hy h

/-- Doing a run for each of a list succeeds if each of them does, with what has been done then. -/
theorem forM_upTo {f : β → Run PUnit} {K : List β → Disk → Prop} : ∀ {done l : List β},
    (∀ m b rest, done ++ l = m ++ b :: rest → Succeeds (K m) (f b)) →
    (∀ m b rest, done ++ l = m ++ b :: rest → Ends (K m) (f b) fun _ d => K (m ++ [b]) d) →
      Succeeds (K done) (l.forM f)
  | done, [], _, _ => pure _
  | done, b :: l, hf, he => by
    have happ : done ++ b :: l = done ++ [b] ++ l := by rw [List.append_assoc, List.singleton_append]
    refine (hf done b l rfl).seq (he done b l rfl) fun _ => forM_upTo ?_ ?_
    · exact fun m c rest heq => hf m c rest (happ.trans heq)
    · exact fun m c rest heq => he m c rest (happ.trans heq)

/-- Doing a run for each of a list succeeds if each of them does, from disks with `I`. -/
theorem forM {l : List β} {f : β → Run PUnit} (hf : ∀ b ∈ l, Succeeds I (f b))
    (he : ∀ b ∈ l, Ends I (f b) fun _ d => I d) : Succeeds I (l.forM f) := by
  exact @forM_upTo _ f (fun _ => I) [] l (fun _ b _ heq => hf b (mem_of_step heq)) fun _ b _ heq =>
    he b (mem_of_step heq)

end Succeeds

/-- Whether a run **keeps** what holds of the disk, also when it ends with an error. -/
def Keeps (I : Disk → Prop) (x : Run α) : Prop := ∀ w, I w.disk → I (x.on w).2.disk

namespace Keeps

theorem pure (a : α) : Keeps I (Pure.pure a) := fun _ hw => hw

theorem fail (e : Error) : Keeps I (fail e : Run α) := fun _ hw => hw

theorem inspect (f : Disk → α) : Keeps I (inspect f) := fun _ hw => hw

theorem query (f : Disk → Except Fault α) : Keeps I (Run.query f) := fun w hw => by
  rw [query_on]
  exact hw

theorem change {f : Disk → Except Fault Disk} (h : ∀ d d', I d → f d = .ok d' → I d') :
    Keeps I (Run.change f) := fun w hw => by
  cases hf : f w.disk with
  | ok d =>
    rw [change_on_ok hf]
    exact h _ _ hw hf
  | error fault =>
    rw [change_on_error hf]
    exact hw

/-- What runs keep **is kept** when they go on after one another. -/
theorem bind (hx : Keeps I x) {f : α → Run β} (hf : ∀ a, Keeps I (f a)) : Keeps I (x >>= f) := by
  intro w hw
  have hx' := hx w hw
  rcases h : x.on w with ⟨r, w'⟩
  rw [h] at hx'
  cases r with
  | ok a =>
    rw [bind_of_ok h]
    exact hf a w' hx'
  | error e =>
    rw [bind_of_error h]
    exact hx'

theorem ite {c : Prop} [Decidable c] {x y : Run α} (hx : c → Keeps I x) (hy : ¬c → Keeps I y) :
    Keeps I (if c then x else y) := by
  split
  · next h => exact hx h
  · next h => exact hy h

theorem forM {l : List β} {f : β → Run PUnit} (hf : ∀ b ∈ l, Keeps I (f b)) : Keeps I (l.forM f) := by
  induction l with
  | nil => exact pure _
  | cons b l ih =>
    exact (hf b List.mem_cons_self).bind fun _ => ih fun c hc => hf c (List.mem_cons_of_mem _ hc)

/-- What comes of a result is kept **if there is a result**. -/
theorem ofResult_bind {r : Except Error α} {f : α → Run β} (h : ∀ a, r = .ok a → Keeps I (f a)) :
    Keeps I (Run.ofResult r >>= f) := by
  cases r with
  | ok a => exact h a rfl
  | error e => exact fun _ hw => hw

theorem ends (h : Keeps I x) : Ends I x fun _ d => I d := fun w a w' hw hx => by
  have hkept := h w hw
  rwa [hx] at hkept

end Keeps

/-- What a confined run may not change **stays as it is**. -/
theorem Confined.keeps {S : Scope} (h : Confined S I x J) {R : Place → Prop}
    (hR : ∀ q, R q → ¬S.writes q ∧ ¬S.rewrites q) {d : Disk} :
    Ends (fun d' => I d' ∧ SameOn R d' d) x fun a d' => J a d' ∧ SameOn R d' d :=
  (h.frame fun _ _ _ hsame hwithin => (hwithin.sameOn hR).symm.trans hsame).ends

end Run

end SiteGen
