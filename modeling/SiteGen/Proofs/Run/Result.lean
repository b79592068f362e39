/-!
# Results

How a computation that may be refused has come to its result.

* `ok_of_bind`, `ok_of_map`, `ok_of_mapError`: the results of its parts.
* `eq_ok_of_toOption`, `ne_ok_of_toOption`: whether there is a result is known when it has been computed.
* `mapM_ok`, `mem_mapM_ok`: a list of steps comes to a result if each of them does.
* `FirstRefused`: the first step of a list that is refused; the list is refused as this step is.
-/

namespace SiteGen

variable {ε α β : Type}

/-- What comes before a result is a result. -/
theorem ok_of_bind {x : Except ε α} {f : α → Except ε β} {b : β} (h : x >>= f = .ok b) :
    ∃ a, x = .ok a ∧ f a = .ok b := by
  cases x with
  | error e => cases h
  | ok a => exact ⟨a, rfl, h⟩

theorem ok_of_map {x : Except ε α} {f : α → β} {b : β} (h : x.map f = .ok b) :
    ∃ a, x = .ok a ∧ f a = b := by
  cases x with
  | error e => cases h
  | ok a => exact ⟨a, rfl, Except.ok.inj h⟩

theorem ok_of_mapError {ε' : Type} {x : Except ε α} {f : ε → ε'} {a : α} (h : x.mapError f = .ok a) : x = .ok a := by
  cases x with
  | error e => cases h
  | ok b => rw [Except.ok.inj h]

/-- A result is known when it has been computed. -/
theorem eq_ok_of_toOption {x : Except ε α} {a : α} (h : x.toOption = some a) : x = .ok a := by
  cases x with
  | ok b => rw [Option.some.inj h]
  | error e => cases h

/-- Nor is there a result when none has been computed. -/
theorem ne_ok_of_toOption {x : Except ε α} (h : x.toOption.isSome = false) (a : α) : x ≠ .ok a := by
  rintro rfl
  cases h

/-! ## Lists of steps -/

variable {f : α → Except ε β} {l : List α}

/-- If each step comes to a result, **all of them do**. -/
theorem mapM_ok {g : α → β} (h : ∀ a ∈ l, f a = .ok (g a)) : l.mapM f = .ok (l.map g) := by
  induction l with
  | nil => rfl
  | cons a l ih =>
    rw [List.mapM_cons, h a List.mem_cons_self, ih fun b hb => h b (List.mem_cons_of_mem _ hb)]
    rfl

/-- Whether the **first step that is refused** has a position in a list, and a cause. -/
inductive FirstRefused (f : α → Except ε β) : List α → Nat → ε → Prop
  /-- The first step is refused. -/
  | here {a l e} (h : f a = .error e) : FirstRefused f (a :: l) 0 e
  /-- The first step comes to a result, and one of the others is refused. -/
  | there {a l b n e} (ha : f a = .ok b) (h : FirstRefused f l n e) : FirstRefused f (a :: l) (n + 1) e

/-- If some step is refused, there is **a first one**. -/
theorem exists_firstRefused (h : ∃ a ∈ l, ∀ b, f a ≠ .ok b) : ∃ n e, FirstRefused f l n e := by
  induction l with
  | nil => simp at h
  | cons a l ih =>
    cases ha : f a with
    | error e => exact ⟨0, e, .here ha⟩
    | ok b =>
      obtain ⟨a', ha', hno⟩ := h
      rcases List.mem_cons.mp ha' with rfl | ha'
      · exact absurd ha (hno b)
      · obtain ⟨n, e, hl⟩ := ih ⟨a', ha', hno⟩
        exact ⟨n + 1, e, .there ha hl⟩

namespace FirstRefused

variable {n : Nat} {e : ε}

theorem exists_mem (h : FirstRefused f l n e) : ∃ a ∈ l, f a = .error e := by
  induction h with
  | here h => exact ⟨_, List.mem_cons_self, h⟩
  | there _ _ ih => exact ih.imp fun _ ⟨hm, he⟩ => ⟨List.mem_cons_of_mem _ hm, he⟩

theorem append (h : FirstRefused f l n e) (m : List α) : FirstRefused f (l ++ m) n e := by
  induction h with
  | here h => exact .here h
  | there ha _ ih => exact .there ha ih

/-- A list of steps is refused **as the first step** is that is refused. -/
theorem mapM_eq (h : FirstRefused f l n e) : l.mapM f = .error e := by
  induction h with
  | here h => rw [List.mapM_cons, h]; rfl
  | there ha _ ih => rw [List.mapM_cons, ha, ih]; rfl

end FirstRefused

/-- What comes out of a list of steps comes out of **one of them**. -/
theorem mem_mapM_ok {l' : List β} (h : l.mapM f = .ok l') : ∀ b ∈ l', ∃ a ∈ l, f a = .ok b := by
  induction l generalizing l' with
  | nil =>
    obtain rfl := Except.ok.inj h
    simp
  | cons a l ih =>
    rw [List.mapM_cons] at h
    obtain ⟨b, hb, h⟩ := ok_of_bind h
    obtain ⟨rest, hl, h⟩ := ok_of_bind h
    obtain rfl := Except.ok.inj h
    intro c hc
    rcases List.mem_cons.mp hc with rfl | hc
    · exact ⟨a, List.mem_cons_self, hb⟩
    · obtain ⟨a', ha', hf⟩ := ih hl c hc
      exact ⟨a', List.mem_cons_of_mem _ ha', hf⟩

end SiteGen
