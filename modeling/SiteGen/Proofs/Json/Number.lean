import SiteGen.Json.Reader
import SiteGen.Json.Writer
import SiteGen.Proofs.Decimal.Digits

/-!
# Numbers of JSON

* `Json.Onward`: a number that is read at the end of a text is read the same where it ends before something
  else; `Json.readNumber_onward`.
* `Json.readNumber_digits`: whole numbers are read as they are written.
* `Json.InWord`: the range of the whole numbers that are read; `Json.inWord_of_readNumber`.
-/

namespace SiteGen.Json

/-- Whether a number **ends** before a text. -/
def Stops (rest : List Char) : Prop :=
  ∀ c ∈ rest.head?, c.isDigit = false ∧ c ≠ '.' ∧ c ≠ 'e' ∧ c ≠ 'E'

theorem Stops.nil : Stops [] := by
  rintro c ⟨⟩

theorem Stops.cons {c : Char} {rest : List Char} (h : c.isDigit = false ∧ c ≠ '.' ∧ c ≠ 'e' ∧ c ≠ 'E') :
    Stops (c :: rest) := by
  intro d hd
  obtain rfl := Option.some.inj hd
  exact h

/-! ## Digits -/

section Digits

variable {t rest : List Char} {b : Nat}

theorem takeWhile_stop (h : Stops rest) : (t ++ rest).takeWhile Char.isDigit = t.takeWhile Char.isDigit := by
  induction t with
  | nil =>
    cases rest with
    | nil => rfl
    | cons c rest =>
      rw [List.nil_append, List.takeWhile_cons, (h c rfl).1]
      rfl
  | cons c t ih => simp only [List.cons_append, List.takeWhile_cons, ih]

theorem takeDigits_stop (h : Stops rest) (o o' : Nat) : takeDigits ⟨t ++ rest, o'⟩ =
    ((takeDigits ⟨t, o⟩).1, ⟨(takeDigits ⟨t, o⟩).2.rest ++ rest, o' + (takeDigits ⟨t, o⟩).1.length⟩) := by
  unfold takeDigits
  dsimp only
  rw [takeWhile_stop h, List.drop_append_of_le_length (List.takeWhile_prefix _).length_le]

theorem takeBounded_stop (h : Stops rest) (n : Nat) :
    takeBounded b n (t ++ rest) = takeBounded b n t := by
  induction t generalizing n with
  | nil =>
    cases rest with
    | nil => rfl
    | cons c rest => simp [takeBounded, (h c rfl).1]
  | cons c t ih => simp only [List.cons_append, takeBounded, ih]

theorem takeBounded_length (n : Nat) : (takeBounded b n t).2 ≤ t.length := by
  induction t generalizing n with
  | nil => simp [takeBounded]
  | cons c t ih =>
    unfold takeBounded
    split
    · exact Nat.succ_le_succ (ih _)
    · exact Nat.zero_le _

theorem takeBounded_le {n : Nat} (h : n ≤ b) : (takeBounded b n t).1 ≤ b := by
  induction t generalizing n with
  | nil => exact h
  | cons c t ih =>
    unfold takeBounded
    split
    · next hc => exact ih hc.2
    · exact h

end Digits

/-! ## Where a number ends -/

/-- Whether a number that is read at the end of a text is read the same **where it ends before something
else**. -/
def Onward (read : Input → Except Fault (JsonNumber × Input)) : Prop :=
  ∀ ⦃t o n r o₁⦄, read ⟨t, o⟩ = .ok (n, ⟨r, o₁⟩) → ∀ o' rest, Stops rest →
    ∃ o₂, read ⟨t ++ rest, o'⟩ = .ok (n, ⟨r ++ rest, o₂⟩)

theorem finishFloat_onward (negative : Bool) (significand : Nat) (exponent : Int) :
    Onward (finishFloat negative significand exponent) := by
  intro t o n r o₁ h o' rest _
  unfold finishFloat at h ⊢
  cases hx : assemble? significand exponent with
  | none => simp [hx, Input.failHere] at h
  | some x =>
    simp only [hx, Except.ok.injEq, Prod.mk.injEq, Input.mk.injEq] at h
    obtain ⟨rfl, rfl, rfl⟩ := h
    exact ⟨o', rfl⟩

/-- An exponent after its sign. -/
def readPower (negative : Bool) (significand : Nat) (start : Int) (down : Bool) (input : Input) :
    Except Fault (JsonNumber × Input) :=
  match input.rest with
  | [] => input.failHere .eofInValue
  | c :: _ =>
    if !c.isDigit then input.failAfter .invalidNumber
    else
      let (value, count) := takeBounded maxExponent 0 input.rest
      let input : Input := ⟨input.rest.drop count, input.offset + count⟩
      let exponent := if down then start - value else start + value
      match input.rest with
      | d :: rest =>
        if d.isDigit then
          if significand ≠ 0 ∧ !down then (input.after d rest).failHere .numberOutOfRange
          else .ok (signed negative 0.0, (takeDigits input).2)
        else finishFloat negative significand exponent input
      | [] => finishFloat negative significand exponent input

theorem readExponent_cons (negative : Bool) (significand : Nat) (start : Int) (c : Char) (t : List Char)
    (o : Nat) : readExponent negative significand start ⟨c :: t, o⟩ =
      if c = '+' then readPower negative significand start false ⟨t, o + 1⟩
      else if c = '-' then readPower negative significand start true ⟨t, o + 1⟩
      else readPower negative significand start false ⟨c :: t, o⟩ := by
  by_cases hplus : c = '+'
  · subst hplus
    rfl
  · by_cases hminus : c = '-'
    · subst hminus
      rfl
    · rw [if_neg hplus, if_neg hminus]
      unfold readExponent readPower
      split
      next down input heq =>
        split at heq
        · next h => exact absurd (List.cons.inj h).1 hplus
        · next h => exact absurd (List.cons.inj h).1 hminus
        · obtain ⟨rfl, rfl⟩ := Prod.mk.inj heq
          rfl

theorem readPower_onward (negative : Bool) (significand : Nat) (start : Int) (down : Bool) :
    Onward (readPower negative significand start down) := by
  intro t o n r o₁ h o' rest hrest
  unfold readPower at h ⊢
  cases t with
  | nil => simp [Input.failHere] at h
  | cons c t =>
    have hlength := takeBounded_length (t := c :: t) (b := maxExponent) 0
    have hstop := takeBounded_stop (t := c :: t) (b := maxExponent) hrest 0
    have hdrop : List.drop _ (c :: t ++ rest) = _ := List.drop_append_of_le_length hlength
    rw [List.cons_append] at hstop hdrop ⊢
    simp only [hstop, hdrop] at h ⊢
    split at h
    · simp [Input.failAfter] at h
    · next hc =>
      rw [if_neg hc]
      generalize List.drop _ _ = u at h ⊢
      cases u with
      | nil =>
        obtain ⟨o₂, h₂⟩ := finishFloat_onward _ _ _ h (o' + (takeBounded maxExponent 0 (c :: t)).2) rest hrest
        refine ⟨o₂, ?_⟩
        cases rest with
        | nil => exact h₂
        | cons d rest => simpa [(hrest d rfl).1] using h₂
      | cons d u =>
        simp only [List.cons_append] at h ⊢
        split at h
        · next hd =>
          rw [if_pos hd]
          split at h
          · simp [Input.failHere] at h
          · next hs =>
            rw [if_neg hs]
            simp only [Except.ok.injEq, Prod.mk.injEq] at h ⊢
            obtain ⟨rfl, h⟩ := h
            rw [← List.cons_append, takeDigits_stop hrest (o + (takeBounded maxExponent 0 (c :: t)).2), h]
            exact ⟨_, rfl, rfl⟩
        · next hd =>
          rw [if_neg hd]
          exact finishFloat_onward _ _ _ h _ rest hrest

theorem readExponent_onward (negative : Bool) (significand : Nat) (start : Int) :
    Onward (readExponent negative significand start) := by
  intro t o n r o₁ h o' rest hrest
  cases t with
  | nil => simp [readExponent, Input.failHere] at h
  | cons c t =>
    rw [readExponent_cons] at h
    rw [List.cons_append, readExponent_cons]
    split at h
    · next hc =>
      rw [if_pos hc]
      exact readPower_onward _ _ _ _ h _ rest hrest
    · next hplus =>
      rw [if_neg hplus]
      split at h
      · next hc =>
        rw [if_pos hc]
        exact readPower_onward _ _ _ _ h _ rest hrest
      · next hminus =>
        rw [if_neg hminus]
        exact readPower_onward _ _ _ _ h _ rest hrest

theorem readTail_onward (negative : Bool) (significand : Nat) (exponent : Int) :
    Onward (readTail negative significand exponent) := by
  intro t o n r o₁ h o' rest hrest
  unfold readTail at h ⊢
  cases t with
  | nil =>
    obtain ⟨o₂, h₂⟩ := finishFloat_onward _ _ _ h o' rest hrest
    refine ⟨o₂, ?_⟩
    cases rest with
    | nil => exact h₂
    | cons c rest => simpa [hrest c rfl] using h₂
  | cons c t =>
    simp only [List.cons_append] at h ⊢
    split at h
    · next hc =>
      rw [if_pos hc]
      exact readExponent_onward _ _ _ h _ rest hrest
    · next hc =>
      rw [if_neg hc]
      exact finishFloat_onward _ _ _ h _ rest hrest

/-- Reading a tail after more digits. -/
theorem readTail_takeDigits {negative : Bool} {significand : Nat} {exponent : Int} {t r : List Char}
    {o o₁ : Nat} {n : JsonNumber}
    (h : readTail negative significand exponent (takeDigits ⟨t, o⟩).2 = .ok (n, ⟨r, o₁⟩)) (o' : Nat)
    (rest : List Char) (hrest : Stops rest) :
    ∃ o₂, readTail negative significand exponent (takeDigits ⟨t ++ rest, o'⟩).2 = .ok (n, ⟨r ++ rest, o₂⟩) := by
  rw [takeDigits_stop hrest o]
  exact readTail_onward _ _ _ h _ rest hrest

theorem readFraction_onward (negative : Bool) (significand : Nat) (exponent : Int) :
    Onward (readFraction negative significand exponent) := by
  intro t o n r o₁ h o' rest hrest
  unfold readFraction at h ⊢
  have hlength := takeBounded_length (t := t) (b := maxWord) significand
  simp only [takeBounded_stop hrest, List.drop_append_of_le_length hlength] at h ⊢
  generalize hu : List.drop _ _ = u at h ⊢
  cases u with
  | nil =>
    simp only at h
    split at h
    · simp [Input.failHere] at h
    · next hcount =>
      obtain ⟨o₂, h₂⟩ :=
        readTail_onward _ _ _ h (o' + (takeBounded maxWord significand t).2) rest hrest
      refine ⟨o₂, ?_⟩
      cases rest with
      | nil => simpa [hcount] using h₂
      | cons c rest => simpa [(hrest c rfl).1, hcount] using h₂
  | cons c u =>
    simp only [List.cons_append] at h ⊢
    split at h
    · next hc =>
      rw [if_pos hc, ← List.cons_append]
      exact readTail_takeDigits h _ rest hrest
    · next hc =>
      rw [if_neg hc]
      split at h
      · simp [Input.failNext] at h
      · next hcount =>
        rw [if_neg hcount]
        exact readTail_onward _ _ _ h _ rest hrest

theorem readAfterDigits_onward (negative : Bool) (significand : Nat) :
    Onward (readAfterDigits negative significand) := by
  intro t o n r o₁ h o' rest hrest
  unfold readAfterDigits at h ⊢
  cases t with
  | nil =>
    simp only [Except.ok.injEq, Prod.mk.injEq, Input.mk.injEq] at h
    obtain ⟨rfl, rfl, rfl⟩ := h
    refine ⟨o', ?_⟩
    cases rest with
    | nil => rfl
    | cons c rest => simp [hrest c rfl]
  | cons c t =>
    simp only [List.cons_append] at h ⊢
    split at h
    · next hc =>
      rw [if_pos hc]
      exact readFraction_onward _ _ _ h _ rest hrest
    · next hc =>
      rw [if_neg hc]
      split at h
      · next he =>
        rw [if_pos he]
        exact readExponent_onward _ _ _ h _ rest hrest
      · next he =>
        rw [if_neg he]
        simp only [Except.ok.injEq, Prod.mk.injEq, Input.mk.injEq] at h
        obtain ⟨rfl, rfl, rfl⟩ := h
        exact ⟨o', rfl⟩

theorem readLong_onward (negative : Bool) (significand : Nat) : Onward (readLong negative significand) := by
  intro t o n r o₁ h o' rest hrest
  unfold readLong at h ⊢
  rw [takeDigits_stop hrest o]
  generalize takeDigits ⟨t, o⟩ = more at h ⊢
  obtain ⟨more, u, o₃⟩ := more
  cases u with
  | nil =>
    obtain ⟨o₂, h₂⟩ := readTail_onward _ _ _ h (o' + more.length) rest hrest
    refine ⟨o₂, ?_⟩
    cases rest with
    | nil => exact h₂
    | cons c rest => simpa [hrest c rfl] using h₂
  | cons c u =>
    simp only [List.cons_append] at h ⊢
    split at h
    · next hc =>
      rw [if_pos hc]
      exact readFraction_onward _ _ _ h _ rest hrest
    · next hc =>
      rw [if_neg hc]
      exact readTail_onward _ _ _ h _ rest hrest

/-- **A number** that is read at the end of a text is read the same where it ends before something else. -/
theorem readNumber_onward (negative : Bool) : Onward (readNumber negative) := by
  intro t o n r o₁ h o' rest hrest
  -- what comes after the digits that have been read
  have hafter : ∀ {u : List Char} {o o' : Nat} {f : Input → Except Fault (JsonNumber × Input)} {m : Nat},
      Onward f → (match (⟨u, o⟩ : Input).rest with
        | d :: _ => if d.isDigit = true then f ⟨u, o⟩ else readAfterDigits negative m ⟨u, o⟩
        | [] => readAfterDigits negative m ⟨u, o⟩) = .ok (n, ⟨r, o₁⟩) →
      ∃ o₂, (match (⟨u ++ rest, o'⟩ : Input).rest with
        | d :: _ => if d.isDigit = true then f ⟨u ++ rest, o'⟩ else readAfterDigits negative m ⟨u ++ rest, o'⟩
        | [] => readAfterDigits negative m ⟨u ++ rest, o'⟩) = .ok (n, ⟨r ++ rest, o₂⟩) := by
    intro u o o' f m hf h
    cases u with
    | nil =>
      obtain ⟨o₂, h₂⟩ := readAfterDigits_onward _ _ h o' rest hrest
      refine ⟨o₂, ?_⟩
      cases rest with
      | nil => exact h₂
      | cons c rest => simpa [(hrest c rfl).1] using h₂
    | cons c u =>
      simp only [List.cons_append] at h ⊢
      split at h
      · next hc =>
        rw [if_pos hc]
        exact hf h _ rest hrest
      · next hc =>
        rw [if_neg hc]
        exact readAfterDigits_onward _ _ h _ rest hrest
  unfold readNumber at h ⊢
  cases t with
  | nil => simp [Input.failHere] at h
  | cons c t =>
    have hlength := takeBounded_length (t := c :: t) (b := maxWord) 0
    have hstop := takeBounded_stop (t := c :: t) (b := maxWord) hrest 0
    have hdrop : List.drop _ (c :: t ++ rest) = _ := List.drop_append_of_le_length hlength
    rw [List.cons_append] at hstop hdrop ⊢
    simp only [hstop, hdrop] at h ⊢
    split at h
    · next hc =>
      rw [if_pos hc]
      refine hafter (f := fun input => input.failNext .invalidNumber) ?_ h
      intro t o n r o₁ h
      simp [Input.failNext] at h
    · next hc =>
      rw [if_neg hc]
      split at h
      · next hd =>
        rw [if_pos hd]
        exact hafter (readLong_onward _ _) h
      · simp [Input.failAfter] at h

/-! ## Whole numbers -/

/-- Whether a whole number is in the range of those that are **read as such**. -/
def InWord (n : Int) : Prop := -0x8000000000000000 ≤ n ∧ n ≤ maxWord

/-- Whether a number that is read is **a float** in any case. -/
def Floats (read : Input → Except Fault (JsonNumber × Input)) : Prop :=
  ∀ ⦃input n input'⦄, read input = .ok (.integer n, input') → False

theorem finishFloat_floats (negative : Bool) (significand : Nat) (exponent : Int) :
    Floats (finishFloat negative significand exponent) := by
  intro input n input' h
  unfold finishFloat at h
  split at h
  · simp [signed] at h
  · simp [Input.failHere] at h

theorem readPower_floats (negative : Bool) (significand : Nat) (start : Int) (down : Bool) :
    Floats (readPower negative significand start down) := by
  intro input n input' h
  unfold readPower at h
  split at h
  · simp [Input.failHere] at h
  · split at h
    · simp [Input.failAfter] at h
    · dsimp only at h
      split at h
      · split at h
        · split at h
          · simp [Input.failHere] at h
          · simp [signed] at h
        · exact finishFloat_floats _ _ _ h
      · exact finishFloat_floats _ _ _ h

theorem readExponent_floats (negative : Bool) (significand : Nat) (start : Int) :
    Floats (readExponent negative significand start) := by
  intro input n input' h
  obtain ⟨t, o⟩ := input
  cases t with
  | nil => simp [readExponent, Input.failHere] at h
  | cons c t =>
    rw [readExponent_cons] at h
    split at h
    · exact readPower_floats _ _ _ _ h
    · split at h <;> exact readPower_floats _ _ _ _ h

theorem readTail_floats (negative : Bool) (significand : Nat) (exponent : Int) :
    Floats (readTail negative significand exponent) := by
  intro input n input' h
  unfold readTail at h
  split at h
  · split at h
    · exact readExponent_floats _ _ _ h
    · exact finishFloat_floats _ _ _ h
  · exact finishFloat_floats _ _ _ h

theorem readFraction_floats (negative : Bool) (significand : Nat) (exponent : Int) :
    Floats (readFraction negative significand exponent) := by
  intro input n input' h
  unfold readFraction at h
  dsimp only at h
  split at h
  · split at h
    · exact readTail_floats _ _ _ h
    · split at h
      · simp [Input.failNext] at h
      · exact readTail_floats _ _ _ h
  · split at h
    · simp [Input.failHere] at h
    · exact readTail_floats _ _ _ h

theorem readLong_floats (negative : Bool) (significand : Nat) : Floats (readLong negative significand) := by
  intro input n input' h
  unfold readLong at h
  dsimp only at h
  split at h
  · split at h
    · exact readFraction_floats _ _ _ h
    · exact readTail_floats _ _ _ h
  · exact readTail_floats _ _ _ h

theorem inWord_whole {negative : Bool} {significand : Nat} {n : Int} (hs : significand ≤ maxWord)
    (h : readAfterDigits.whole negative significand = .integer n) : InWord n := by
  unfold readAfterDigits.whole at h
  unfold InWord
  unfold maxWord at *
  split at h
  · obtain rfl := JsonNumber.integer.inj h
    omega
  · split at h
    · simp [signed] at h
    · obtain rfl := JsonNumber.integer.inj h
      omega

theorem inWord_of_readAfterDigits {negative : Bool} {significand : Nat} {input input' : Input} {n : Int}
    (hs : significand ≤ maxWord)
    (h : readAfterDigits negative significand input = .ok (.integer n, input')) : InWord n := by
  unfold readAfterDigits at h
  split at h
  · split at h
    · exact (readFraction_floats _ _ _ h).elim
    · split at h
      · exact (readExponent_floats _ _ _ h).elim
      · exact inWord_whole hs (Prod.mk.inj (Except.ok.inj h)).1
  · exact inWord_whole hs (Prod.mk.inj (Except.ok.inj h)).1

/-- **Whole numbers that are read** are in the range. -/
theorem inWord_of_readNumber {negative : Bool} {input input' : Input} {n : Int}
    (h : readNumber negative input = .ok (.integer n, input')) : InWord n := by
  unfold readNumber at h
  split at h
  · simp [Input.failHere] at h
  · dsimp only at h
    have hvalue := takeBounded_le (t := input.rest) (Nat.zero_le maxWord)
    split at h
    · split at h
      · split at h
        · simp [Input.failNext] at h
        · exact inWord_of_readAfterDigits (Nat.zero_le _) h
      · exact inWord_of_readAfterDigits (Nat.zero_le _) h
    · split at h
      · split at h
        · split at h
          · exact (readLong_floats _ _ h).elim
          · exact inWord_of_readAfterDigits hvalue h
        · exact inWord_of_readAfterDigits hvalue h
      · simp [Input.failAfter] at h

theorem takeBounded_digits {b : Nat} {ds rest : List Char} (hds : ∀ c ∈ ds, c.isDigit = true)
    (hrest : Stops rest) {n : Nat} (h : Nat.ofDigitChars 10 ds n ≤ b) :
    takeBounded b n (ds ++ rest) = (Nat.ofDigitChars 10 ds n, ds.length) := by
  rw [takeBounded_stop hrest]
  induction ds generalizing n with
  | nil => simp [takeBounded]
  | cons c ds ih =>
    rw [Nat.ofDigitChars_cons, Nat.mul_comm] at h ⊢
    have hle : n * 10 + (c.toNat - '0'.toNat) ≤ b := by
      refine Nat.le_trans ?_ h
      rw [Nat.ofDigitChars_eq_ofDigitChars_zero]
      have hpos : 0 < 10 ^ ds.length := Nat.pow_pos (by decide)
      exact Nat.le_trans (Nat.le_mul_of_pos_left _ hpos) (Nat.le_add_right _ _)
    show (if c.isDigit ∧ n * 10 + (c.toNat - '0'.toNat) ≤ b then
      ((takeBounded b (n * 10 + (c.toNat - '0'.toNat)) ds).1,
        (takeBounded b (n * 10 + (c.toNat - '0'.toNat)) ds).2 + 1) else (n, 0)) = _
    rw [if_pos ⟨hds c List.mem_cons_self, hle⟩, ih (fun d hd => hds d (List.mem_cons_of_mem _ hd)) h]
    rfl

theorem readAfterDigits_stop {rest : List Char} (hrest : Stops rest) (negative : Bool) (n o : Nat) :
    readAfterDigits negative n ⟨rest, o⟩ = .ok (readAfterDigits.whole negative n, ⟨rest, o⟩) := by
  unfold readAfterDigits
  cases rest with
  | nil => rfl
  | cons c rest => simp [hrest c rfl]

/-- **The digits of a whole number** are read as the whole number. -/
theorem readNumber_digits {n : Nat} (hn : n ≤ maxWord) {rest : List Char} (hrest : Stops rest)
    (negative : Bool) (o : Nat) : ∃ o₂, readNumber negative ⟨Decimal.digits n ++ rest, o⟩ =
      .ok (readAfterDigits.whole negative n, ⟨rest, o₂⟩) := by
  rcases Decimal.digits_cases n with rfl | ⟨c, ds, hds, hc⟩
  · refine ⟨o + 1, ?_⟩
    have hafter := readAfterDigits_stop hrest negative 0 (o + 1)
    show (match rest with
      | d :: _ => if d.isDigit = true then (⟨rest, o + 1⟩ : Input).failNext .invalidNumber
        else readAfterDigits negative 0 ⟨rest, o + 1⟩
      | [] => readAfterDigits negative 0 ⟨rest, o + 1⟩) = _
    cases rest with
    | nil => exact hafter
    | cons d rest =>
      rw [← hafter]
      simp [(hrest d rfl).1]
  · have hdigit : c.isDigit = true := Decimal.isDigit_of_mem_digits (n := n) (by simp [hds])
    have hvalue : Nat.ofDigitChars 10 (Decimal.digits n) 0 = n := Nat.ofDigitChars_ten_toDigits
    have htake : takeBounded maxWord 0 (Decimal.digits n ++ rest) = _ :=
      takeBounded_digits (fun _ => Decimal.isDigit_of_mem_digits) hrest (by rw [hvalue]; exact hn)
    have hdrop : (Decimal.digits n ++ rest).drop (Decimal.digits n).length = rest := List.drop_left
    rw [hvalue] at htake
    refine ⟨o + (Decimal.digits n).length, ?_⟩
    have hafter := readAfterDigits_stop hrest negative n (o + (Decimal.digits n).length)
    rw [hds, List.cons_append] at htake hdrop ⊢
    unfold readNumber
    simp only [hc, hdigit, htake, hdrop, if_true, if_false]
    rw [← hds]
    cases rest with
    | nil => exact hafter
    | cons d rest =>
      rw [← hafter]
      simp [(hrest d rfl).1]

end SiteGen.Json
