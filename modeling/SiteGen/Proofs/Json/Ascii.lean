import SiteGen.Proofs.Decimal.Digits
import SiteGen.Json.Writer

/-!
# Documents in ASCII

* `Json.ascii_writeString`: what a text is written with when all characters outside ASCII are escaped.
* `Json.ascii_write`: a document with escapes for all characters outside ASCII is in ASCII.
-/

namespace SiteGen.Json

/-! ## Texts -/

/-- Whether a text is in **ASCII**. -/
def Ascii (text : List Char) : Prop := ∀ c ∈ text, c.toNat < 0x80

theorem Ascii.append {l m : List Char} (hl : Ascii l) (hm : Ascii m) : Ascii (l ++ m) := by
  intro c hc
  rcases List.mem_append.mp hc with hc | hc
  · exact hl c hc
  · exact hm c hc

theorem Ascii.cons {c : Char} {l : List Char} (hc : c.toNat < 0x80) (hl : Ascii l) : Ascii (c :: l) := by
  intro d hd
  rcases List.mem_cons.mp hd with rfl | hd
  · exact hc
  · exact hl d hd

theorem ascii_nil : Ascii [] := by
  rintro c ⟨⟩

theorem ascii_of_all {l : List Char} (h : l.all (fun c => c.toNat < 0x80) = true) : Ascii l := fun c hc => by
  simpa using List.all_eq_true.mp h c hc

theorem ascii_unitEscape (unit : Nat) : Ascii (unitEscape unit) := by
  have hdigit : ∀ n, n < 16 → (hexDigit n).toNat < 0x80 := by decide
  have hlt : ∀ n, n % 16 < 16 := fun n => Nat.mod_lt n (by decide)
  intro c hc
  simp only [unitEscape, List.mem_cons, List.not_mem_nil, or_false] at hc
  rcases hc with rfl | rfl | rfl | rfl | rfl | rfl
  · decide
  · decide
  all_goals exact hdigit _ (hlt _)

theorem ascii_charEscape (c : Char) : Ascii (charEscape c) := by
  unfold charEscape
  split
  · exact ascii_unitEscape _
  · exact (ascii_unitEscape _).append (ascii_unitEscape _)

theorem ascii_writeChar (c : Char) : Ascii (writeChar true c) := by
  have hplain : ∀ e : Char, e.toNat < 0x80 → Ascii ['\\', e] := fun e he =>
    .cons (by decide) (.cons he ascii_nil)
  unfold writeChar
  split
  · exact hplain _ (by decide)
  split
  · exact hplain _ (by decide)
  split
  · exact hplain _ (by decide)
  split
  · exact hplain _ (by decide)
  split
  · exact hplain _ (by decide)
  split
  · exact hplain _ (by decide)
  split
  · exact hplain _ (by decide)
  split
  · exact ascii_unitEscape _
  split
  · exact ascii_charEscape c
  · next h =>
    intro d hd
    rw [List.mem_singleton.mp hd]
    simpa using h

/-- **A text with escapes** for all characters outside ASCII is in ASCII. -/
theorem ascii_writeString (s : String) : Ascii (writeString true s) := by
  intro c hc
  rw [writeString, List.mem_cons, List.mem_append, List.mem_singleton, List.mem_flatMap] at hc
  rcases hc with rfl | ⟨d, -, hd⟩ | rfl
  · decide
  · exact ascii_writeChar d c hd
  · decide

/-! ## Numbers -/

theorem ascii_of_isDigit {l : List Char} (h : ∀ c ∈ l, c.isDigit = true) : Ascii l := by
  intro c hc
  have := h c hc
  simp only [Char.isDigit, Bool.and_eq_true, decide_eq_true_eq] at this
  have hle : c.toNat ≤ 57 := UInt32.le_iff_toNat_le.mp this.2
  omega

theorem ascii_digits (n : Nat) : Ascii (Decimal.digits n) :=
  ascii_of_isDigit fun _ => Decimal.isDigit_of_mem_digits

theorem ascii_zeros (n : Nat) : Ascii (List.replicate n '0') :=
  ascii_of_isDigit fun c hc => by
    rw [List.eq_of_mem_replicate hc]
    rfl

theorem ascii_sign (negative : Bool) : Ascii (Decimal.sign negative) := by
  cases negative
  · exact ascii_nil
  · exact .cons (by decide) ascii_nil

theorem ascii_positional (n : Nat) (k : Int) : Ascii (Decimal.positional n k) := by
  have hdigits := ascii_digits n
  unfold Decimal.positional
  dsimp only
  split
  · exact hdigits.append (ascii_zeros _)
  split
  · refine Ascii.append (fun c hc => hdigits c (List.mem_of_mem_take hc)) (.cons (by decide) ?_)
    exact fun c hc => hdigits c (List.mem_of_mem_drop hc)
  · exact .cons (by decide) (.cons (by decide) ((ascii_zeros _).append hdigits))

theorem ascii_scientific (n : Nat) (k : Int) : Ascii (Decimal.scientific n k) := by
  have hdigits := ascii_digits n
  unfold Decimal.scientific
  dsimp only
  split
  · refine (ascii_positional n k).append ?_
    split
    · exact .cons (by decide) (.cons (by decide) ascii_nil)
    · exact ascii_nil
  · refine Ascii.append ?_ (.cons (by decide) (.cons (by split <;> decide) (ascii_digits _)))
    cases hds : Decimal.digits n with
    | nil => exact ascii_nil
    | cons d more =>
      rw [hds] at hdigits
      cases more with
      | nil => exact hdigits
      | cons e more =>
        exact .cons (hdigits d List.mem_cons_self) (.cons (by decide)
          fun c hc => hdigits c (List.mem_cons_of_mem _ hc))

theorem ascii_number (n : JsonNumber) : Ascii n.text := by
  cases n with
  | integer n => exact (ascii_sign _).append (ascii_digits _)
  | float x =>
    show Ascii (JsonNumber.floatText x)
    unfold JsonNumber.floatText
    split
    · exact (ascii_sign _).append (ascii_scientific _ _)
    · exact ascii_of_all (by decide)

/-! ## Documents -/

theorem ascii_lineBreak (layout : Layout) (level : Nat) : Ascii (layout.lineBreak level) := by
  unfold Layout.lineBreak
  split
  · exact ascii_nil
  · refine .cons (by decide) fun c hc => ?_
    rw [List.eq_of_mem_replicate hc]
    decide

theorem ascii_colon (layout : Layout) : Ascii layout.colon := by
  unfold Layout.colon
  split <;> exact ascii_of_all (by decide)

mutual

/-- **A document with escapes** for all characters outside ASCII is in ASCII. -/
theorem ascii_write (indent : Option Nat) (level : Nat) : ∀ v, Ascii (write ⟨indent, true⟩ level v)
  | .null => ascii_of_all rfl
  | .bool false => ascii_of_all rfl
  | .bool true => ascii_of_all rfl
  | .number n => ascii_number n
  | .string s => ascii_writeString s
  | .array [] => .cons (by decide) (.cons (by decide) ascii_nil)
  | .array (item :: items) =>
    .cons (by decide) ((ascii_lineBreak _ _).append ((ascii_write indent (level + 1) item).append
      ((ascii_writeItems indent (level + 1) items).append ((ascii_lineBreak _ _).append
      (.cons (by decide) ascii_nil)))))
  | .object [] => .cons (by decide) (.cons (by decide) ascii_nil)
  | .object ((key, value) :: members) =>
    .cons (by decide) ((ascii_lineBreak _ _).append ((ascii_writeString key).append ((ascii_colon _).append
      ((ascii_write indent (level + 1) value).append ((ascii_writeMembers indent (level + 1) members).append
      ((ascii_lineBreak _ _).append (.cons (by decide) ascii_nil)))))))

theorem ascii_writeItems (indent : Option Nat) (level : Nat) :
    ∀ items, Ascii (writeItems ⟨indent, true⟩ level items)
  | [] => ascii_nil
  | item :: items => .cons (by decide) ((ascii_lineBreak _ _).append ((ascii_write indent level item).append
      (ascii_writeItems indent level items)))

theorem ascii_writeMembers (indent : Option Nat) (level : Nat) :
    ∀ members, Ascii (writeMembers ⟨indent, true⟩ level members)
  | [] => ascii_nil
  | (key, value) :: members => .cons (by decide) ((ascii_lineBreak _ _).append ((ascii_writeString key).append
      ((ascii_colon _).append ((ascii_write indent level value).append (ascii_writeMembers indent level members)))))

end

theorem ascii_fixture (v : Json) : Ascii v.fixture.toList := by
  rw [fixture, String.toList_ofList]
  exact ascii_write _ _ _

end SiteGen.Json
