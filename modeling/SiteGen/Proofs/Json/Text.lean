import SiteGen.Json.Reader
import SiteGen.Json.Writer

/-!
# Texts of JSON

* `Json.readString_writeString`: a text is read as it is written, whichever characters are escaped.
-/

namespace SiteGen.Json

/-! ## Escapes -/

theorem hexValue?_hexDigit {n : Nat} (h : n < 16) : hexValue? (hexDigit n) = some n := by
  revert n
  decide

theorem readUnit_unitEscape {unit : Nat} (h : unit < 0x10000) (rest : List Char) (o : Nat) :
    readUnit ⟨(unitEscape unit).drop 2 ++ rest, o⟩ = .ok (unit, ⟨rest, o + 4⟩) := by
  have hlt : ∀ n, n % 16 < 16 := fun n => Nat.mod_lt n (by decide)
  have hunit : ((unit / 4096 % 16 * 16 + unit / 256 % 16) * 16 + unit / 16 % 16) * 16 + unit % 16 = unit := by
    omega
  simp only [unitEscape, List.drop_succ_cons, List.drop_zero, List.cons_append, List.nil_append, readUnit,
    hexValue?_hexDigit (hlt _), hunit]

theorem unitEscape_eq (unit : Nat) : unitEscape unit = '\\' :: 'u' :: (unitEscape unit).drop 2 := rfl

theorem not_surrogate (c : Char) : c.toNat < 0xD800 ∨ 0xDFFF < c.toNat ∧ c.toNat < 0x110000 := c.valid

theorem charEscape_eq (c : Char) : charEscape c = '\\' :: (charEscape c).drop 1 := by
  unfold charEscape
  split <;> rfl

theorem readEscape_unit {unit : Nat} (h : unit < 0xD800 ∨ 0xDFFF < unit ∧ unit < 0x10000)
    (rest : List Char) (o : Nat) :
    ∃ o', readEscape ⟨'u' :: ((unitEscape unit).drop 2 ++ rest), o⟩ = .ok (Char.ofNat unit, ⟨rest, o'⟩) := by
  have hunit := readUnit_unitEscape (by omega : unit < 0x10000) rest (o + 'u'.utf8Size)
  simp only [readEscape, Input.after, Char.reduceEq, or_self, if_false, if_true, hunit, bind, Except.bind]
  rw [if_neg (by omega), if_neg (by omega)]
  exact ⟨_, rfl⟩

theorem readEscape_surrogates {n : Nat} (h : n < 0x100000) (rest : List Char) (o : Nat) :
    ∃ o', readEscape ⟨'u' :: ((unitEscape (0xD800 + n / 1024)).drop 2 ++
      (unitEscape (0xDC00 + n % 1024) ++ rest)), o⟩ = .ok (Char.ofNat (n + 0x10000), ⟨rest, o'⟩) := by
  have hhigh := readUnit_unitEscape (by omega : 0xD800 + n / 1024 < 0x10000)
    (unitEscape (0xDC00 + n % 1024) ++ rest) (o + 'u'.utf8Size)
  have hlow := readUnit_unitEscape (by omega : 0xDC00 + n % 1024 < 0x10000) rest
    (o + 'u'.utf8Size + 4 + '\\'.utf8Size + 'u'.utf8Size)
  have hnumber : (0xD800 + n / 1024 - 0xD800) * 1024 + (0xDC00 + n % 1024 - 0xDC00) + 0x10000 =
      n + 0x10000 := by
    omega
  simp only [readEscape, Input.after, Char.reduceEq, or_self, if_false, if_true, hhigh, bind, Except.bind]
  rw [if_neg (by omega), if_pos (by omega), unitEscape_eq (0xDC00 + n % 1024)]
  simp only [readLowSurrogate, List.cons_append, Input.after, ne_eq, not_true_eq_false, if_false, hlow,
    bind, Except.bind]
  rw [if_neg (by omega), hnumber]
  exact ⟨_, rfl⟩

theorem readEscape_charEscape (c : Char) (rest : List Char) (o : Nat) :
    ∃ o', readEscape ⟨(charEscape c).drop 1 ++ rest, o⟩ = .ok (c, ⟨rest, o'⟩) := by
  have hc := not_surrogate c
  unfold charEscape
  split
  · have h := readEscape_unit (by omega : c.toNat < 0xD800 ∨ 0xDFFF < c.toNat ∧ c.toNat < 0x10000) rest o
    rwa [Char.ofNat_toNat] at h
  · have h := readEscape_surrogates (n := c.toNat - 0x10000) (by omega) rest o
    rw [Nat.sub_add_cancel (by omega), Char.ofNat_toNat] at h
    dsimp only
    rw [unitEscape_eq (0xD800 + (c.toNat - 0x10000) / 1024)]
    simpa using h

theorem readChars_writeChar (a : Bool) (c : Char) (fuel : Nat) (acc t : List Char) (o : Nat) :
    ∃ o', readChars (fuel + 1) acc ⟨writeChar a c ++ t, o⟩ = readChars fuel (c :: acc) ⟨t, o'⟩ := by
  -- an escape is read as one character
  have hescape : ∀ e o', readEscape ⟨e ++ t, o + 1⟩ = .ok (c, ⟨t, o'⟩) →
      readChars (fuel + 1) acc ⟨'\\' :: e ++ t, o⟩ = readChars fuel (c :: acc) ⟨t, o'⟩ := by
    intro e o' h
    show (readEscape ⟨e ++ t, o + 1⟩).bind (fun r => readChars fuel (r.1 :: acc) r.2) = _
    rw [h]
    rfl
  have hchar : ∃ o', readChars (fuel + 1) acc ⟨charEscape c ++ t, o⟩ = readChars fuel (c :: acc) ⟨t, o'⟩ := by
    obtain ⟨o', h⟩ := readEscape_charEscape c t (o + 1)
    exact ⟨o', by rw [charEscape_eq]; exact hescape _ _ h⟩
  unfold writeChar
  split
  · next h => exact ⟨o + 1 + 1, hescape ['"'] _ (by rw [h]; rfl)⟩
  split
  · next h => exact ⟨o + 1 + 1, hescape ['\\'] _ (by rw [h]; rfl)⟩
  split
  · next h => exact ⟨o + 1 + 1, hescape ['b'] _ (by rw [h]; rfl)⟩
  split
  · next h => exact ⟨o + 1 + 1, hescape ['f'] _ (by rw [h]; rfl)⟩
  split
  · next h => exact ⟨o + 1 + 1, hescape ['n'] _ (by rw [h]; rfl)⟩
  split
  · next h => exact ⟨o + 1 + 1, hescape ['r'] _ (by rw [h]; rfl)⟩
  split
  · next h => exact ⟨o + 1 + 1, hescape ['t'] _ (by rw [h]; rfl)⟩
  split
  · next h =>
    have heq : unitEscape c.toNat = charEscape c := by
      rw [charEscape, if_pos (by omega)]
    rw [heq]
    exact hchar
  split
  · exact hchar
  · next hquote hslash _ _ _ _ _ hcontrol _ =>
    refine ⟨o + c.utf8Size, ?_⟩
    rw [List.cons_append, List.nil_append, readChars]
    simp only [hquote, hslash, hcontrol, if_false, Input.after]

/-! ## Texts -/

theorem readChars_flatMap (a : Bool) (rest : List Char) : ∀ (cs : List Char) (fuel : Nat)
    (acc : List Char) (o : Nat), cs.length < fuel →
    ∃ o', readChars fuel acc ⟨cs.flatMap (writeChar a) ++ '"' :: rest, o⟩ =
      .ok (cs.reverse ++ acc, ⟨rest, o'⟩)
  | [], fuel + 1, acc, o, _ => ⟨_, rfl⟩
  | c :: cs, fuel + 1, acc, o, h => by
    obtain ⟨o₁, h₁⟩ := readChars_writeChar a c fuel acc (cs.flatMap (writeChar a) ++ '"' :: rest) o
    obtain ⟨o₂, h₂⟩ := readChars_flatMap a rest cs fuel (c :: acc) o₁ (Nat.lt_of_succ_lt_succ h)
    refine ⟨o₂, ?_⟩
    rw [List.flatMap_cons, List.append_assoc, h₁, h₂]
    simp

theorem length_writeChar (a : Bool) (c : Char) : 1 ≤ (writeChar a c).length := by
  rw [Nat.one_le_iff_ne_zero, ne_eq, List.length_eq_zero_iff]
  unfold writeChar
  rw [charEscape_eq, unitEscape_eq]
  split
  · simp
  repeat' split
  all_goals simp

theorem length_le_flatMap (a : Bool) (cs : List Char) : cs.length ≤ (cs.flatMap (writeChar a)).length := by
  induction cs with
  | nil => exact Nat.le_refl 0
  | cons c cs ih =>
    have := length_writeChar a c
    rw [List.flatMap_cons, List.length_append, List.length_cons]
    omega

/-- **A text** is read as it is written. -/
theorem readString_writeString (a : Bool) (s : String) (rest : List Char) (o : Nat) :
    ∃ o', readString ⟨(writeString a s).drop 1 ++ rest, o⟩ = .ok (s, ⟨rest, o'⟩) := by
  have hlength := length_le_flatMap a s.toList
  have hrest : (writeString a s).drop 1 ++ rest = s.toList.flatMap (writeChar a) ++ '"' :: rest := by
    simp [writeString]
  rw [hrest]
  obtain ⟨o', h⟩ := readChars_flatMap a rest s.toList
    ((s.toList.flatMap (writeChar a) ++ '"' :: rest).length + 1) [] o (by rw [List.length_append]; omega)
  refine ⟨o', ?_⟩
  unfold readString
  rw [h]
  simp [bind, Except.bind, pure, Except.pure]

end SiteGen.Json
