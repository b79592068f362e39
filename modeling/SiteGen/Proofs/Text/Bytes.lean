/-!
# The bytes of a text

A byte of ASCII is never a part of a longer character, so that a text can be cut at it as its bytes are.

* `bytes`: the bytes in which characters are stored.
* `bytes_injective`: they determine the characters.
* `bytes_eq_append_cons`, `exists_of_bytes`: where bytes of ASCII stand, their characters stand.
-/

namespace SiteGen

/-- The **bytes** of a text. -/
def bytes (text : List Char) : List UInt8 := text.flatMap String.utf8EncodeChar

variable {text t : List Char} {l r : List UInt8} {b : UInt8} {c : Char}

@[simp] theorem bytes_nil : bytes [] = [] := rfl

@[simp] theorem bytes_append (text t : List Char) : bytes (text ++ t) = bytes text ++ bytes t := List.flatMap_append

theorem bytes_cons (c : Char) (text : List Char) : bytes (c :: text) = String.utf8EncodeChar c ++ bytes text := rfl

theorem toList_loop (a : ByteArray) (i : Nat) (listed : List UInt8) :
    ByteArray.toList.loop a i listed = listed.reverse ++ a.data.toList.drop i := by
  fun_induction ByteArray.toList.loop a i listed with
  | case1 i listed hi ih =>
    have hlt : i < a.data.toList.length := hi
    rw [ih, List.drop_eq_getElem_cons hlt, List.reverse_cons, List.append_assoc]
    simp [ByteArray.get!, hi]
  | case2 i listed hi =>
    have hle : a.data.toList.length ≤ i := Nat.le_of_not_lt hi
    rw [List.drop_eq_nil_of_le hle, List.append_nil]

theorem toUTF8_toList (s : String) : s.toUTF8.toList = bytes s.toList := by
  obtain ⟨l, rfl⟩ : ∃ l, s = String.ofList l := ⟨s.toList, String.ofList_toList.symm⟩
  rw [String.toList_ofList, ByteArray.toList, toList_loop]
  exact List.toList_data_toByteArray

/-- The bytes **determine** the text. -/
theorem bytes_injective (h : bytes text = bytes t) : text = t := by
  have hstring : String.ofList text = String.ofList t := by
    rw [← String.toByteArray_inj]
    show (bytes text).toByteArray = (bytes t).toByteArray
    rw [h]
  rw [← String.toList_ofList (l := text), hstring, String.toList_ofList]

theorem eq_of_mem_utf8EncodeChar (h : b ∈ String.utf8EncodeChar c) (hb : b.toNat < 128) :
    String.utf8EncodeChar c = [b] := by
  have hhigh : ∀ n, b = UInt8.ofNat n → 128 ≤ n % 256 → False := fun n hn hle => by
    rw [hn, UInt8.toNat_ofNat'] at hb
    omega
  unfold String.utf8EncodeChar at h ⊢
  dsimp only at h ⊢
  split at h
  · next hc =>
    rw [if_pos hc, List.mem_singleton.mp h]
  · -- all bytes of the other characters have their highest bit set
    exfalso
    split at h
    · simp only [List.mem_cons, List.not_mem_nil, or_false] at h
      rcases h with h | h <;> exact hhigh _ h (by omega)
    · split at h
      · simp only [List.mem_cons, List.not_mem_nil, or_false] at h
        rcases h with h | h | h <;> exact hhigh _ h (by omega)
      · simp only [List.mem_cons, List.not_mem_nil, or_false] at h
        rcases h with h | h | h | h <;> exact hhigh _ h (by omega)

/-- At **a byte of ASCII**, the text is cut as its bytes are. -/
theorem bytes_eq_append_cons (h : bytes text = l ++ b :: r) (hb : b.toNat < 128) :
    ∃ m c m', text = m ++ c :: m' ∧ bytes m = l ∧ String.utf8EncodeChar c = [b] ∧ bytes m' = r := by
  induction text generalizing l with
  | nil => simp [bytes] at h
  | cons c text ih =>
    rw [bytes_cons] at h
    rcases List.append_eq_append_iff.mp h with ⟨k, rfl, hrest⟩ | ⟨k, hc, hrest⟩
    · obtain ⟨m, d, m', rfl, hm, hd, hm'⟩ := ih hrest
      exact ⟨c :: m, d, m', rfl, by rw [bytes_cons, hm], hd, hm'⟩
    · cases k with
      | nil =>
        rw [List.append_nil] at hc
        obtain ⟨m, d, m', rfl, hm, hd, hm'⟩ := ih (l := []) hrest.symm
        exact ⟨c :: m, d, m', rfl, by rw [bytes_cons, hm, List.append_nil, hc], hd, hm'⟩
      | cons e k =>
        obtain ⟨rfl, rfl⟩ := List.cons.inj hrest
        have hsingle := eq_of_mem_utf8EncodeChar (c := c) (b := b) (by rw [hc]; simp) hb
        rw [hsingle] at hc
        obtain ⟨rfl, hk⟩ : l = [] ∧ k = [] := by
          have hlength := congrArg List.length hc
          simp only [List.length_cons, List.length_nil, List.length_append] at hlength
          exact ⟨List.length_eq_zero_iff.mp (by omega), List.length_eq_zero_iff.mp (by omega)⟩
        subst hk
        exact ⟨[], c, text, rfl, rfl, hsingle, rfl⟩

theorem utf8EncodeChar_of_ascii (h : c.toNat < 128) : ∃ b, String.utf8EncodeChar c = [b] ∧ b.toNat < 128 := by
  refine ⟨UInt8.ofNat c.toNat, ?_, ?_⟩
  · unfold String.utf8EncodeChar
    exact if_pos (Nat.le_of_lt_succ h)
  · rw [UInt8.toNat_ofNat']
    omega

/-- Where the bytes of **a text in ASCII** stand, the text stands. -/
theorem exists_of_bytes (h : bytes text = l ++ (bytes t ++ r)) (hne : t ≠ []) (ht : ∀ c ∈ t, c.toNat < 128) :
    ∃ m m', text = m ++ (t ++ m') ∧ bytes m = l ∧ bytes m' = r := by
  induction t generalizing text l with
  | nil => exact absurd rfl hne
  | cons c t ih =>
    obtain ⟨b, hc, hb⟩ := utf8EncodeChar_of_ascii (ht c List.mem_cons_self)
    rw [bytes_cons, hc, List.append_assoc, List.singleton_append] at h
    obtain ⟨m, d, m', rfl, hm, hd, hm'⟩ := bytes_eq_append_cons h hb
    obtain rfl : d = c := by
      have hsame : [d] = [c] := bytes_injective (by rw [bytes_cons, bytes_cons, hd, hc])
      exact (List.cons.inj hsame).1
    by_cases hnil : t = []
    · subst hnil
      exact ⟨m, m', rfl, hm, hm'⟩
    · obtain ⟨k, k', rfl, hk, hk'⟩ := ih (l := []) hm' hnil fun c hc => ht c (List.mem_cons_of_mem _ hc)
      obtain rfl : k = [] := bytes_injective hk
      exact ⟨m, k', rfl, hm, hk'⟩

end SiteGen
