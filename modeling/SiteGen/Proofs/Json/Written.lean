import Mathlib.Data.List.TakeWhile
import SiteGen.Proofs.Json.Fits
import SiteGen.Proofs.Json.Text

/-!
# Documents that are written and read

* `Json.Recovered`: a value is read as it is written, wherever it stands.
* `Json.Fits.recovered`: this holds of all values that fit, if their floats are read back.
* `Json.parse_write`: a document that is written is read as its value.
-/

namespace SiteGen.Json

/-- Whether reading comes to a value and **leaves** a text, apart from blanks before it. -/
def Leaves {α : Type} (r : Except Fault (α × Input)) (a : α) (rest : List Char) : Prop :=
  ∃ gap o, gap.all isGap = true ∧ r = .ok (a, ⟨gap ++ rest, o⟩)

variable {gap rest t : List Char} {c : Char}

theorem skipGap_append (hgap : gap.all isGap = true) (hc : isGap c = false) (o : Nat) :
    skipGap ⟨gap ++ c :: t, o⟩ = ⟨c :: t, o + gap.length⟩ := by
  have htake : (gap ++ c :: t).takeWhile isGap = gap := by
    induction gap with
    | nil => simp [hc]
    | cons d gap ih =>
      obtain ⟨hd, hgap⟩ := Bool.and_eq_true_iff.mp hgap
      rw [List.cons_append, List.takeWhile_cons, if_pos hd, ih hgap]
  unfold skipGap
  rw [htake]
  simp

variable {fuel depth o : Nat}

theorem readValue_null (hgap : gap.all isGap = true) :
    readValue (fuel + 1) depth ⟨gap ++ 'n' :: t, o⟩ =
      readWord .null ['u', 'l', 'l'] ⟨t, o + gap.length + 1⟩ := by
  rw [readValue, skipGap_append hgap rfl]
  rfl

theorem readValue_true (hgap : gap.all isGap = true) :
    readValue (fuel + 1) depth ⟨gap ++ 't' :: t, o⟩ =
      readWord (.bool true) ['r', 'u', 'e'] ⟨t, o + gap.length + 1⟩ := by
  rw [readValue, skipGap_append hgap rfl]
  rfl

theorem readValue_false (hgap : gap.all isGap = true) :
    readValue (fuel + 1) depth ⟨gap ++ 'f' :: t, o⟩ =
      readWord (.bool false) ['a', 'l', 's', 'e'] ⟨t, o + gap.length + 1⟩ := by
  rw [readValue, skipGap_append hgap rfl]
  rfl

theorem readValue_string (hgap : gap.all isGap = true) :
    readValue (fuel + 1) depth ⟨gap ++ '"' :: t, o⟩ =
      (readString ⟨t, o + gap.length + 1⟩).map fun (s, input) => (.string s, input) := by
  rw [readValue, skipGap_append hgap rfl]
  rfl

theorem readValue_array (hgap : gap.all isGap = true) :
    readValue (fuel + 1) (depth + 2) ⟨gap ++ '[' :: t, o⟩ =
      (readItems fuel (depth + 1) true [] ⟨t, o + gap.length + 1⟩).map
        fun (items, input) => (.array items, input) := by
  rw [readValue, skipGap_append hgap rfl]
  rfl

theorem readValue_object (hgap : gap.all isGap = true) :
    readValue (fuel + 1) (depth + 2) ⟨gap ++ '\x7b' :: t, o⟩ =
      (readMembers fuel (depth + 1) true [] ⟨t, o + gap.length + 1⟩).map
        fun (members, input) => (.object members, input) := by
  rw [readValue, skipGap_append hgap rfl]
  rfl

theorem readValue_minus (hgap : gap.all isGap = true) :
    readValue (fuel + 1) depth ⟨gap ++ '-' :: t, o⟩ =
      (readNumber true ⟨t, o + gap.length + 1⟩).map fun (n, input) => (.number n, input) := by
  rw [readValue, skipGap_append hgap rfl]
  rfl

theorem readValue_digit (hgap : gap.all isGap = true) (hc : c.isDigit = true) :
    readValue (fuel + 1) depth ⟨gap ++ c :: t, o⟩ =
      (readNumber false ⟨c :: t, o + gap.length⟩).map fun (n, input) => (.number n, input) := by
  have hne : ∀ {d : Char}, d.isDigit = false → c ≠ d := by
    rintro d hd rfl
    rw [hc] at hd
    cases hd
  have hgap' : isGap c = false := by
    simp [isGap, hne (d := ' ') rfl, hne (d := '\n') rfl, hne (d := '\t') rfl, hne (d := '\r') rfl]
  rw [readValue, skipGap_append hgap hgap']
  simp only [hne (d := 'n') rfl, hne (d := 't') rfl, hne (d := 'f') rfl, hne (d := '-') rfl, hc, if_false, if_true]

theorem skipGap_skipGap (input : Input) : skipGap (skipGap input) = skipGap input := by
  obtain ⟨t, o⟩ := input
  induction t generalizing o with
  | nil => rfl
  | cons c t ih =>
    cases hc : isGap c with
    | true =>
      have hstep : skipGap ⟨c :: t, o⟩ = skipGap ⟨t, o + 1⟩ := by
        unfold skipGap
        simp only [List.takeWhile_cons, hc, if_true, List.length_cons, List.drop_succ_cons, Input.mk.injEq,
          true_and]
        omega
      rw [hstep, ih]
    | false =>
      have hsame : skipGap ⟨[] ++ c :: t, o⟩ = _ := skipGap_append rfl hc o
      rw [List.nil_append, List.length_nil, Nat.add_zero] at hsame
      rw [hsame, hsame]

/-! ### Arrays -/

theorem readValue_skipGap {input : Input} {x : Json × Input} (h : readValue fuel depth input = .ok x) :
    readValue fuel depth (skipGap input) = .ok x := by
  cases fuel with
  | zero =>
    rw [readValue] at h
    cases h
  | succ fuel =>
    rw [← h, readValue, readValue, skipGap_skipGap]

theorem rest_of_readValue {input : Input} {x : Json × Input} (h : readValue fuel depth input = .ok x) :
    ∃ c t, (skipGap input).rest = c :: t ∧ c ≠ ']' := by
  cases fuel with
  | zero =>
    rw [readValue] at h
    cases h
  | succ fuel =>
    rw [readValue] at h
    generalize skipGap input = input at h ⊢
    obtain ⟨t, o⟩ := input
    cases t with
    | nil => cases h
    | cons c t =>
      refine ⟨c, t, rfl, ?_⟩
      rintro rfl
      cases h

theorem readItems_first {acc : List Json} {input input' : Input} {item : Json}
    (h : readValue fuel depth input = .ok (item, input')) :
    readItems (fuel + 1) depth true acc input = readItems fuel depth false (item :: acc) input' := by
  obtain ⟨c, t, hrest, hc⟩ := rest_of_readValue h
  rw [readItems]
  simp only [hrest, hc, if_false, if_true, readValue_skipGap h]
  rfl

theorem utf8Size_comma : ','.utf8Size = 1 := rfl

theorem readItems_next {acc : List Json} {input' : Input} {item : Json} (hgap : gap.all isGap = true)
    (h : readValue fuel depth ⟨t, o + gap.length + 1⟩ = .ok (item, input')) :
    readItems (fuel + 1) depth false acc ⟨gap ++ ',' :: t, o⟩ =
      readItems fuel depth false (item :: acc) input' := by
  obtain ⟨c, u, hrest, hc⟩ := rest_of_readValue h
  rw [readItems, skipGap_append hgap rfl]
  simp only [Input.after, Char.reduceEq, Bool.false_eq_true, if_false, if_true, utf8Size_comma, hrest, hc,
    readValue_skipGap h]
  rfl

theorem readItems_end {first : Bool} {acc : List Json} (hgap : gap.all isGap = true) :
    readItems (fuel + 1) depth first acc ⟨gap ++ ']' :: t, o⟩ =
      .ok (acc.reverse, ⟨t, o + gap.length + 1⟩) := by
  rw [readItems, skipGap_append hgap rfl]
  rfl

/-! ### Objects -/

theorem readMembers_first {acc : List (String × Json)} (hgap : gap.all isGap = true) :
    readMembers (fuel + 1) depth true acc ⟨gap ++ '"' :: t, o⟩ =
      readMember fuel depth acc ⟨t, o + gap.length + 1⟩ := by
  rw [readMembers, skipGap_append hgap rfl]
  rfl

theorem readMembers_next {acc : List (String × Json)} {gap' : List Char} (hgap : gap.all isGap = true)
    (hgap' : gap'.all isGap = true) :
    readMembers (fuel + 1) depth false acc ⟨gap ++ ',' :: (gap' ++ '"' :: t), o⟩ =
      readMember fuel depth acc ⟨t, o + gap.length + 1 + gap'.length + 1⟩ := by
  rw [readMembers, skipGap_append hgap rfl]
  simp only [Input.after, Char.reduceEq, Bool.false_eq_true, if_false, if_true, utf8Size_comma]
  rw [skipGap_append hgap' rfl]
  rfl

theorem readMembers_end {first : Bool} {acc : List (String × Json)} (hgap : gap.all isGap = true) :
    readMembers (fuel + 1) depth first acc ⟨gap ++ '\x7d' :: t, o⟩ =
      .ok (acc, ⟨t, o + gap.length + 1⟩) := by
  rw [readMembers, skipGap_append hgap rfl]
  rfl

theorem readMember_eq {acc : List (String × Json)} {input input' : Input} {key : String} {value : Json}
    (hkey : readString input = .ok (key, ⟨':' :: t, o⟩))
    (hvalue : readValue fuel depth ⟨t, o + 1⟩ = .ok (value, input')) :
    readMember (fuel + 1) depth acc input =
      readMembers fuel depth false (insertMember key value acc) input' := by
  have hcolon : readColon ⟨':' :: t, o⟩ = .ok ((), ⟨t, o + 1⟩) := by
    unfold readColon
    rw [← List.nil_append (':' :: t), skipGap_append rfl rfl]
    rfl
  rw [readMember, hkey]
  show (readColon ⟨':' :: t, o⟩).bind (fun r => (readValue fuel depth r.2).bind fun r =>
    readMembers fuel depth false (insertMember key r.1 acc) r.2) = _
  rw [hcolon]
  show (readValue fuel depth ⟨t, o + 1⟩).bind (fun r =>
    readMembers fuel depth false (insertMember key r.1 acc) r.2) = _
  rw [hvalue]
  rfl

/-! ### Values -/

/-- Whether a value is read **as it is written**, wherever it stands. -/
def Recovered (layout : Layout) (depth : Nat) (v : Json) : Prop :=
  ∀ ⦃level fuel gap rest o⦄, gap.all isGap = true → 3 * (write layout level v).length ≤ fuel → Stops rest →
    Leaves (readValue fuel depth ⟨gap ++ (write layout level v ++ rest), o⟩) v rest

variable {layout : Layout}

theorem Leaves.map {α β : Type} {r : Except Fault (α × Input)} {a : α} (h : Leaves r a rest) (f : α → β) :
    Leaves (r.map fun (a, input) => (f a, input)) (f a) rest := by
  obtain ⟨gap, o, hgap, rfl⟩ := h
  exact ⟨gap, o, hgap, rfl⟩

theorem Leaves.of_rest {α : Type} {a : α} : Leaves (.ok (a, ⟨rest, o⟩)) a rest := ⟨[], o, rfl, rfl⟩

theorem all_lineBreak (layout : Layout) (level : Nat) : (layout.lineBreak level).all isGap = true := by
  unfold Layout.lineBreak
  split
  · rfl
  · simp [isGap]

theorem stops_append (hgap : gap.all isGap = true)
    (hc : c.isDigit = false ∧ c ≠ '.' ∧ c ≠ 'e' ∧ c ≠ 'E') : Stops (gap ++ c :: rest) := by
  cases gap with
  | nil => exact .cons hc
  | cons d gap =>
    obtain ⟨hd, -⟩ := Bool.and_eq_true_iff.mp hgap
    refine .cons ?_
    simp only [isGap, Bool.or_eq_true, beq_iff_eq] at hd
    rcases hd with ((rfl | rfl) | rfl) | rfl <;> decide

/-- The items after the first, and the end of the array. -/
theorem readItems_writeItems {close : List Char} (hclose : close.all isGap = true) {items : List Json}
    (h : ∀ item ∈ items, Recovered layout depth item) (level : Nat) : ∀ {fuel o acc gap},
    gap.all isGap = true → 3 * ((writeItems layout level items).length + 1) ≤ fuel →
    Leaves (readItems fuel depth false acc
      ⟨gap ++ (writeItems layout level items ++ (close ++ ']' :: rest)), o⟩) (acc.reverse ++ items) rest := by
  induction items with
  | nil =>
    intro fuel o acc gap hgap hfuel
    obtain ⟨fuel, rfl⟩ : ∃ m, fuel = m + 1 := ⟨fuel - 1, by omega⟩
    rw [writeItems, List.nil_append, ← List.append_assoc, readItems_end (by simp [hgap, hclose]),
      List.append_nil]
    exact .of_rest
  | cons item items ih =>
    intro fuel o acc gap hgap hfuel
    obtain ⟨fuel, rfl⟩ : ∃ m, fuel = m + 1 := ⟨fuel - 1, by omega⟩
    simp only [writeItems, List.cons_append, List.append_assoc, List.length_cons, List.length_append] at hfuel ⊢
    have hstops : Stops (writeItems layout level items ++ (close ++ ']' :: rest)) := by
      cases items with
      | nil => exact stops_append hclose (by decide)
      | cons item items => exact .cons (by decide)
    have hvalue : 3 * (write layout level item).length ≤ fuel := by omega
    have hmore : 3 * ((writeItems layout level items).length + 1) ≤ fuel := by omega
    obtain ⟨gap', o', hgap', hitem⟩ := h item List.mem_cons_self (all_lineBreak layout level) hvalue hstops
    rw [readItems_next hgap hitem, List.append_cons acc.reverse, ← List.reverse_cons]
    exact ih (fun i hi => h i (List.mem_cons_of_mem _ hi)) hgap' hmore

theorem writeString_eq (a : Bool) (s : String) : writeString a s = '"' :: (writeString a s).drop 1 := rfl

theorem colon_eq (layout : Layout) : ∃ gap, layout.colon = ':' :: gap ∧ gap.all isGap = true := by
  unfold Layout.colon
  split
  · exact ⟨[], rfl, rfl⟩
  · exact ⟨[' '], rfl, rfl⟩

/-- One member, after the opening quote of its key. -/
theorem readMember_write (key : String) {value : Json} (h : Recovered layout depth value) {level : Nat}
    (hfuel : 3 * (write layout level value).length ≤ fuel) (hrest : Stops rest) (acc : List (String × Json))
    (o : Nat) : ∃ gap o', gap.all isGap = true ∧
      readMember (fuel + 1) depth acc ⟨(writeString layout.asciiOnly key).drop 1 ++
        (layout.colon ++ (write layout level value ++ rest)), o⟩ =
      readMembers fuel depth false (insertMember key value acc) ⟨gap ++ rest, o'⟩ := by
  obtain ⟨gap₁, hcolon, hgap₁⟩ := colon_eq layout
  obtain ⟨o₁, hkey⟩ := readString_writeString layout.asciiOnly key
    (layout.colon ++ (write layout level value ++ rest)) o
  rw [hcolon, List.cons_append] at hkey
  obtain ⟨gap, o₂, hgap, hvalue⟩ := h hgap₁ hfuel hrest (o := o₁ + 1)
  rw [hcolon, List.cons_append]
  exact ⟨gap, o₂, hgap, readMember_eq hkey hvalue⟩

/-- The members after the first, and the end of the object. -/
theorem readMembers_writeMembers {close : List Char} (hclose : close.all isGap = true)
    {members : List (String × Json)} (h : ∀ member ∈ members, Recovered layout depth member.2) (level : Nat) :
    ∀ {fuel o acc gap}, ((acc ++ members).map (·.1)).Nodup → gap.all isGap = true →
    3 * ((writeMembers layout level members).length + 1) ≤ fuel →
    Leaves (readMembers fuel depth false acc
      ⟨gap ++ (writeMembers layout level members ++ (close ++ '\x7d' :: rest)), o⟩) (acc ++ members) rest := by
  induction members with
  | nil =>
    intro fuel o acc gap _ hgap hfuel
    obtain ⟨fuel, rfl⟩ : ∃ m, fuel = m + 1 := ⟨fuel - 1, by omega⟩
    rw [writeMembers, List.nil_append, ← List.append_assoc, readMembers_end (by simp [hgap, hclose]),
      List.append_nil]
    exact .of_rest
  | cons member members ih =>
    intro fuel o acc gap hkeys hgap hfuel
    obtain ⟨key, value⟩ := member
    obtain ⟨fuel, rfl⟩ : ∃ m, fuel = m + 2 := ⟨fuel - 2, by omega⟩
    have hstops : Stops (writeMembers layout level members ++ (close ++ '\x7d' :: rest)) := by
      cases members with
      | nil => exact stops_append hclose (by decide)
      | cons member members => exact .cons (by decide)
    simp only [writeMembers, List.cons_append, List.append_assoc, List.length_cons, List.length_append] at hfuel ⊢
    have hvalue : 3 * (write layout level value).length ≤ fuel := by omega
    have hmore : 3 * ((writeMembers layout level members).length + 1) ≤ fuel := by omega
    have hnew : key ∉ acc.map (·.1) := by
      intro hmem
      rw [List.map_append, List.map_cons, List.nodup_append] at hkeys
      exact hkeys.2.2 key hmem key List.mem_cons_self rfl
    rw [writeString_eq, List.cons_append, readMembers_next hgap (all_lineBreak layout level)]
    obtain ⟨gap', o', hgap', hmember⟩ := readMember_write key (h _ List.mem_cons_self) hvalue hstops acc
      (o + gap.length + 1 + (layout.lineBreak level).length + 1)
    rw [hmember, insertMember_of_not_mem hnew, List.append_cons acc _ members]
    rw [List.append_cons acc _ members] at hkeys
    exact ih (fun m hm => h m (List.mem_cons_of_mem _ hm)) hkeys hgap' hmore

theorem recovered_word {word : List Char} {v : Json} (hwrite : ∀ level, write layout level v = word)
    (hne : word ≠ [])
    (hread : ∀ {fuel gap rest o}, gap.all isGap = true →
      readValue (fuel + 1) depth ⟨gap ++ (word ++ rest), o⟩ = .ok (v, ⟨rest, o + gap.length + word.length⟩)) :
    Recovered layout depth v := by
  intro level fuel gap rest o hgap hfuel _
  rw [hwrite] at hfuel ⊢
  have hpos := List.length_pos_iff.mpr hne
  obtain ⟨fuel, rfl⟩ : ∃ m, fuel = m + 1 := ⟨fuel - 1, by omega⟩
  rw [hread hgap]
  exact .of_rest

theorem recovered_null : Recovered layout depth .null := by
  refine recovered_word (fun _ => rfl) (by decide) fun {fuel gap rest o} hgap => ?_
  exact (readValue_null hgap).trans rfl

theorem recovered_bool (b : Bool) : Recovered layout depth (.bool b) := by
  cases b with
  | true =>
    refine recovered_word (fun _ => rfl) (by decide) fun {fuel gap rest o} hgap => ?_
    exact (readValue_true hgap).trans rfl
  | false =>
    refine recovered_word (fun _ => rfl) (by decide) fun {fuel gap rest o} hgap => ?_
    exact (readValue_false hgap).trans rfl

theorem recovered_string (s : String) : Recovered layout depth (.string s) := by
  intro level fuel gap rest o hgap hfuel _
  rw [write, writeString_eq] at hfuel ⊢
  rw [List.length_cons] at hfuel
  obtain ⟨fuel, rfl⟩ : ∃ m, fuel = m + 1 := ⟨fuel - 1, by omega⟩
  obtain ⟨o', h⟩ := readString_writeString layout.asciiOnly s rest (o + gap.length + 1)
  rw [List.cons_append, readValue_string hgap, h]
  exact .of_rest

theorem recovered_integer {n : Int} (hn : InWord n) : Recovered layout depth (.number (.integer n)) := by
  intro level fuel gap rest o hgap hfuel hrest
  rw [write, JsonNumber.text] at hfuel ⊢
  obtain ⟨c, ds, hds⟩ := List.exists_cons_of_ne_nil (Decimal.digits_ne_nil n.natAbs)
  have hdigit : c.isDigit = true := Decimal.isDigit_of_mem_digits (n := n.natAbs) (by simp [hds])
  have hpos : 0 < (Decimal.digits n.natAbs).length := by
    rw [hds]
    exact Nat.succ_pos _
  have hword : n.natAbs ≤ maxWord := by
    unfold InWord at hn
    unfold maxWord at *
    omega
  obtain ⟨fuel, rfl⟩ : ∃ m, fuel = m + 1 := ⟨fuel - 1, by rw [List.length_append] at hfuel; omega⟩
  by_cases hneg : n < 0
  · obtain ⟨o', h⟩ := readNumber_digits hword hrest true (o + gap.length + 1)
    have hwhole : readAfterDigits.whole true n.natAbs = .integer n := by
      unfold readAfterDigits.whole
      unfold InWord at hn
      rw [if_neg (by decide), if_neg (by omega)]
      congr 1
      omega
    simp only [hneg, decide_true, Decimal.sign, if_true, List.cons_append, List.nil_append]
    rw [readValue_minus hgap, h, hwhole]
    exact .of_rest
  · obtain ⟨o', h⟩ := readNumber_digits hword hrest false (o + gap.length)
    have hwhole : readAfterDigits.whole false n.natAbs = .integer n := by
      unfold readAfterDigits.whole
      rw [if_pos (by decide)]
      congr 1
      omega
    simp only [hneg, decide_false, Decimal.sign, Bool.false_eq_true, if_false, List.nil_append]
    rw [hds] at h ⊢
    rw [List.cons_append] at h ⊢
    rw [readValue_digit hgap hdigit, h, hwhole]
    exact .of_rest

/-- Whether a float is **read back**: its text is a document with this value. -/
def ReadsBack (x : Float) : Prop :=
  parse (String.ofList (JsonNumber.floatText x)) = .ok (.number (.float x))

theorem skipGap_cases (t : List Char) (o : Nat) : (skipGap ⟨t, o⟩).rest = [] ∨
    ∃ gap c u, gap.all isGap = true ∧ t = gap ++ c :: u ∧ skipGap ⟨t, o⟩ = ⟨c :: u, o + gap.length⟩ := by
  have hgap : (t.takeWhile isGap).all isGap = true := List.all_takeWhile
  have ht : t.takeWhile isGap ++ t.dropWhile isGap = t := List.takeWhile_append_dropWhile
  have hhead := List.head?_dropWhile_not isGap t
  cases hu : t.dropWhile isGap with
  | nil =>
    rw [hu, List.append_nil] at ht
    exact Or.inl (by rw [skipGap, ht, List.drop_length])
  | cons c u =>
    rw [hu] at ht hhead
    have hskip := skipGap_append hgap (show isGap c = false by simpa using hhead) o (t := u)
    rw [ht] at hskip
    exact Or.inr ⟨_, c, u, hgap, ht.symm, hskip⟩

theorem readNumber_of_map {x : Except Fault (JsonNumber × Input)} {input' : Input} {n : JsonNumber}
    (h : (x.map fun (n, input) => (Json.number n, input)) = .ok (.number n, input')) : x = .ok (n, input') := by
  obtain ⟨⟨m, r⟩, hx, heq⟩ := ok_of_map h
  obtain ⟨hnumber, rfl⟩ := Prod.mk.inj heq
  obtain rfl := Json.number.inj hnumber
  exact hx

theorem readNumber_of_readValue {input' : Input} {n : JsonNumber}
    (h : readValue fuel depth ⟨t, o⟩ = .ok (.number n, input')) :
    ∃ gap c u o', gap.all isGap = true ∧ t = gap ++ c :: u ∧
      (c = '-' ∧ readNumber true ⟨u, o'⟩ = .ok (n, input') ∨
        c.isDigit = true ∧ readNumber false ⟨c :: u, o'⟩ = .ok (n, input')) := by
  cases fuel with
  | zero =>
    rw [readValue] at h
    cases h
  | succ fuel =>
    rw [readValue] at h
    rcases skipGap_cases t o with hnil | ⟨gap, c, u, hgap, ht, hskip⟩
    · simp only [hnil] at h
      cases h
    rw [hskip] at h
    dsimp only at h
    refine ⟨gap, c, u, ?_⟩
    split at h
    · cases readWord_value h
    split at h
    · cases readWord_value h
    split at h
    · cases readWord_value h
    split at h
    · next hminus => exact ⟨_, hgap, ht, Or.inl ⟨hminus, readNumber_of_map h⟩⟩
    split at h
    · next hdigit => exact ⟨_, hgap, ht, Or.inr ⟨hdigit, readNumber_of_map h⟩⟩
    -- what else there is, is no number
    split at h
    · obtain ⟨_, -, heq⟩ := ok_of_map h
      cases heq
    split at h
    · split at h
      · cases h
      · obtain ⟨_, -, heq⟩ := ok_of_map h
        cases heq
    split at h
    · split at h
      · cases h
      · obtain ⟨_, -, heq⟩ := ok_of_map h
        cases heq
    · cases h

theorem all_gap_of_skipGap (h : (skipGap ⟨t, o⟩).rest.isEmpty = true) : t.all isGap = true := by
  have hlength : t.length ≤ (t.takeWhile isGap).length := by
    simpa [skipGap] using h
  have hsplit : t.takeWhile isGap ++ t.dropWhile isGap = t := List.takeWhile_append_dropWhile
  have hnil : t.dropWhile isGap = [] := by
    rw [← List.length_eq_zero_iff]
    have := congrArg List.length hsplit
    rw [List.length_append] at this
    omega
  rw [hnil, List.append_nil] at hsplit
  rw [← hsplit]
  exact List.all_takeWhile

theorem readValue_of_readDocument {text : List Char} {v : Json} (h : readDocument text = .ok v) :
    ∃ r o, r.all isGap = true ∧
      readValue (3 * text.length + 3) depthLimit ⟨text, 0⟩ = .ok (v, ⟨r, o⟩) := by
  unfold readDocument at h
  obtain ⟨⟨v, r, o⟩, hvalue, h⟩ := ok_of_bind h
  dsimp only at h
  split at h
  · next hr =>
    obtain rfl := Except.ok.inj h
    exact ⟨r, o, all_gap_of_skipGap hr, hvalue⟩
  · cases h

/-- **A float that is read back** is read wherever it stands. -/
theorem ReadsBack.recovered {x : Float} (h : ReadsBack x) : Recovered layout depth (.number (.float x)) := by
  intro level fuel gap rest o hgap hfuel hrest
  have h := readDocument_of_parse h
  rw [String.toList_ofList] at h
  obtain ⟨r, o₁, hr, h⟩ := readValue_of_readDocument h
  obtain ⟨gap₁, c, t, o₂, hgap₁, htext, hread⟩ := readNumber_of_readValue h
  rw [write, JsonNumber.text, htext] at hfuel ⊢
  rw [List.length_append, List.length_cons] at hfuel
  obtain ⟨fuel, rfl⟩ : ∃ m, fuel = m + 1 := ⟨fuel - 1, by omega⟩
  have hgaps : (gap ++ gap₁).all isGap = true := by simp [hgap, hgap₁]
  rw [List.append_assoc, ← List.append_assoc, List.cons_append]
  rcases hread with ⟨rfl, hread⟩ | ⟨hc, hread⟩
  · obtain ⟨o₃, hread⟩ := readNumber_onward _ hread (o + (gap ++ gap₁).length + 1) rest hrest
    rw [readValue_minus hgaps, hread]
    exact ⟨r, o₃, hr, rfl⟩
  · obtain ⟨o₃, hread⟩ := readNumber_onward _ hread (o + (gap ++ gap₁).length) rest hrest
    rw [List.cons_append] at hread
    rw [readValue_digit hgaps hc, hread]
    exact ⟨r, o₃, hr, rfl⟩

theorem recovered_array {items : List Json} (h : ∀ item ∈ items, Recovered layout (depth + 1) item) :
    Recovered layout (depth + 2) (.array items) := by
  intro level fuel gap rest o hgap hfuel hrest
  have hread : Leaves (readItems (fuel - 1) (depth + 1) true []
      ⟨(write layout level (.array items)).drop 1 ++ rest, o + gap.length + 1⟩) items rest := by
    cases items with
    | nil =>
      rw [write, List.length_cons, List.length_singleton] at hfuel
      obtain ⟨fuel, rfl⟩ : ∃ m, fuel = m + 2 := ⟨fuel - 2, by omega⟩
      exact (readItems_end (by rfl : ([] : List Char).all isGap = true)) ▸ .of_rest
    | cons item items =>
      simp only [write, List.length_cons, List.length_append, List.length_nil] at hfuel
      obtain ⟨fuel, rfl⟩ : ∃ m, fuel = m + 2 := ⟨fuel - 2, by omega⟩
      have hstops : Stops (writeItems layout (level + 1) items ++ (layout.lineBreak level ++ ']' :: rest)) := by
        cases items with
        | nil => exact stops_append (all_lineBreak layout level) (by decide)
        | cons item items => exact .cons (by decide)
      have hvalue : 3 * (write layout (level + 1) item).length ≤ fuel := by omega
      have hmore : 3 * ((writeItems layout (level + 1) items).length + 1) ≤ fuel := by omega
      obtain ⟨gap', o', hgap', hitem⟩ :=
        h item List.mem_cons_self (all_lineBreak layout (level + 1)) hvalue hstops (o := o + gap.length + 1)
      have hitems : Leaves (readItems fuel (depth + 1) false [item] ⟨gap' ++ (writeItems layout (level + 1)
          items ++ (layout.lineBreak level ++ ']' :: rest)), o'⟩) (item :: items) rest :=
        readItems_writeItems (all_lineBreak layout level) (fun i hi => h i (List.mem_cons_of_mem _ hi))
          (level + 1) hgap' hmore
      rw [← readItems_first hitem] at hitems
      simpa [write] using hitems
  have hwrite : write layout level (.array items) = '[' :: (write layout level (.array items)).drop 1 := by
    cases items <;> rfl
  rw [hwrite, List.length_cons] at hfuel
  obtain ⟨fuel, rfl⟩ : ∃ m, fuel = m + 1 := ⟨fuel - 1, by omega⟩
  rw [hwrite, List.cons_append, readValue_array hgap]
  exact hread.map _

theorem recovered_object {members : List (String × Json)} (hkeys : (members.map (·.1)).Nodup)
    (h : ∀ member ∈ members, Recovered layout (depth + 1) member.2) :
    Recovered layout (depth + 2) (.object members) := by
  intro level fuel gap rest o hgap hfuel hrest
  have hread : Leaves (readMembers (fuel - 1) (depth + 1) true []
      ⟨(write layout level (.object members)).drop 1 ++ rest, o + gap.length + 1⟩) members rest := by
    cases members with
    | nil =>
      rw [write, List.length_cons, List.length_singleton] at hfuel
      obtain ⟨fuel, rfl⟩ : ∃ m, fuel = m + 2 := ⟨fuel - 2, by omega⟩
      exact (readMembers_end (by rfl : ([] : List Char).all isGap = true)) ▸ .of_rest
    | cons member members =>
      obtain ⟨key, value⟩ := member
      simp only [write, List.length_cons, List.length_append, List.length_nil] at hfuel
      obtain ⟨fuel, rfl⟩ : ∃ m, fuel = m + 3 := ⟨fuel - 3, by omega⟩
      have hstops : Stops (writeMembers layout (level + 1) members ++
          (layout.lineBreak level ++ '\x7d' :: rest)) := by
        cases members with
        | nil => exact stops_append (all_lineBreak layout level) (by decide)
        | cons member members => exact .cons (by decide)
      have hvalue : 3 * (write layout (level + 1) value).length ≤ fuel := by omega
      have hmore : 3 * ((writeMembers layout (level + 1) members).length + 1) ≤ fuel := by omega
      obtain ⟨gap', o', hgap', hmember⟩ := readMember_write key (h _ List.mem_cons_self) hvalue hstops []
        (o + gap.length + 1 + (layout.lineBreak (level + 1)).length + 1)
      have hmembers : Leaves (readMembers fuel (depth + 1) false [(key, value)] ⟨gap' ++ (writeMembers layout
          (level + 1) members ++ (layout.lineBreak level ++ '\x7d' :: rest)), o'⟩)
          ((key, value) :: members) rest :=
        readMembers_writeMembers (all_lineBreak layout level) (fun m hm => h m (List.mem_cons_of_mem _ hm))
          (level + 1) hkeys hgap' hmore
      rw [insertMember] at hmember
      rw [← hmember, ← readMembers_first (all_lineBreak layout (level + 1))] at hmembers
      rw [← List.cons_append, ← writeString_eq] at hmembers
      simpa [write] using hmembers
  have hwrite : write layout level (.object members) = '\x7b' :: (write layout level (.object members)).drop 1 := by
    cases members <;> rfl
  rw [hwrite, List.length_cons] at hfuel
  obtain ⟨fuel, rfl⟩ : ∃ m, fuel = m + 1 := ⟨fuel - 1, by omega⟩
  rw [hwrite, List.cons_append, readValue_object hgap]
  exact hread.map _

/-- **A value that fits** is read as it is written. -/
theorem Fits.recovered {v : Json} (h : Fits ReadsBack depth v) : Recovered layout depth v := by
  induction h with
  | null => exact recovered_null
  | bool b => exact recovered_bool b
  | integer hn => exact recovered_integer hn
  | float hx => exact hx.recovered
  | string s => exact recovered_string s
  | array _ ih => exact recovered_array ih
  | object hkeys _ ih => exact recovered_object hkeys ih

/-- **A document that is written** is read as its value. -/
theorem parse_write {v : Json} (h : Fits ReadsBack depthLimit v) (layout : Layout) :
    parse (String.ofList (write layout 0 v)) = .ok v := by
  have hrecovered : Recovered layout depthLimit v := h.recovered
  obtain ⟨gap, o, hgap, hread⟩ := hrecovered (by rfl : ([] : List Char).all isGap = true)
    (Nat.le_add_right (3 * (write layout 0 v).length) 3) Stops.nil (o := 0)
  rw [List.nil_append, List.append_nil, List.append_nil] at hread
  have hskip : (skipGap ⟨gap, o⟩).rest = [] := by
    have htake : gap.takeWhile isGap = gap :=
      List.takeWhile_eq_self_iff.mpr (List.all_eq_true.mp hgap)
    unfold skipGap
    dsimp only
    rw [htake, List.drop_length]
  have hdocument : readDocument (write layout 0 v) = .ok v := by
    unfold readDocument
    rw [hread]
    simp [bind, Except.bind, hskip]
  unfold parse
  rw [String.toList_ofList, hdocument]

theorem parse_fixture {v : Json} (h : Fits ReadsBack depthLimit v) : parse v.fixture = .ok v :=
  parse_write h _

end SiteGen.Json
