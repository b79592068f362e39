import Mathlib.Data.List.Forall2
import SiteGen.Formula.Walk
import SiteGen.Proofs.Json.Ascii
import SiteGen.Proofs.Json.Lines
import SiteGen.Proofs.Json.Written

/-!
# Evaluated documents

* `Json.TextsEvaluated`: two documents are the same but for their texts, which are evaluated.
* `Json.Fits.evaluate`: the evaluated document can be read if its floats can.
* `Json.IsFixture`: the text of a document in a fixture.
* `Json.isFixture_evaluate`: an evaluated document is written as its fixture.
-/

namespace SiteGen

namespace Json

/-- Whether a value occurs **within** a document. -/
inductive Within (w : Json) : Json → Prop
  | self : Within w w
  | item {items : List Json} {item : Json} (hmem : item ∈ items) (h : Within w item) :
    Within w (.array items)
  | member {members : List (String × Json)} {member : String × Json} (hmem : member ∈ members)
    (h : Within w member.2) : Within w (.object members)

/-- Whether two documents are the same **but for their texts**, which are evaluated in the second: they have
the same keys in the same order, and lists of the same length. -/
inductive TextsEvaluated : Json → Json → Prop
  | null : TextsEvaluated .null .null
  | bool (b : Bool) : TextsEvaluated (.bool b) (.bool b)
  | number (n : JsonNumber) : TextsEvaluated (.number n) (.number n)
  | string (s : String) : TextsEvaluated (.string s) (evaluateText s)
  | array {items items' : List Json} (h : List.Forall₂ TextsEvaluated items items') :
    TextsEvaluated (.array items) (.array items')
  | object {members members' : List (String × Json)}
    (hkeys : members.map (·.1) = members'.map (·.1))
    (h : List.Forall₂ TextsEvaluated (members.map (·.2)) (members'.map (·.2))) :
    TextsEvaluated (.object members) (.object members')

mutual

theorem textsEvaluated_evaluate : ∀ v, TextsEvaluated v v.evaluate
  | .null => .null
  | .bool b => .bool b
  | .number n => .number n
  | .string s => .string s
  | .array items => .array (textsEvaluated_items items)
  | .object members => .object (keys_evaluateMembers members) (textsEvaluated_members members)

theorem textsEvaluated_items : ∀ items, List.Forall₂ TextsEvaluated items (evaluateItems items)
  | [] => .nil
  | item :: items => .cons (textsEvaluated_evaluate item) (textsEvaluated_items items)

theorem keys_evaluateMembers : ∀ members : List (String × Json),
    members.map (·.1) = (evaluateMembers members).map (·.1)
  | [] => rfl
  | (key, _) :: members => congrArg (key :: ·) (keys_evaluateMembers members)

theorem textsEvaluated_members : ∀ members : List (String × Json),
    List.Forall₂ TextsEvaluated (members.map (·.2)) ((evaluateMembers members).map (·.2))
  | [] => .nil
  | (_, value) :: members => .cons (textsEvaluated_evaluate value) (textsEvaluated_members members)

end

theorem evaluateItems_eq (items : List Json) : evaluateItems items = items.map evaluate := by
  induction items with
  | nil => rfl
  | cons item items ih => rw [evaluateItems, ih, List.map_cons]

theorem evaluateMembers_eq (members : List (String × Json)) :
    evaluateMembers members = members.map fun member => (member.1, member.2.evaluate) := by
  induction members with
  | nil => rfl
  | cons member members ih => rw [evaluateMembers, ih, List.map_cons]

/-- **The evaluated document** fits if its floats do. -/
theorem Fits.evaluate {F G : Float → Prop} {depth : Nat} {v : Json} (h : Fits F depth v)
    (hG : ∀ x, Within (.number (.float x)) v.evaluate → G x) : Fits G depth v.evaluate := by
  induction h with
  | null => exact .null
  | bool b => exact .bool b
  | integer hn => exact .integer hn
  | float hx => exact .float (hG _ .self)
  | string s =>
    rw [Json.evaluate, evaluateText] at hG ⊢
    cases hs : Leaf.evaluate s.toList with
    | text chars => exact .string _
    | number x =>
      rw [hs] at hG
      exact .float (hG x .self)
  | array _ ih =>
    rw [Json.evaluate, evaluateItems_eq] at hG ⊢
    refine .array fun item hitem => ?_
    obtain ⟨item, hmem, rfl⟩ := List.mem_map.mp hitem
    exact ih item hmem fun x hx => hG x (.item hitem hx)
  | object hkeys _ ih =>
    rw [Json.evaluate, evaluateMembers_eq] at hG ⊢
    refine .object (by rwa [List.map_map]) fun member hmember => ?_
    obtain ⟨member, hmem, rfl⟩ := List.mem_map.mp hmember
    exact ih member hmem fun x hx => hG x (.member hmember hx)

theorem Fits.of_within {F : Float → Prop} {depth : Nat} {v : Json} (h : Fits F depth v) {x : Float}
    (hx : Within (.number (.float x)) v) : F x := by
  induction h with
  | null => cases hx
  | bool b => cases hx
  | integer hn => cases hx
  | float h =>
    cases hx
    exact h
  | string s => cases hx
  | array _ ih =>
    cases hx with
    | item hmem hx => exact ih _ hmem hx
  | object _ _ ih =>
    cases hx with
    | member hmem hx => exact ih _ hmem hx

end Json

theorem byte_of_ascii {text : String} (h : Json.Ascii text.toList) : ∀ byte ∈ text.toUTF8.data, byte < 0x80 := by
  have hbytes : text.toUTF8 = (text.toList.flatMap String.utf8EncodeChar).toByteArray := by
    conv => lhs; rw [← String.ofList_toList (s := text)]
    exact String.toByteArray_ofList
  intro byte hbyte
  rw [hbytes, List.data_toByteArray, List.mem_toArray, List.mem_flatMap] at hbyte
  obtain ⟨c, hc, hbyte⟩ := hbyte
  have hlt : c.toNat < 0x80 := h c hc
  have hone : String.utf8EncodeChar c = [c.toNat.toUInt8] := by
    unfold String.utf8EncodeChar
    have hle : c.val.toNat ≤ 0x7f := Nat.le_of_lt_succ hlt
    rw [if_pos hle]
    rfl
  rw [hone, List.mem_singleton] at hbyte
  subst hbyte
  rw [UInt8.lt_iff_toNat_lt]
  show c.toNat % 256 < 128
  omega

namespace Json

/-- Whether a text **is the fixture of a document**: it is in ASCII, it is laid out in the lines of the document,
and the document is read back if its floats are. -/
structure IsFixture (v : Json) (text : String) : Prop where
  ascii : ∀ byte ∈ text.toUTF8.data, byte < 0x80
  lines : text.toList = ['\n'].intercalate v.lines
  readBack : (∀ x, Within (.number (.float x)) v → ReadsBack x) → parse text = .ok v

/-- A document that has been read is **evaluated and written as a fixture**. -/
theorem isFixture_evaluate {text : String} {v : Json} (h : parse text = .ok v) :
    v.evaluate.IsFixture v.evaluate.fixture :=
  ⟨byte_of_ascii (ascii_fixture _), fixture_eq_lines _, fun hfloats =>
    parse_fixture ((fits_of_parse h).evaluate hfloats)⟩

end Json

end SiteGen
