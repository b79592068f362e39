import SiteGen.Proofs.Json.Number
import SiteGen.Proofs.Run.Result

/-!
# Values of documents

* `Json.Fits`: the values that documents may have.
* `Json.fits_of_parse`: the value of a document fits.
-/

namespace SiteGen.Json

/-- The values that documents may have: nested **less than `depth` deep**, with different keys in each
object, with whole numbers in the range of words, and with floats of some kind. -/
inductive Fits (F : Float → Prop) : Nat → Json → Prop
  | null {depth : Nat} : Fits F depth .null
  | bool {depth : Nat} (b : Bool) : Fits F depth (.bool b)
  | integer {depth : Nat} {n : Int} (h : InWord n) : Fits F depth (.number (.integer n))
  | float {depth : Nat} {x : Float} (h : F x) : Fits F depth (.number (.float x))
  | string {depth : Nat} (s : String) : Fits F depth (.string s)
  | array {depth : Nat} {items : List Json} (h : ∀ item ∈ items, Fits F (depth + 1) item) :
    Fits F (depth + 2) (.array items)
  | object {depth : Nat} {members : List (String × Json)} (hkeys : (members.map (·.1)).Nodup)
    (h : ∀ member ∈ members, Fits F (depth + 1) member.2) : Fits F (depth + 2) (.object members)

section Members

variable {key : String} {value : Json} {members : List (String × Json)}

theorem mem_insertMember {m : String × Json} (h : m ∈ insertMember key value members) :
    m = (key, value) ∨ m ∈ members := by
  induction members with
  | nil => exact Or.inl (List.mem_singleton.mp h)
  | cons member members ih =>
    obtain ⟨k, v⟩ := member
    unfold insertMember at h
    split at h
    · rcases List.mem_cons.mp h with h | h
      · exact Or.inl h
      · exact Or.inr (List.mem_cons_of_mem _ h)
    · rcases List.mem_cons.mp h with h | h
      · exact Or.inr (h ▸ List.mem_cons_self)
      · exact (ih h).imp id (List.mem_cons_of_mem _)

theorem nodup_insertMember (h : (members.map (·.1)).Nodup) :
    ((insertMember key value members).map (·.1)).Nodup := by
  induction members with
  | nil => simp [insertMember]
  | cons member members ih =>
    obtain ⟨k, v⟩ := member
    obtain ⟨hnot, h⟩ := List.nodup_cons.mp h
    unfold insertMember
    split
    · next heq => exact List.nodup_cons.mpr ⟨heq ▸ hnot, h⟩
    · next hne =>
      refine List.nodup_cons.mpr ⟨fun hmem => ?_, ih h⟩
      obtain ⟨m, hm, hkey⟩ := List.mem_map.mp hmem
      rcases mem_insertMember hm with rfl | hm
      · exact hne hkey.symm
      · exact hnot (List.mem_map.mpr ⟨m, hm, hkey⟩)

/-- A new key comes **at the end**. -/
theorem insertMember_of_not_mem (h : key ∉ members.map (·.1)) :
    insertMember key value members = members ++ [(key, value)] := by
  induction members with
  | nil => rfl
  | cons member members ih =>
    obtain ⟨k, v⟩ := member
    rw [List.map_cons, List.mem_cons, not_or] at h
    unfold insertMember
    rw [if_neg (Ne.symm h.1), ih h.2]
    rfl

end Members

/-- Whether the members of an object that is read fit. -/
def MembersFit (F : Float → Prop) (depth : Nat) (members : List (String × Json)) : Prop :=
  (members.map (·.1)).Nodup ∧ ∀ member ∈ members, Fits F depth member.2

theorem MembersFit.nil {F : Float → Prop} {depth : Nat} : MembersFit F depth [] :=
  ⟨List.nodup_nil, by simp⟩

theorem MembersFit.insert {F : Float → Prop} {depth : Nat} {key : String} {value : Json}
    {members : List (String × Json)} (h : MembersFit F depth members) (hv : Fits F depth value) :
    MembersFit F depth (insertMember key value members) := by
  refine ⟨nodup_insertMember h.1, fun m hm => ?_⟩
  rcases mem_insertMember hm with rfl | hm
  · exact hv
  · exact h.2 m hm

theorem readWord_value {value v : Json} {letters : List Char} {input input' : Input}
    (h : readWord value letters input = .ok (v, input')) : v = value := by
  induction letters generalizing input with
  | nil => exact (Prod.mk.inj (Except.ok.inj h)).1.symm
  | cons letter letters ih =>
    unfold readWord at h
    split at h
    · cases h
    · split at h
      · exact ih h
      · cases h

/-- What is read with some fuel **fits**: a value, the items of an array, and the members of an object. -/
structure ReadsFit (fuel : Nat) : Prop where
  value : ∀ ⦃depth input v input'⦄, readValue fuel depth input = .ok (v, input') →
    Fits (fun _ => True) depth v
  items : ∀ ⦃depth first acc input items input'⦄, (∀ item ∈ acc, Fits (fun _ => True) depth item) →
    readItems fuel depth first acc input = .ok (items, input') →
    ∀ item ∈ items, Fits (fun _ => True) depth item
  members : ∀ ⦃depth first acc input members input'⦄, MembersFit (fun _ => True) depth acc →
    readMembers fuel depth first acc input = .ok (members, input') →
    MembersFit (fun _ => True) depth members
  member : ∀ ⦃depth acc input members input'⦄, MembersFit (fun _ => True) depth acc →
    readMember fuel depth acc input = .ok (members, input') → MembersFit (fun _ => True) depth members

theorem fits_number {depth : Nat} {negative : Bool} {n : JsonNumber} {input input' : Input}
    (h : readNumber negative input = .ok (n, input')) : Fits (fun _ => True) depth (.number n) := by
  cases n with
  | integer n => exact .integer (inWord_of_readNumber h)
  | float x => exact .float trivial

theorem ReadsFit.zero : ReadsFit 0 := by
  refine ⟨?_, ?_, ?_, ?_⟩
  · intro depth input v input' h
    rw [readValue] at h
    cases h
  · intro depth first acc input items input' _ h
    rw [readItems] at h
    cases h
  · intro depth first acc input members input' _ h
    rw [readMembers] at h
    cases h
  · intro depth acc input members input' _ h
    rw [readMember] at h
    cases h

/-! ## One more unit of fuel -/

section

variable {fuel depth : Nat} {input input' : Input}

theorem ReadsFit.value_succ (ih : ReadsFit fuel) {v : Json} (h : readValue (fuel + 1) depth input = .ok (v, input')) :
    Fits (fun _ => True) depth v := by
  unfold readValue at h
  dsimp only at h
  split at h
  · cases h
  split at h
  · exact readWord_value h ▸ .null
  split at h
  · exact readWord_value h ▸ .bool true
  split at h
  · exact readWord_value h ▸ .bool false
  split at h
  · obtain ⟨⟨n, r⟩, hn, heq⟩ := ok_of_map h
    obtain ⟨rfl, -⟩ := Prod.mk.inj heq
    exact fits_number hn
  split at h
  · obtain ⟨⟨n, r⟩, hn, heq⟩ := ok_of_map h
    obtain ⟨rfl, -⟩ := Prod.mk.inj heq
    exact fits_number hn
  split at h
  · obtain ⟨⟨s, r⟩, -, heq⟩ := ok_of_map h
    obtain ⟨rfl, -⟩ := Prod.mk.inj heq
    exact .string s
  split at h
  · split at h
    · cases h
    · next hdepth =>
      obtain ⟨⟨items, r⟩, hitems, heq⟩ := ok_of_map h
      obtain ⟨rfl, -⟩ := Prod.mk.inj heq
      obtain ⟨d, rfl⟩ : ∃ d, depth = d + 2 := ⟨depth - 2, by omega⟩
      exact .array (ih.items (by simp) hitems)
  split at h
  · split at h
    · cases h
    · next hdepth =>
      obtain ⟨⟨members, r⟩, hmembers, heq⟩ := ok_of_map h
      obtain ⟨rfl, -⟩ := Prod.mk.inj heq
      obtain ⟨d, rfl⟩ : ∃ d, depth = d + 2 := ⟨depth - 2, by omega⟩
      obtain ⟨hkeys, hfit⟩ := ih.members .nil hmembers
      exact .object hkeys hfit
  · cases h

theorem ReadsFit.items_succ (ih : ReadsFit fuel) {first : Bool} {acc items : List Json}
    (hacc : ∀ item ∈ acc, Fits (fun _ => True) depth item)
    (h : readItems (fuel + 1) depth first acc input = .ok (items, input')) :
    ∀ item ∈ items, Fits (fun _ => True) depth item := by
  -- one more item, and those after it
  have hitem : ∀ {input}, (readValue fuel depth input >>= fun r =>
      readItems fuel depth false (r.1 :: acc) r.2) = .ok (items, input') →
      ∀ item ∈ items, Fits (fun _ => True) depth item := by
    intro input h
    obtain ⟨⟨item, r⟩, hvalue, h⟩ := ok_of_bind h
    refine ih.items (fun i hi => ?_) h
    rcases List.mem_cons.mp hi with rfl | hi
    · exact ih.value hvalue
    · exact hacc i hi
  unfold readItems at h
  dsimp only at h
  split at h
  · cases h
  split at h
  · obtain ⟨rfl, -⟩ := Prod.mk.inj (Except.ok.inj h)
    exact fun item hi => hacc item (List.mem_reverse.mp hi)
  split at h
  · exact hitem h
  split at h
  · split at h
    · cases h
    split at h
    · cases h
    · exact hitem h
  · cases h

theorem ReadsFit.members_succ (ih : ReadsFit fuel) {first : Bool} {acc members : List (String × Json)}
    (hacc : MembersFit (fun _ => True) depth acc)
    (h : readMembers (fuel + 1) depth first acc input = .ok (members, input')) :
    MembersFit (fun _ => True) depth members := by
  unfold readMembers at h
  dsimp only at h
  split at h
  · cases h
  split at h
  · obtain ⟨rfl, -⟩ := Prod.mk.inj (Except.ok.inj h)
    exact hacc
  split at h
  · split at h
    · exact ih.member hacc h
    · cases h
  split at h
  · split at h
    · cases h
    split at h
    · exact ih.member hacc h
    split at h
    · cases h
    · cases h
  · cases h

theorem ReadsFit.member_succ (ih : ReadsFit fuel) {acc members : List (String × Json)}
    (hacc : MembersFit (fun _ => True) depth acc)
    (h : readMember (fuel + 1) depth acc input = .ok (members, input')) : MembersFit (fun _ => True) depth members := by
  unfold readMember at h
  obtain ⟨⟨key, r⟩, -, h⟩ := ok_of_bind h
  obtain ⟨⟨u, r⟩, hcolon, h⟩ := ok_of_bind h
  obtain ⟨⟨value, r⟩, hvalue, h⟩ := ok_of_bind h
  exact ih.members (hacc.insert (ih.value hvalue)) h

end

theorem readsFit (fuel : Nat) : ReadsFit fuel := by
  induction fuel with
  | zero => exact .zero
  | succ fuel ih =>
    exact ⟨fun _ _ _ _ h => ih.value_succ h, fun _ _ _ _ _ _ hacc h => ih.items_succ hacc h,
      fun _ _ _ _ _ _ hacc h => ih.members_succ hacc h, fun _ _ _ _ _ hacc h => ih.member_succ hacc h⟩

/-! ## Documents -/

theorem readDocument_of_parse {text : String} {v : Json} (h : parse text = .ok v) :
    readDocument text.toList = .ok v := by
  unfold parse at h
  split at h
  · next hv =>
    obtain rfl := Except.ok.inj h
    exact hv
  · cases h

/-- **The value of a document** fits. -/
theorem fits_of_parse {text : String} {v : Json} (h : parse text = .ok v) :
    Fits (fun _ => True) depthLimit v := by
  have h := readDocument_of_parse h
  unfold readDocument at h
  obtain ⟨⟨value, r⟩, hvalue, h⟩ := ok_of_bind h
  dsimp only at h
  split at h
  · obtain rfl := Except.ok.inj h
    exact (readsFit _).value hvalue
  · cases h

end SiteGen.Json
