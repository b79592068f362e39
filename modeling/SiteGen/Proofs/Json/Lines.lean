import SiteGen.Json.Writer

/-!
# The lines of a fixture

A document is laid out in lines. A value without parts is on one line. The parts of a list or an object are
on lines of their own between the brackets, indented by four blanks more than these, with a comma after all
but the last.

* `Json.lines`: the lines of a document.
* `Json.laid`: lines, each after a break with the blanks of a level.
* `Json.fixture_eq_lines`: a document is written in its lines.
-/

namespace SiteGen.Json

/-! ## Lines -/

/-- Lines with **four blanks** before each. -/
def indented (lines : List (List Char)) : List (List Char) := lines.map (List.replicate 4 ' ' ++ ·)

/-- Lines with a text before the first. -/
def headed (text : List Char) : List (List Char) → List (List Char)
  | [] => []
  | line :: lines => (text ++ line) :: lines

/-- Lines with a comma after the last. -/
def commaed : List (List Char) → List (List Char)
  | [] => []
  | [line] => [line ++ [',']]
  | line :: lines => line :: commaed lines

/-- The lines of several parts, with a comma after **all but the last**. -/
def separated : List (List (List Char)) → List (List Char)
  | [] => []
  | [part] => part
  | part :: parts => commaed part ++ separated parts

/-- The lines of parts **between brackets**. -/
def enclosed (left right : Char) (parts : List (List (List Char))) : List (List Char) :=
  if parts.isEmpty then [[left, right]] else [left] :: (indented (separated parts) ++ [[right]])

mutual

/-- **The lines** of a document. -/
def lines : Json → List (List Char)
  | .null => ["null".toList]
  | .bool b => [if b then "true".toList else "false".toList]
  | .number n => [n.text]
  | .string s => [writeString true s]
  | .array items => enclosed '[' ']' (itemLines items)
  | .object members => enclosed '\x7b' '\x7d' (memberLines members)

/-- The lines of each item. -/
def itemLines : List Json → List (List (List Char))
  | [] => []
  | item :: items => lines item :: itemLines items

/-- The lines of each member: the key is before the first line of the value. -/
def memberLines : List (String × Json) → List (List (List Char))
  | [] => []
  | (key, value) :: members =>
    headed (writeString true key ++ [':', ' ']) (lines value) :: memberLines members

end

/-! ## Lines after breaks -/

/-- The layout of fixtures. -/
def fixtureLayout : Layout := ⟨some 4, true⟩

/-- Lines, each **after a break** with the blanks of a level. -/
def laid (level : Nat) (lines : List (List Char)) : List Char :=
  lines.flatMap (fixtureLayout.lineBreak level ++ ·)

variable {level : Nat} {part : List (List Char)} {parts : List (List (List Char))}

theorem lineBreak_succ (level : Nat) :
    fixtureLayout.lineBreak (level + 1) = fixtureLayout.lineBreak level ++ List.replicate 4 ' ' := by
  show '\n' :: List.replicate (4 * (level + 1)) ' ' = '\n' :: List.replicate (4 * level) ' ' ++ _
  rw [Nat.mul_succ, ← List.replicate_append_replicate, List.cons_append]

theorem laid_append (level : Nat) (l m : List (List Char)) : laid level (l ++ m) = laid level l ++ laid level m :=
  List.flatMap_append

theorem laid_indented (level : Nat) (ls : List (List Char)) : laid level (indented ls) = laid (level + 1) ls := by
  rw [laid, laid, indented, List.flatMap_map, lineBreak_succ]
  simp only [List.append_assoc]

theorem laid_headed (text : List Char) {value : List Char}
    (h : fixtureLayout.lineBreak level ++ value = laid level part) (hpart : part ≠ []) :
    laid level (headed text part) = fixtureLayout.lineBreak level ++ (text ++ value) := by
  cases part with
  | nil => exact absurd rfl hpart
  | cons line rest =>
    rw [laid, List.flatMap_cons, List.append_assoc, List.append_cancel_left_eq] at h
    rw [h, headed, laid, List.flatMap_cons, List.append_assoc, List.append_assoc]

theorem laid_commaed (level : Nat) : ∀ {part : List (List Char)}, part ≠ [] →
    laid level (commaed part) = laid level part ++ [',']
  | [], h => absurd rfl h
  | [line], _ => by simp [commaed, laid]
  | line :: line' :: rest, _ => by
    have ih := laid_commaed level (List.cons_ne_nil line' rest)
    rw [commaed, laid, List.flatMap_cons, ← laid, ih, laid, laid, List.flatMap_cons, List.append_assoc]
    · simp
    · simp

theorem laid_separated (level : Nat) : ∀ {parts : List (List (List Char))} {part : List (List Char)},
    (∀ p ∈ part :: parts, p ≠ []) →
      laid level (separated (part :: parts)) = laid level part ++ parts.flatMap (',' :: laid level ·)
  | [], part, _ => by simp [separated]
  | next :: parts, part, h => by
    have ih := laid_separated level fun p hp => h p (List.mem_cons_of_mem _ hp)
    rw [separated, laid_append, laid_commaed level (h part List.mem_cons_self), ih]
    · simp
    · simp

theorem laid_enclosed (left right : Char) (h : ∀ p ∈ part :: parts, p ≠ []) :
    laid level (enclosed left right (part :: parts)) =
      fixtureLayout.lineBreak level ++ left :: (laid (level + 1) part ++
        (parts.flatMap (',' :: laid (level + 1) ·) ++ (fixtureLayout.lineBreak level ++ [right]))) := by
  rw [enclosed, if_neg (by simp), laid, List.flatMap_cons, ← laid, laid_append, laid_indented,
    laid_separated _ h]
  simp [laid]

/-! ## Writing -/

theorem enclosed_ne_nil (left right : Char) (parts : List (List (List Char))) : enclosed left right parts ≠ [] := by
  unfold enclosed
  split <;> simp

theorem lines_ne_nil (v : Json) : v.lines ≠ [] := by
  cases v with
  | array items =>
    rw [lines]
    exact enclosed_ne_nil _ _ _
  | object members =>
    rw [lines]
    exact enclosed_ne_nil _ _ _
  | _ => simp [lines]

theorem itemLines_ne_nil : ∀ (items : List Json), ∀ part ∈ itemLines items, part ≠ []
  | [], _, h => by simp [itemLines] at h
  | item :: items, part, h => by
    rw [itemLines] at h
    rcases List.mem_cons.mp h with rfl | h
    · exact lines_ne_nil item
    · exact itemLines_ne_nil items part h

theorem memberLines_ne_nil : ∀ (members : List (String × Json)), ∀ part ∈ memberLines members, part ≠ []
  | [], _, h => by simp [memberLines] at h
  | (key, value) :: members, part, h => by
    rw [memberLines] at h
    rcases List.mem_cons.mp h with rfl | h
    · cases hlines : lines value with
      | nil => exact absurd hlines (lines_ne_nil value)
      | cons line rest => simp [headed]
    · exact memberLines_ne_nil members part h

mutual

/-- A value is written **in its lines**, at every level. -/
theorem write_eq_lines (level : Nat) : ∀ v : Json,
    fixtureLayout.lineBreak level ++ write fixtureLayout level v = laid level v.lines
  | .null => by simp [write, lines, laid]
  | .bool b => by simp [write, lines, laid]
  | .number n => by simp [write, lines, laid]
  | .string s => by simp [write, lines, laid, fixtureLayout]
  | .array [] => by simp [write, lines, laid, itemLines, enclosed]
  | .array (item :: items) => by
    have hparts : ∀ p ∈ lines item :: itemLines items, p ≠ [] := itemLines_ne_nil (item :: items)
    rw [lines, itemLines, laid_enclosed _ _ hparts, write, writeItems_eq_lines, ← write_eq_lines (level + 1) item,
      List.append_assoc]
  | .object [] => by simp [write, lines, laid, memberLines, enclosed]
  | .object ((key, value) :: members) => by
    have hparts : ∀ p ∈ headed (writeString true key ++ [':', ' ']) (lines value) :: memberLines members, p ≠ [] :=
      memberLines_ne_nil ((key, value) :: members)
    rw [lines, memberLines, laid_enclosed _ _ hparts, write, writeMembers_eq_lines,
      laid_headed _ (write_eq_lines (level + 1) value) (lines_ne_nil value)]
    simp [fixtureLayout, Layout.colon]

theorem writeItems_eq_lines (level : Nat) : ∀ items : List Json,
    writeItems fixtureLayout level items = (itemLines items).flatMap (',' :: laid level ·)
  | [] => by simp [writeItems, itemLines]
  | item :: items => by
    rw [writeItems, itemLines, List.flatMap_cons, writeItems_eq_lines level items, ← write_eq_lines level item]
    simp

theorem writeMembers_eq_lines (level : Nat) : ∀ members : List (String × Json),
    writeMembers fixtureLayout level members = (memberLines members).flatMap (',' :: laid level ·)
  | [] => by simp [writeMembers, memberLines]
  | (key, value) :: members => by
    rw [writeMembers, memberLines, List.flatMap_cons, writeMembers_eq_lines level members,
      laid_headed _ (write_eq_lines level value) (lines_ne_nil value)]
    simp [fixtureLayout, Layout.colon]

end

/-- **The fixture of a document** is the document in its lines. -/
theorem fixture_eq_lines (v : Json) : v.fixture.toList = ['\n'].intercalate v.lines := by
  have hwrite : '\n' :: write fixtureLayout 0 v = v.lines.flatMap ('\n' :: ·) := write_eq_lines 0 v
  have hlines : ∀ ls : List (List Char), ls ≠ [] → '\n' :: ['\n'].intercalate ls = ls.flatMap ('\n' :: ·) := by
    intro ls
    induction ls with
    | nil => intro h; exact absurd rfl h
    | cons line rest ih =>
      intro _
      cases rest with
      | nil => simp
      | cons next rest =>
        rw [List.intercalate_cons_cons, List.flatMap_cons, ← ih (List.cons_ne_nil _ _)]
        simp
  rw [← hlines _ (lines_ne_nil v)] at hwrite
  rw [fixture, String.toList_ofList]
  exact (List.cons.inj hwrite).2

end SiteGen.Json
