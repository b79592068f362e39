import SiteGen.Proofs.Disk.Linked
import SiteGen.Proofs.Run.Result
import SiteGen.Proofs.Run.Texts

/-!
# Overwriting files

A file that is found may be overwritten, and is still found afterwards.

* `Disk.resolve_insert_file`: no path leads elsewhere because a file is overwritten.
* `Disk.writeText_of_readText`: a path by which a text is read may be used to overwrite it.
* `Disk.hasFile_insert_file`, `Disk.readText_insert_file`, `Disk.hasText_insert_file`: what other paths find and
  read afterwards.
-/

namespace SiteGen.Disk

variable {d d' : Disk} {p : Path} {q : Place} {content : ByteArray} {purpose : Purpose} {links : Nat}

/-! ## Where paths lead -/

theorem ne_nil_of_file (hq : d.find? q = some (.file content)) : q ≠ [] := by
  rintro rfl
  cases hq

/-- A path leads where it did if the links on it do. -/
theorem resolve_insert_of_jump (hq : d.find? q = some (.file content)) {new : ByteArray}
    (hjump : ∀ place segments, (d.insert q (.file new)).jump purpose links place segments =
      d.jump purpose links place segments) (place : Place) (segments : List String) :
    (d.insert q (.file new)).resolve purpose links place segments =
      d.resolve purpose links place segments := by
  induction segments generalizing place with
  | nil => rw [resolve_nil, resolve_nil]
  | cons segment rest ih =>
    rw [resolve_cons, resolve_cons]
    simp only [ih, hjump, find?_insert _ _ _ _ (ne_nil_of_file hq)]
    by_cases heq : q = place ++ [segment]
    · rw [if_pos heq, ← heq, hq]
    · rw [if_neg heq]

/-- **No path leads elsewhere** because a file is overwritten. -/
theorem resolve_insert_file (hq : d.find? q = some (.file content)) (new : ByteArray) (place : Place)
    (segments : List String) : (d.insert q (.file new)).resolve purpose links place segments =
      d.resolve purpose links place segments := by
  induction links generalizing place segments with
  | zero => exact resolve_insert_of_jump hq (fun _ _ => rfl) place segments
  | succ links ih =>
    have hjump : ∀ place segments, (d.insert q (.file new)).jump purpose (links + 1) place segments =
        d.jump purpose (links + 1) place segments := ih
    exact resolve_insert_of_jump hq hjump place segments

/-! ## Reading and overwriting -/

theorem locate_of_readText {text : String} (h : d.readText p = .ok text) :
    ∃ q content, d.locate .use p = .ok q ∧ d.find? q = some (.file content) := by
  unfold readText readBytes look lookFor at h
  obtain ⟨bytes, h, -⟩ := ok_of_bind h
  obtain ⟨⟨q, e⟩, hlook, h⟩ := ok_of_bind h
  obtain ⟨place, hplace, hlook⟩ := ok_of_bind hlook
  split at hlook
  · next e' he =>
    obtain ⟨rfl, rfl⟩ := Prod.mk.inj (Except.ok.inj hlook)
    cases e' with
    | file content => exact ⟨place, content, hplace, he⟩
    | directory => cases h
    | link target => cases h
  · cases hlook

theorem locate_insert_file (hq : d.find? q = some (.file content)) (new : ByteArray) (p : Path) :
    (d.insert q (.file new)).locate purpose p = d.locate purpose p := by
  cases ha : p.accept with
  | error fault => rw [locate_of_refused ha, locate_of_refused ha]
  | ok u =>
    have haccepted := Path.accept_eq_ok.mp ha
    rw [locate_of_accepted haccepted, locate_of_accepted haccepted, resolve_insert_file hq]
    rfl

theorem locate_make (hq : d.find? q = some (.file content)) (h : d.locate .use p = .ok q) :
    d.locate .make p = .ok q := by
  obtain ⟨haccepted, hr⟩ := locate_eq_ok.mp h
  exact locate_eq_ok.mpr ⟨haccepted, ((way_of_resolve hr).of_file hq (by simp)).resolve⟩

/-- Overwriting the file by which a text is read **writes it where it is**. -/
theorem writeText_eq {text : String} (h : d.readText p = .ok text) (new : String) :
    ∃ q content, d.locate .use p = .ok q ∧ d.find? q = some (.file content) ∧
      d.writeText p new = .ok (d.insert q (.file new.toUTF8)) := by
  obtain ⟨q, content, hplace, hq⟩ := locate_of_readText h
  refine ⟨q, content, hplace, hq, ?_⟩
  unfold writeText writeBytes
  rw [locate_make hq hplace]
  simp only [bind, Except.bind, hq]

/-- **A path by which a text is read** may be used to overwrite it, and then reads the new text. -/
theorem writeText_of_readText {text : String} (h : d.readText p = .ok text) (new : String) :
    ∃ d', d.writeText p new = .ok d' ∧ d'.readText p = .ok new ∧ d'.readBytes p = .ok new.toUTF8 := by
  obtain ⟨q, content, hplace, hq, hwrite⟩ := writeText_eq h new
  have hbytes : (d.insert q (.file new.toUTF8)).readBytes p = .ok new.toUTF8 := by
    unfold readBytes look lookFor
    rw [locate_insert_file hq, hplace]
    simp only [bind, Except.bind, find?_insert _ _ _ _ (ne_nil_of_file hq), if_true]
  refine ⟨_, hwrite, ?_, hbytes⟩
  unfold readText
  rw [hbytes]
  simp only [bind, Except.bind, fromUTF8?_toUTF8]

/-! ## What other paths find -/

theorem lookFor_insert_file (hq : d.find? q = some (.file content)) (new : ByteArray) (p : Path) :
    (d.insert q (.file new)).lookFor purpose p =
      (d.lookFor purpose p).map fun r => if r.1 = q then (q, .file new) else r := by
  unfold lookFor
  rw [locate_insert_file hq]
  cases d.locate purpose p with
  | error fault => rfl
  | ok x =>
    simp only [bind, Except.bind, find?_insert _ _ _ _ (ne_nil_of_file hq)]
    by_cases hx : q = x
    · subst hx
      simp [hq, Except.map]
    · rw [if_neg hx]
      cases d.find? x with
      | none => rfl
      | some e => simp [Except.map, Ne.symm hx]

/-- No file appears or vanishes because one is overwritten. -/
theorem hasFile_insert_file (hq : d.find? q = some (.file content)) (new : ByteArray) (p : Path) :
    (d.insert q (.file new)).hasFile p = d.hasFile p := by
  unfold hasFile look
  rw [lookFor_insert_file hq]
  cases h : d.lookFor .use p with
  | error fault => rfl
  | ok r =>
    by_cases hr : r.1 = q
    · have hfile : r.2 = .file content := Option.some.inj ((lookFor_eq_ok.mp h).2.symm.trans (hr ▸ hq))
      simp [Except.map, Except.toOption, hr, hfile, Entry.isFile]
    · simp [Except.map, hr]

/-- What any path reads after a file has been overwritten: **what it read before**, or the new text. -/
theorem readText_insert_file (hq : d.find? q = some (.file content)) (new : String) (p : Path) :
    (d.insert q (.file new.toUTF8)).readText p = d.readText p ∨
      (d.insert q (.file new.toUTF8)).readText p = .ok new := by
  unfold readText readBytes look
  rw [lookFor_insert_file hq]
  cases d.lookFor .use p with
  | error fault => exact Or.inl rfl
  | ok r =>
    by_cases hr : r.1 = q
    · refine Or.inr ?_
      simp only [Except.map, if_pos hr, bind, Except.bind, fromUTF8?_toUTF8]
    · refine Or.inl ?_
      simp only [Except.map, if_neg hr]

/-! ## Trees -/

/-- A tree with a file overwritten **is a tree**. -/
theorem IsTree.insert_file (h : d.IsTree) (hq : d.find? q = some (.file content)) (new : ByteArray) :
    (d.insert q (.file new)).IsTree := by
  obtain ⟨above, name, rfl⟩ : ∃ above name, q = above ++ [name] :=
    ⟨_, _, (List.dropLast_append_getLast (ne_nil_of_file hq)).symm⟩
  have hsome : (d.find? (above ++ [name])).isSome := by rw [hq]; rfl
  refine h.insert (h.parent _ _ hsome) (h.name _ _ hsome) (by simp) fun hdir => ?_
  rw [hq] at hdir
  cases hdir

/-- **The same paths** lead to texts after a text has been overwritten by another one. -/
theorem hasText_insert_file (hd : d.Linkless) {old : String} (hq : d.find? q = some (.file old.toUTF8))
    (new : String) (p : Path) : (d.insert q (.file new.toUTF8)).HasText p ↔ d.HasText p := by
  rw [hasText_iff hd, hasText_iff (hd.insert_file q _), hasFile_insert_file hq]
  simp only [find?_insert _ _ _ _ (ne_nil_of_file hq)]
  change _ ∧ (∃ text : String, (if q = p.place d.home then _ else _) = _) ↔ _
  by_cases hx : q = p.place d.home
  · subst hx
    simp [hq]
  · rw [if_neg hx]
    rfl

end SiteGen.Disk
