import Mathlib.Data.List.DropRight
import SiteGen.Disk.Resolve

/-!
# The trail of a path

Without links a path leads where its segments say: a name goes down, two dots go up. Its end and the
places that it goes down to are its **trail**; what is there decides whether the path can be followed
at all. Where it starts, and where it goes up to, does not matter.

* `Path.follow` and `Path.passed`: the place to which segments lead, and the places they pass.
* `Path.place` and `Path.trail`: the same for a path, from where it starts.
* `Path.Descends`: a path that only goes down.
* `Path.place_join`, `Path.mem_trail_join`: continuing a path downwards continues its trail.
-/

namespace SiteGen.Path

/-! ## Names -/

/-- A **plain** name is one part of a path: it is not empty, not dots, and has no slash. -/
structure IsPlainName (name : String) : Prop where
  ne_empty : name ≠ ""
  ne_dot : name ≠ "."
  ne_dots : name ≠ ".."
  no_slash : '/' ∉ name.toList

theorem isPlainName_iff {name : String} :
    IsPlainName name ↔ (name ≠ "" ∧ name ≠ "." ∧ name ≠ "..") ∧ '/' ∉ name.toList :=
  ⟨fun h => ⟨⟨h.ne_empty, h.ne_dot, h.ne_dots⟩, h.no_slash⟩,
    fun ⟨⟨hempty, hdot, hdots⟩, hslash⟩ => ⟨hempty, hdot, hdots, hslash⟩⟩

instance (name : String) : Decidable (IsPlainName name) := decidable_of_iff' _ isPlainName_iff

theorem IsPlainName.not_idle {name : String} (h : IsPlainName name) : isIdle name = false := by
  simp [isIdle, h.ne_empty, h.ne_dot]

theorem split_ne_nil : ∀ text : List Char, split text ≠ []
  | [] => by simp [split]
  | c :: rest => by
    have ih := split_ne_nil rest
    unfold split
    split
    · simp
    · split <;> simp_all

theorem split_of_no_slash : ∀ {text : List Char}, '/' ∉ text → split text = [text]
  | [], _ => rfl
  | c :: rest, h => by
    rw [List.mem_cons, not_or] at h
    rw [split, if_neg (Ne.symm h.1), split_of_no_slash h.2]

theorem no_slash_of_mem_split : ∀ {text segment : List Char}, segment ∈ split text → '/' ∉ segment
  | [], segment, h => by
    simp only [split, List.mem_singleton] at h
    simp [h]
  | c :: rest, segment, h => by
    have ih := fun s (hs : s ∈ split rest) => no_slash_of_mem_split hs
    by_cases hc : c = '/'
    · rw [split, if_pos hc, List.mem_cons] at h
      rcases h with rfl | h
      · simp
      · exact ih segment h
    · rw [split, if_neg hc] at h
      cases hs : split rest with
      | nil => exact absurd hs (split_ne_nil rest)
      | cons first others =>
        rw [hs] at h ih
        rcases List.mem_cons.mp h with rfl | h
        · rw [List.mem_cons, not_or]
          exact ⟨Ne.symm hc, ih first List.mem_cons_self⟩
        · exact ih segment (List.mem_cons_of_mem _ h)

theorem segments_ofText_ne_nil (text : String) : (ofText text).segments ≠ [] := by
  simp [ofText, split_ne_nil]

theorem no_slash_of_mem_ofText {text segment : String} (h : segment ∈ (ofText text).segments) :
    '/' ∉ segment.toList := by
  obtain ⟨chars, hc, rfl⟩ := List.mem_map.mp h
  rw [String.toList_ofList]
  exact no_slash_of_mem_split hc

theorem IsPlainName.ofText {name : String} (h : IsPlainName name) : ofText name = ⟨[name]⟩ := by
  simp [Path.ofText, split_of_no_slash h.no_slash]

/-- A path is **normal** if all its parts are names: it starts nowhere special and never goes up. -/
def IsNormal (p : Path) : Prop := ∀ part ∈ p.parts, ∃ name, part = .name name

/-- The segments of a path that count. -/
def steps (p : Path) : List String := p.segments.filter (!isIdle ·)

/-! ## Following segments -/

/-- The place to which segments lead from a place. -/
def follow (place : Place) : List String → Place
  | [] => place
  | segment :: rest =>
    if isIdle segment then follow place rest
    else if segment = ".." then follow place.dropLast rest
    else follow (place ++ [segment]) rest

/-- The places that segments **go down to** on their way from a place. -/
def passed (place : Place) : List String → List Place
  | [] => []
  | segment :: rest =>
    if isIdle segment then passed place rest
    else if segment = ".." then passed place.dropLast rest
    else (place ++ [segment]) :: passed (place ++ [segment]) rest

theorem follow_idle_cons {segment : String} (h : isIdle segment = true) (place : Place)
    (rest : List String) : follow place (segment :: rest) = follow place rest := by
  rw [follow, if_pos h]

theorem follow_up (place : Place) (rest : List String) :
    follow place (".." :: rest) = follow place.dropLast rest := by
  rw [follow, if_neg (by decide), if_pos rfl]

theorem follow_name {segment : String} (h : isIdle segment = false) (hup : segment ≠ "..")
    (place : Place) (rest : List String) :
    follow place (segment :: rest) = follow (place ++ [segment]) rest := by
  rw [follow, if_neg (by simp [h]), if_neg hup]

theorem follow_append (place : Place) (l m : List String) :
    follow place (l ++ m) = follow (follow place l) m := by
  induction l generalizing place with
  | nil => rfl
  | cons segment rest ih =>
    simp only [List.cons_append, follow]
    split
    · exact ih place
    · split
      · exact ih _
      · exact ih _

theorem passed_append (place : Place) (l m : List String) :
    passed place (l ++ m) = passed place l ++ passed (follow place l) m := by
  induction l generalizing place with
  | nil => rfl
  | cons segment rest ih =>
    simp only [List.cons_append, passed, follow]
    split
    · exact ih place
    · split
      · exact ih _
      · rw [List.cons_append, ih]

theorem follow_idle {l : List String} (h : ∀ s ∈ l, isIdle s = true) (place : Place) :
    follow place l = place := by
  induction l with
  | nil => rfl
  | cons segment rest ih =>
    rw [follow, if_pos (h segment List.mem_cons_self)]
    exact ih fun s hs => h s (List.mem_cons_of_mem _ hs)

theorem passed_idle {l : List String} (h : ∀ s ∈ l, isIdle s = true) (place : Place) :
    passed place l = [] := by
  induction l with
  | nil => rfl
  | cons segment rest ih =>
    rw [passed, if_pos (h segment List.mem_cons_self)]
    exact ih fun s hs => h s (List.mem_cons_of_mem _ hs)

theorem follow_down {l : List String} (h : ".." ∉ l) (place : Place) :
    follow place l = place ++ l.filter (!isIdle ·) := by
  induction l generalizing place with
  | nil => simp [follow]
  | cons segment rest ih =>
    rw [List.mem_cons, not_or] at h
    rw [follow]
    by_cases hs : isIdle segment = true
    · rw [if_pos hs, ih h.2, List.filter_cons_of_neg (by simp [hs])]
    · rw [if_neg hs, if_neg (Ne.symm h.1), ih h.2, List.filter_cons_of_pos (by simpa using hs),
        List.append_assoc, List.singleton_append]

theorem mem_passed_down {l : List String} (h : ".." ∉ l) {place q : Place} :
    q ∈ passed place l ↔ ∃ m, m ≠ [] ∧ m <+: l.filter (!isIdle ·) ∧ q = place ++ m := by
  induction l generalizing place with
  | nil => simp [passed]
  | cons segment rest ih =>
    rw [List.mem_cons, not_or] at h
    rw [passed]
    by_cases hs : isIdle segment = true
    · rw [if_pos hs, ih h.2, List.filter_cons_of_neg (by simp [hs])]
    · rw [if_neg hs, if_neg (Ne.symm h.1), List.mem_cons, ih h.2,
        List.filter_cons_of_pos (by simpa using hs)]
      constructor
      · rintro (rfl | ⟨m, _, hm, rfl⟩)
        · exact ⟨[segment], by simp, by simp, rfl⟩
        · exact ⟨segment :: m, by simp, by simpa using hm, by simp⟩
      · rintro ⟨m, hne, hm, rfl⟩
        cases m with
        | nil => exact absurd rfl hne
        | cons first others =>
          obtain ⟨rfl, ho⟩ := List.cons_prefix_cons.mp hm
          cases others with
          | nil => exact Or.inl rfl
          | cons a b => exact Or.inr ⟨a :: b, by simp, ho, by simp⟩

theorem passed_plain {name : String} (h : IsPlainName name) (place : Place) :
    passed place [name] = [place ++ [name]] := by
  simp [passed, h.not_idle, h.ne_dots]

theorem follow_plain {name : String} (h : IsPlainName name) (place : Place) :
    follow place [name] = place ++ [name] := by
  simp [follow, h.not_idle, h.ne_dots]

theorem filter_plain {names : List String} (h : ∀ n ∈ names, IsPlainName n) :
    names.filter (!isIdle ·) = names :=
  List.filter_eq_self.mpr fun n hn => by simp [(h n hn).not_idle]

theorem not_mem_dots {names : List String} (h : ∀ n ∈ names, IsPlainName n) : ".." ∉ names :=
  fun hm => (h _ hm).ne_dots rfl

theorem follow_names {names : List String} (h : ∀ n ∈ names, IsPlainName n) (place : Place) :
    follow place names = place ++ names := by
  rw [follow_down (not_mem_dots h), filter_plain h]

/-! ## The trail -/

/-- Where a path starts. -/
def start (home : Place) (p : Path) : Place := if p.isAbsolute then [] else home

/-- The place to which a path leads. -/
def place (home : Place) (p : Path) : Place := follow (p.start home) p.segments

/-- The **trail** of a path: the place to which it leads, and the places it goes down to. -/
def trail (home : Place) (p : Path) : List Place := p.place home :: passed (p.start home) p.segments

theorem isAbsolute_iff {p : Path} :
    p.isAbsolute = true ↔ ∃ s rest, p.segments = "" :: s :: rest := by
  unfold isAbsolute
  split
  · next s rest h => simp [h]
  · next h =>
    simp only [Bool.false_eq_true, false_iff, not_exists]
    exact h

theorem IsNormal.notAbsolute {p : Path} (h : p.IsNormal) : p.isAbsolute = false := by
  cases ha : p.isAbsolute with
  | false => rfl
  | true =>
    obtain ⟨name, hn⟩ := h .root (by simp [parts, head, ha])
    cases hn

theorem IsNormal.noDots {p : Path} (h : p.IsNormal) : ".." ∉ p.segments := by
  intro hm
  have hh : p.head = ([], 0) := by
    unfold head
    rw [h.notAbsolute]
    simp only [Bool.false_eq_true, if_false]
    split
    · next rest hs =>
      obtain ⟨name, hn⟩ := h .here (by simp [parts, head, h.notAbsolute, hs])
      cases hn
    · rfl
  obtain ⟨name, hn⟩ := h .up (by
    unfold parts
    rw [hh]
    simp only [List.drop_zero, List.nil_append]
    exact List.mem_map.mpr ⟨"..", List.mem_filter.mpr ⟨hm, by decide⟩, by decide⟩)
  cases hn

/-- What a path may be continued by: a path that does not start anew and is not without segments. -/
structure Continues (q : Path) : Prop where
  notAbsolute : q.isAbsolute = false
  segments_ne_nil : q.segments ≠ []

theorem continues_single (name : String) : Continues ⟨[name]⟩ :=
  ⟨by simp [isAbsolute], by simp⟩

theorem continues_names {names : List String} (hne : names ≠ [])
    (h : ∀ n ∈ names, IsPlainName n) : Continues ⟨names⟩ := by
  refine ⟨?_, hne⟩
  rw [Bool.eq_false_iff, ne_eq, isAbsolute_iff]
  rintro ⟨s, rest, rfl⟩
  exact (h "" List.mem_cons_self).ne_empty rfl

/-- Whether a path **only goes down**, by names without slashes. -/
structure Descends (q : Path) : Prop extends Continues q where
  noDots : ".." ∉ q.segments
  noSlash : ∀ s ∈ q.segments, '/' ∉ s.toList

theorem descends_names {names : List String} (hne : names ≠ [])
    (h : ∀ n ∈ names, IsPlainName n) : Descends ⟨names⟩ :=
  ⟨continues_names hne h, not_mem_dots h, fun n hn => (h n hn).no_slash⟩

theorem descends_single {name : String} (h : IsPlainName name) : Descends ⟨[name]⟩ :=
  descends_names (by simp) (by simpa using h)

theorem descends_slash {names : List String} (hne : names ≠ [])
    (h : ∀ n ∈ names, IsPlainName n) : Descends ⟨names ++ [""]⟩ := by
  obtain ⟨first, others, rfl⟩ := List.exists_cons_of_ne_nil hne
  refine ⟨⟨?_, by simp⟩, ?_, fun s hs => ?_⟩
  · rw [Bool.eq_false_iff, ne_eq, isAbsolute_iff]
    rintro ⟨s, rest, hs⟩
    exact (h first List.mem_cons_self).ne_empty (List.cons.inj hs).1
  · rw [List.mem_append, not_or]
    exact ⟨not_mem_dots h, by decide⟩
  · rcases List.mem_append.mp hs with hs | hs
    · exact (h s hs).no_slash
    · rw [List.mem_singleton.mp hs]
      decide

theorem IsNormal.descends {text : String} (h : (ofText text).IsNormal) : Descends (ofText text) where
  notAbsolute := h.notAbsolute
  segments_ne_nil := segments_ofText_ne_nil text
  noDots := h.noDots
  noSlash := fun _ hs => no_slash_of_mem_ofText hs

section Join

variable {p q : Path} (home : Place)

theorem exists_segments_join (p : Path) : ∃ l, (p.segments = l ∨ p.segments = l ++ [""]) ∧
    ∀ q : Path, Continues q → (p.join q).segments = l ++ q.segments := by
  by_cases h : p.segments.getLast? = some ""
  · refine ⟨p.segments.dropLast, Or.inr (List.dropLast_append_getLast? "" h).symm, fun q hq => ?_⟩
    simp [join, hq.notAbsolute, h]
  · exact ⟨p.segments, Or.inl rfl, fun q hq => by simp [join, hq.notAbsolute, h]⟩

theorem segments_join (hq : Continues q) :
    ∃ l, (p.join q).segments = l ++ q.segments ∧ (p.segments = l ∨ p.segments = l ++ [""]) := by
  obtain ⟨l, hp, hl⟩ := exists_segments_join p
  exact ⟨l, hl q hq, hp⟩

theorem segments_join_of_ne (hq : Continues q) (h : p.segments.getLast? ≠ some "") :
    (p.join q).segments = p.segments ++ q.segments := by
  unfold join
  rw [hq.notAbsolute]
  simp [h]

theorem isAbsolute_join (hq : Continues q) : (p.join q).isAbsolute = p.isAbsolute := by
  rw [Bool.eq_iff_iff, isAbsolute_iff, isAbsolute_iff]
  obtain ⟨s, t, hs⟩ := List.exists_cons_of_ne_nil hq.segments_ne_nil
  have hqa : ¬∃ s rest, q.segments = "" :: s :: rest := by
    rw [← isAbsolute_iff, hq.notAbsolute]
    simp
  unfold join
  rw [hq.notAbsolute]
  simp only [Bool.false_eq_true, if_false]
  rcases hp : p.segments with _ | ⟨a, _ | ⟨b, rest⟩⟩
  · simpa using hqa
  · by_cases ha : a = ""
    · simpa [ha] using hqa
    · simp [ha]
  · by_cases hl : (a :: b :: rest).getLast? = some ""
    · rw [if_pos (by simpa using hl), hs]
      cases rest <;> simp
    · rw [if_neg (by simpa using hl)]
      simp

theorem start_join (hq : Continues q) : (p.join q).start home = p.start home := by
  rw [start, start, isAbsolute_join hq]

theorem place_join (hq : Continues q) : (p.join q).place home = follow (p.place home) q.segments := by
  obtain ⟨l, hl, hp⟩ := segments_join (p := p) hq
  rw [place, place, start_join home hq, hl, follow_append]
  rcases hp with hp | hp
  · rw [hp]
  · rw [hp, follow_append, follow_idle (l := [""]) (by simp [isIdle])]

theorem passed_join (hq : Continues q) :
    passed ((p.join q).start home) (p.join q).segments =
      passed (p.start home) p.segments ++ passed (p.place home) q.segments := by
  obtain ⟨l, hl, hp⟩ := segments_join (p := p) hq
  rw [place, start_join home hq, hl, passed_append]
  rcases hp with hp | hp
  · rw [hp]
  · rw [hp, follow_append, passed_append, follow_idle (l := [""]) (by simp [isIdle]),
      passed_idle (l := [""]) (by simp [isIdle]), List.append_nil]

theorem place_down (hq : Descends q) : (p.join q).place home = p.place home ++ q.steps := by
  rw [place_join home hq.toContinues, follow_down hq.noDots, steps]

/-- The trail of a path continued downwards: it goes on below the place of the path. -/
theorem mem_trail_join (hq : Descends q) {x : Place} (h : x ∈ (p.join q).trail home) :
    x ∈ p.trail home ∨ ∃ names, names ≠ [] ∧ names <+: q.steps ∧ x = p.place home ++ names := by
  rw [trail, passed_join home hq.toContinues, List.mem_cons, List.mem_append,
    mem_passed_down hq.noDots] at h
  rcases h with rfl | h | h
  · rw [place_down home hq]
    by_cases hs : q.steps = []
    · rw [hs, List.append_nil]
      exact Or.inl List.mem_cons_self
    · exact Or.inr ⟨q.steps, hs, List.prefix_refl _, rfl⟩
  · exact Or.inl (List.mem_cons_of_mem _ h)
  · exact Or.inr h

theorem mem_trail_of_prefix (hq : Descends q) {names : List String} (hne : names ≠ [])
    (h : names <+: q.steps) : p.place home ++ names ∈ (p.join q).trail home := by
  rw [trail, passed_join home hq.toContinues, List.mem_cons, List.mem_append,
    mem_passed_down hq.noDots]
  exact Or.inr (Or.inr ⟨names, hne, h, rfl⟩)

theorem place_names {names : List String} (hne : names ≠ []) (hn : ∀ n ∈ names, IsPlainName n) :
    (p.join ⟨names⟩).place home = p.place home ++ names := by
  rw [place_down home (descends_names hne hn)]
  exact congrArg _ (filter_plain hn)

theorem place_child {name : String} (h : IsPlainName name) :
    (p.join ⟨[name]⟩).place home = p.place home ++ [name] := by
  rw [place_join home (continues_single name), follow_plain h]

theorem mem_trail_child {name : String} (h : IsPlainName name) {x : Place}
    (hx : x ∈ (p.join ⟨[name]⟩).trail home) : x ∈ p.trail home ∨ x = p.place home ++ [name] := by
  rw [trail, passed_join home (continues_single name), place_child home h, passed_plain h,
    List.mem_cons, List.mem_append, List.mem_singleton] at hx
  rcases hx with hx | hx | hx
  · exact Or.inr hx
  · exact Or.inl (List.mem_cons_of_mem _ hx)
  · exact Or.inr hx

end Join

end SiteGen.Path
