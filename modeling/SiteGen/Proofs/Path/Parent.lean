import SiteGen.Disk.Operations
import SiteGen.Proofs.Path.Trail

/-!
# The path above a path

* `Path.join_join`: a path may be continued in one step or in several.
* `Path.parent?_append`: dropping the last name of a path leaves the segments before it.
* `Path.ancestorsFrom_concat`: the paths above a path that goes down from another one.
* `Path.withoutSlash_append`: slashes at the end of a path are left out.
-/

namespace SiteGen.Path

/-! ## Paths that end in a name -/

/-- Whether a path **ends in a segment that counts**. -/
def EndsInStep (p : Path) : Prop := ∃ l m, p.segments = l ++ [m] ∧ isIdle m = false

theorem ne_empty_of_not_idle {m : String} (h : isIdle m = false) : m ≠ "" := by
  rintro rfl
  exact absurd h (by decide)

namespace EndsInStep

variable {p q : Path}

theorem getLast?_ne (h : p.EndsInStep) : p.segments.getLast? ≠ some "" := by
  obtain ⟨l, m, hp, hm⟩ := h
  rw [hp, List.getLast?_concat]
  intro he
  exact ne_empty_of_not_idle hm (Option.some.inj he)

theorem segments_join (h : p.EndsInStep) (hq : Continues q) :
    (p.join q).segments = p.segments ++ q.segments := segments_join_of_ne hq h.getLast?_ne

theorem ne_nil (h : p.EndsInStep) : p.segments ≠ [] := by
  obtain ⟨l, m, hp, -⟩ := h
  simp [hp]

end EndsInStep

theorem endsInStep_join {p : Path} {l : List String} {m : String} (hq : Continues ⟨l ++ [m]⟩)
    (hm : isIdle m = false) : (p.join ⟨l ++ [m]⟩).EndsInStep := by
  obtain ⟨k, hk, -⟩ := segments_join (p := p) hq
  exact ⟨k ++ l, m, by rw [hk, List.append_assoc], hm⟩

theorem endsInStep_child {p : Path} {name : String} (h : IsPlainName name) :
    (p.join ⟨[name]⟩).EndsInStep := endsInStep_join (l := []) (continues_single name) h.not_idle

theorem join_join {p : Path} {l m : List String} (hl : Continues ⟨l⟩)
    (hlast : l.getLast? ≠ some "") (hm : Continues ⟨m⟩) :
    (p.join ⟨l⟩).join ⟨m⟩ = p.join ⟨l ++ m⟩ := by
  have hlm : Continues ⟨l ++ m⟩ := by
    refine ⟨?_, by simp [hl.segments_ne_nil]⟩
    have hl' : l ≠ [] := hl.segments_ne_nil
    rw [Bool.eq_false_iff, ne_eq, isAbsolute_iff]
    rintro ⟨s, rest, hs⟩
    rcases l with _ | ⟨a, _ | ⟨b, k⟩⟩
    · exact hl' rfl
    · obtain rfl : a = "" := (List.cons.inj hs).1
      exact hlast rfl
    · obtain rfl : a = "" := (List.cons.inj hs).1
      exact absurd hl.notAbsolute (by simp [isAbsolute])
  have hl' : l ≠ [] := hl.segments_ne_nil
  have happ : ∀ k : List String, ((k ++ l).getLast? == some "") = false := fun k => by
    rw [List.getLast?_append_of_ne_nil k hl']
    simpa using hlast
  unfold join
  rw [hl.notAbsolute, hm.notAbsolute, hlm.notAbsolute]
  simp only [Bool.false_eq_true, if_false]
  by_cases h : (p.segments.getLast? == some "") = true
  · simp only [if_pos h, happ, Bool.false_eq_true, if_false, List.append_assoc]
  · simp only [if_neg h, happ, Bool.false_eq_true, if_false, List.append_assoc]

/-! ## Idle segments -/

theorem trimIdle_append (l : List String) :
    ∃ rest, l = trimIdle l ++ rest ∧ ∀ s ∈ rest, isIdle s = true :=
  ⟨l.rtakeWhile isIdle, (List.rdropWhile_append_rtakeWhile ..).symm,
    fun _ hs => List.mem_rtakeWhile_imp hs⟩

theorem trimIdle_isPrefix (l : List String) : trimIdle l <+: l := List.rdropWhile_prefix ..

theorem trimIdle_concat {l : List String} {m : String} (h : isIdle m = false) :
    trimIdle (l ++ [m]) = l ++ [m] :=
  List.rdropWhile_concat_neg _ _ _ (by simp [h])

theorem trimIdle_getLast {l : List String} {s : String} (h : (trimIdle l).getLast? = some s) :
    isIdle s = false := by
  have hne : trimIdle l ≠ [] := by
    intro hnil
    rw [hnil] at h
    cases h
  have hlast : ¬isIdle ((trimIdle l).getLast hne) = true := List.rdropWhile_last_not isIdle l hne
  rw [List.getLast?_eq_some_getLast hne] at h
  rw [← Option.some.inj h]
  simpa using hlast

theorem trimIdle_append_cons {l k : List String} {m : String} (h : isIdle m = false) :
    trimIdle (l ++ m :: k) = l ++ m :: trimIdle k := by
  induction k using List.reverseRecOn with
  | nil => exact trimIdle_concat h
  | append_singleton k s ih =>
    rw [← List.cons_append, ← List.append_assoc]
    unfold trimIdle at ih ⊢
    simp only [List.reverse_append, List.reverse_cons, List.reverse_nil, List.nil_append,
      List.cons_append, List.dropWhile_cons] at ih ⊢
    split
    · exact ih
    · simp

theorem steps_trimIdle (l : List String) :
    (trimIdle l).filter (!isIdle ·) = l.filter (!isIdle ·) := by
  obtain ⟨rest, hl, hr⟩ := trimIdle_append l
  have hnil : rest.filter (!isIdle ·) = [] := List.filter_eq_nil_iff.mpr fun s hs => by simp [hr s hs]
  conv_rhs => rw [hl]
  rw [List.filter_append, hnil, List.append_nil]

/-! ## The head of a path -/

theorem head_cases (p : Path) :
    (p.isAbsolute = true ∧ p.head = ([.root], 1) ∧ p.segments = "" :: p.segments.drop 1) ∨
    (p.isAbsolute = false ∧ p.head = ([.here], 1) ∧ p.segments = "." :: p.segments.drop 1) ∨
    (p.isAbsolute = false ∧ p.head = ([], 0)) := by
  cases ha : p.isAbsolute with
  | true =>
    obtain ⟨s, rest, hs⟩ := isAbsolute_iff.mp ha
    exact Or.inl ⟨rfl, by simp [head, ha], by simp [hs]⟩
  | false =>
    by_cases hd : ∃ rest, p.segments = "." :: rest
    · obtain ⟨rest, hs⟩ := hd
      exact Or.inr (Or.inl ⟨rfl, by simp [head, ha, hs], by simp [hs]⟩)
    · refine Or.inr (Or.inr ⟨rfl, ?_⟩)
      unfold head
      rw [ha]
      simp only [Bool.false_eq_true, if_false]
      split
      · next rest hs => exact absurd ⟨rest, hs⟩ hd
      · rfl

theorem head_le {p : Path} {l : List String} {m : String} (hp : p.segments = l ++ [m])
    (hm : isIdle m = false) : p.head.2 ≤ l.length := by
  rcases head_cases p with ⟨ha, hh, -⟩ | ⟨-, hh, hs⟩ | ⟨-, hh⟩
  · obtain ⟨s, rest, hs⟩ := isAbsolute_iff.mp ha
    have := congrArg List.length (hp.symm.trans hs)
    simp only [List.length_append, List.length_cons, List.length_nil] at this
    rw [hh]
    show 1 ≤ l.length
    omega
  · rw [hh]
    cases l with
    | nil =>
      rw [hp] at hs
      obtain rfl : m = "." := by simpa using hs
      exact absurd hm (by decide)
    | cons a l => exact Nat.le_add_left 1 l.length
  · rw [hh]
    exact Nat.zero_le _

theorem ofHead_drop {p : Path} (h : p.segments.drop p.head.2 ≠ []) :
    ofHead p.head.1 (p.segments.drop p.head.2) = p := by
  obtain ⟨segments⟩ := p
  rcases head_cases ⟨segments⟩ with ⟨-, hh, hs⟩ | ⟨-, hh, hs⟩ | ⟨-, hh⟩
  · rw [hh] at h ⊢
    simp only at h hs ⊢
    rw [ofHead, if_neg (by simpa using h), ← hs]
  · rw [hh]
    simp only at hs ⊢
    rw [ofHead, ← hs]
  · rw [hh] at h ⊢
    simp only [List.drop_zero] at h ⊢
    rw [ofHead, if_neg (by simpa using h)] <;> simp

theorem isAbsolute_append {p : Path} (h : p.EndsInStep) (m : List String) :
    isAbsolute ⟨p.segments ++ m⟩ = p.isAbsolute := by
  obtain ⟨l, c, hp, hc⟩ := h
  rw [Bool.eq_iff_iff, isAbsolute_iff, isAbsolute_iff, hp]
  rcases l with _ | ⟨a, l⟩
  · have hne := ne_empty_of_not_idle hc
    simp [hne]
  · cases l <;> simp

theorem head_append {p : Path} (h : p.EndsInStep) (m : List String) :
    head ⟨p.segments ++ m⟩ = p.head := by
  obtain ⟨a, rest, hs⟩ := List.exists_cons_of_ne_nil h.ne_nil
  unfold head
  rw [isAbsolute_append h, hs, List.cons_append]
  split
  · rfl
  · split <;> split <;> simp_all

/-! ## The parent -/

/-- Dropping the last name of a path that goes down from another one. -/
theorem parent?_append {p : Path} (h : p.EndsInStep) (l : List String) {m : String}
    (hm : isIdle m = false) {idle : List String} (hi : ∀ s ∈ idle, isIdle s = true) :
    parent? ⟨p.segments ++ (l ++ m :: idle)⟩ = some ⟨p.segments ++ trimIdle l⟩ := by
  obtain ⟨k, c, hp, hc⟩ := h
  have hstep : p.EndsInStep := ⟨k, c, hp, hc⟩
  have hn : p.head.2 ≤ k.length := head_le hp hc
  have htrim : trimIdle idle = [] := by
    unfold trimIdle
    rw [List.dropWhile_eq_nil_iff.mpr fun s hs => hi s (List.mem_reverse.mp hs), List.reverse_nil]
  have hbody : trimIdle ((p.segments ++ (l ++ m :: idle)).drop p.head.2) =
      k.drop p.head.2 ++ (c :: l) ++ [m] := by
    rw [hp, List.append_assoc, List.drop_append_of_le_length hn, ← List.append_assoc, ← List.append_assoc,
      trimIdle_append_cons hm, htrim, List.append_assoc (List.drop _ k) [c] l]
    rfl
  have hrest : trimIdle (k.drop p.head.2 ++ (c :: l)) =
      (p.segments ++ trimIdle l).drop p.head.2 := by
    rw [trimIdle_append_cons hc, hp, List.append_assoc, List.drop_append_of_le_length hn]
    rfl
  unfold parent?
  simp only
  rw [head_append hstep, hbody]
  split
  · next h _ => simp at h
  · next h _ => simp at h
  · rw [List.dropLast_concat, hrest, ← head_append hstep (trimIdle l)]
    refine congrArg some (ofHead_drop ?_)
    rw [head_append hstep]
    show (p.segments ++ trimIdle l).drop p.head.2 ≠ []
    rw [← hrest, trimIdle_append_cons hc]
    simp

theorem parent?_child {p : Path} (h : p.EndsInStep) {name : String} (hn : isIdle name = false) :
    (p.join ⟨[name]⟩).parent? = some p := by
  have hparent := parent?_append h [] hn (List.forall_mem_nil _)
  have hjoin : p.join ⟨[name]⟩ = ⟨p.segments ++ [name]⟩ :=
    congrArg Path.mk (h.segments_join (continues_single name))
  rw [hjoin]
  simpa [trimIdle] using hparent

theorem ancestorsFrom_concat {p : Path} (h : p.EndsInStep) {l : List String} {m : String}
    (hl : ∀ n ∈ l, isIdle n = false) (hm : isIdle m = false) {idle : List String}
    (hi : ∀ s ∈ idle, isIdle s = true) (n : Nat) :
    ancestorsFrom (n + 1) ⟨p.segments ++ (l ++ m :: idle)⟩ =
      ⟨p.segments ++ (l ++ m :: idle)⟩ :: ancestorsFrom n ⟨p.segments ++ l⟩ := by
  have htrim : trimIdle l = l := by
    rcases List.eq_nil_or_concat l with rfl | ⟨k, s, rfl⟩
    · rfl
    · rw [List.concat_eq_append] at hl ⊢
      exact trimIdle_concat (hl s (by simp))
  rw [ancestorsFrom, parent?_append h l hm hi, htrim]

/-! ## Siblings -/

theorem name?_concat {p : Path} {l : List String} {m : String} (hp : p.segments = l ++ [m])
    (hm : isIdle m = false) (hdots : m ≠ "..") : p.name? = some m := by
  have hn := head_le hp hm
  have hparts : ∃ k, p.parts = k ++ [.name m] := by
    unfold parts
    simp only
    rw [hp, List.drop_append_of_le_length hn, List.filter_append, List.map_append, ← List.append_assoc]
    refine ⟨_, congrArg _ ?_⟩
    simp [hm, partOf, hdots]
  obtain ⟨k, hk⟩ := hparts
  rw [name?, hk, List.getLast?_concat]

theorem parent?_concat {p : Path} {l : List String} {m : String} (hp : p.segments = l ++ [m])
    (hm : isIdle m = false) : p.parent? = some (ofHead p.head.1 (trimIdle (l.drop p.head.2))) := by
  unfold parent?
  simp only
  rw [hp, List.drop_append_of_le_length (head_le hp hm), trimIdle_concat hm]
  split
  · next h _ => simp at h
  · next h _ => simp at h
  · rw [List.dropLast_concat]

/-- The path **above** a path that ends in a name: what is before that name, without the idle segments
there. -/
def above (p : Path) : Path := ofHead p.head.1 (trimIdle (p.segments.dropLast.drop p.head.2))

/-- The segments of a path before its last one that are left when it is replaced. -/
def stem (p : Path) : List String :=
  p.segments.dropLast.take p.head.2 ++ trimIdle (p.segments.dropLast.drop p.head.2)

theorem trimIdle_trimIdle (l : List String) : trimIdle (trimIdle l) = trimIdle l :=
  List.rdropWhile_idempotent isIdle l

theorem join_trimIdle (pre : List String) {body : List String} (hne : trimIdle body ≠ []) {f : String}
    : (Path.mk (pre ++ trimIdle body)).join ⟨[f]⟩ = ⟨pre ++ trimIdle body ++ [f]⟩ := by
  obtain ⟨k, s, hk⟩ := (List.eq_nil_or_concat (trimIdle body)).resolve_left hne
  rw [List.concat_eq_append] at hk
  have hs : isIdle s = false := trimIdle_getLast (by rw [hk, List.getLast?_concat])
  refine congrArg Path.mk (EndsInStep.segments_join ⟨pre ++ k, s, ?_, hs⟩ (continues_single f))
  rw [hk, List.append_assoc]

namespace EndsInStep

variable {p : Path} {f : String}

theorem parent?_eq (h : p.EndsInStep) : p.parent? = some p.above := by
  obtain ⟨l, m, hp, hm⟩ := h
  rw [parent?_concat hp hm, above, hp, List.dropLast_concat]

theorem start_cases (h : p.EndsInStep) :
    (p.head = ([.root], 1) ∧ ∃ k, p.segments.dropLast = "" :: k) ∨
    (p.head = ([.here], 1) ∧ ∃ k, p.segments.dropLast = "." :: k) ∨
    (p.head = ([], 0) ∧ ∀ s k, p.segments.dropLast = s :: k → s ≠ "" ∧ s ≠ ".") := by
  obtain ⟨l, m, hp, hm⟩ := h
  rw [hp, List.dropLast_concat]
  rcases head_cases p with ⟨-, hh, hs⟩ | ⟨-, hh, hs⟩ | ⟨ha, hh⟩
  · rcases l with _ | ⟨a, k⟩
    · rw [hp] at hs
      obtain rfl : m = "" := (List.cons.inj hs).1
      exact absurd hm (by decide)
    · rw [hp] at hs
      exact Or.inl ⟨hh, k, by rw [(List.cons.inj hs).1]⟩
  · rcases l with _ | ⟨a, k⟩
    · rw [hp] at hs
      obtain rfl : m = "." := (List.cons.inj hs).1
      exact absurd hm (by decide)
    · rw [hp] at hs
      exact Or.inr (Or.inl ⟨hh, k, by rw [(List.cons.inj hs).1]⟩)
  · refine Or.inr (Or.inr ⟨hh, ?_⟩)
    rintro s k rfl
    constructor
    · rintro rfl
      have : p.isAbsolute = true := isAbsolute_iff.mpr (by
        obtain ⟨b, r, hr⟩ := List.exists_cons_of_ne_nil (show k ++ [m] ≠ [] by simp)
        exact ⟨b, r, by rw [hp, List.cons_append, hr]⟩)
      rw [ha] at this
      cases this
    · rintro rfl
      rw [head, ha, if_neg (by simp), hp] at hh
      cases hh

theorem join_above (h : p.EndsInStep) (f : String) : p.above.join ⟨[f]⟩ = ⟨p.stem ++ [f]⟩ := by
  unfold above stem
  rcases h.start_cases with ⟨hh, k, hk⟩ | ⟨hh, k, hk⟩ | ⟨hh, -⟩
  all_goals rw [hh]
  · rw [hk]
    by_cases hne : trimIdle k = []
    · simp [ofHead, hne, join, isAbsolute]
    · simpa [ofHead, hne] using join_trimIdle [""] hne
  · rw [hk]
    by_cases hne : trimIdle k = []
    · simp [ofHead, hne, join, isAbsolute]
    · simpa [ofHead, hne] using join_trimIdle ["."] hne
  · by_cases hne : trimIdle p.segments.dropLast = []
    · simp [ofHead, hne, join, isAbsolute]
    · simpa [ofHead, hne] using join_trimIdle [] hne

theorem head_sibling (h : p.EndsInStep) (hf : isIdle f = false) : head ⟨p.stem ++ [f]⟩ = p.head := by
  have hempty : f ≠ "" := ne_empty_of_not_idle hf
  have hdot : f ≠ "." := by
    rintro rfl
    exact absurd hf (by decide)
  unfold stem
  rcases h.start_cases with ⟨hh, k, hk⟩ | ⟨hh, k, hk⟩ | ⟨hh, hl⟩
  all_goals rw [hh]
  · rw [hk]
    cases htrim : trimIdle k <;> simp [head, isAbsolute, htrim]
  · rw [hk]
    cases htrim : trimIdle k <;> simp [head, isAbsolute, htrim]
  · rw [List.take_zero, List.nil_append, List.drop_zero]
    cases htrim : trimIdle p.segments.dropLast with
    | nil => simp [head, isAbsolute, hdot]
    | cons s k =>
      obtain ⟨rest, hl'⟩ := trimIdle_isPrefix p.segments.dropLast
      rw [htrim] at hl'
      obtain ⟨hs, hs'⟩ := hl s (k ++ rest) hl'.symm
      cases k <;> simp [head, isAbsolute, hs, hs']

theorem length_take (h : p.EndsInStep) :
    (p.segments.dropLast.take p.head.2).length = p.head.2 := by
  obtain ⟨l, m, hp, hm⟩ := h
  rw [hp, List.dropLast_concat, List.length_take]
  exact min_eq_left (head_le hp hm)

theorem drop_stem (h : p.EndsInStep) :
    p.stem.drop p.head.2 = trimIdle (p.segments.dropLast.drop p.head.2) :=
  List.drop_left' h.length_take

theorem above_cases (h : p.EndsInStep) : ∃ k idle, p.segments.dropLast = k ++ idle ∧
    (∀ s ∈ idle, isIdle s = true) ∧
      (p.above.segments = k ∨ (k = [] ∨ k = [""]) ∧ p.above.segments = k ++ [""]) := by
  unfold above
  obtain ⟨rest, hrest, hidle⟩ := trimIdle_append (p.segments.dropLast.drop p.head.2)
  rcases h.start_cases with ⟨hh, k, hk⟩ | ⟨hh, k, hk⟩ | ⟨hh, -⟩
  all_goals rw [hh] at hrest ⊢
  · rw [hk] at hrest ⊢
    refine ⟨"" :: trimIdle k, rest, congrArg _ hrest, hidle, ?_⟩
    by_cases hne : trimIdle k = [] <;> simp [ofHead, hne]
  · rw [hk] at hrest ⊢
    exact ⟨"." :: trimIdle k, rest, congrArg _ hrest, hidle, by simp [ofHead]⟩
  · refine ⟨trimIdle p.segments.dropLast, rest, hrest, hidle, ?_⟩
    by_cases hne : trimIdle p.segments.dropLast = [] <;> simp [ofHead, hne]

theorem segments_above (h : p.EndsInStep) : ∃ k idle idle', p.segments.dropLast = k ++ idle ∧
    p.above.segments = k ++ idle' ∧ (∀ s ∈ idle, isIdle s = true) ∧ ∀ s ∈ idle', s = "" := by
  obtain ⟨k, idle, hk, hidle, habove | ⟨-, habove⟩⟩ := h.above_cases
  · exact ⟨k, idle, [], hk, by rw [habove, List.append_nil], hidle, by simp⟩
  · exact ⟨k, idle, [""], hk, habove, hidle, by simp⟩

theorem isAbsolute_above (h : p.EndsInStep) : p.above.isAbsolute = p.isAbsolute := by
  have hf : IsPlainName "a" := by decide
  rw [← isAbsolute_join (p := p.above) (continues_single "a"), h.join_above]
  have hhead := h.head_sibling hf.not_idle
  have habs : ∀ q : Path, q.isAbsolute = (q.head.1 == [.root]) := by
    intro q
    rcases head_cases q with ⟨ha, hh, -⟩ | ⟨ha, hh, -⟩ | ⟨ha, hh⟩ <;> rw [ha, hh] <;> rfl
  rw [habs, habs, hhead]

theorem start_above (h : p.EndsInStep) (home : Place) : p.above.start home = p.start home := by
  rw [start, start, h.isAbsolute_above]

theorem follow_above (h : p.EndsInStep) (place : Place) :
    follow place p.above.segments = follow place p.segments.dropLast := by
  obtain ⟨k, idle, idle', hk, hk', hidle, hidle'⟩ := h.segments_above
  have hidle'' : ∀ s ∈ idle', isIdle s = true := fun s hs => by rw [hidle' s hs]; rfl
  rw [hk, hk', follow_append, follow_append, follow_idle hidle, follow_idle hidle'']

theorem passed_above (h : p.EndsInStep) (place : Place) :
    passed place p.above.segments = passed place p.segments.dropLast := by
  obtain ⟨k, idle, idle', hk, hk', hidle, hidle'⟩ := h.segments_above
  have hidle'' : ∀ s ∈ idle', isIdle s = true := fun s hs => by rw [hidle' s hs]; rfl
  rw [hk, hk', passed_append, passed_append, passed_idle hidle, passed_idle hidle'']

/-- **Siblings** have the same path above them. -/
theorem above_sibling (h : p.EndsInStep) (hf : isIdle f = false) : above ⟨p.stem ++ [f]⟩ = p.above := by
  unfold above
  rw [h.head_sibling hf, List.dropLast_concat, h.drop_stem, trimIdle_trimIdle]

theorem parts_sibling (h : p.EndsInStep) (hf : isIdle f = false) :
    parts ⟨p.stem ++ [f]⟩ = p.parts.dropLast ++ [partOf f] := by
  obtain ⟨l, m, hp, hm⟩ := id h
  have hparts : p.parts = p.head.1 ++ ((l.drop p.head.2).filter (!isIdle ·)).map partOf ++ [partOf m] := by
    unfold parts
    simp only
    rw [hp, List.drop_append_of_le_length (head_le hp hm), List.filter_append, List.map_append]
    simp [hm]
  have hle : p.head.2 ≤ p.stem.length := by
    rw [stem, List.length_append, h.length_take]
    omega
  rw [hparts, List.dropLast_concat]
  unfold parts
  simp only
  rw [h.head_sibling hf, List.drop_append_of_le_length hle, h.drop_stem, List.filter_append,
    List.map_append, steps_trimIdle, hp, List.dropLast_concat]
  simp [hf]

end EndsInStep

/-! ## Slashes at the end -/

theorem trimSlashes_concat {l : List String} {m : String} (h : m ≠ "") {k : Nat} :
    trimSlashes (l ++ m :: List.replicate k "") = l ++ [m] := by
  unfold trimSlashes
  rw [List.reverse_append, List.reverse_cons, List.reverse_replicate, List.append_assoc,
    List.dropWhile_append_of_pos (by simp), List.singleton_append,
    List.dropWhile_cons_of_neg (by simpa using h)]
  simp

/-- Slashes after a segment that counts are **left out**. -/
theorem withoutSlash_append {p : Path} (h : p.EndsInStep) (k : Nat) :
    Disk.withoutSlash ⟨p.segments ++ List.replicate k ""⟩ = p := by
  obtain ⟨segments⟩ := p
  obtain ⟨l, m, hp, hm⟩ := h
  simp only at hp
  subst hp
  have hne := ne_empty_of_not_idle hm
  have habs := isAbsolute_append (p := ⟨l ++ [m]⟩) ⟨l, m, rfl, hm⟩ (List.replicate k "")
  unfold Disk.withoutSlash
  simp only at habs ⊢
  rw [habs, List.append_assoc, List.singleton_append]
  split
  · next ha =>
    obtain ⟨s, rest, hs⟩ := isAbsolute_iff.mp ha
    rcases l with _ | ⟨a, l⟩
    · obtain rfl : m = "" := (List.cons.inj hs).1
      exact absurd rfl hne
    · obtain rfl : a = "" := (List.cons.inj hs).1
      rw [List.cons_append, List.drop_succ_cons, List.drop_zero, trimSlashes_concat hne]
      rfl
  · rw [trimSlashes_concat hne]

end SiteGen.Path
