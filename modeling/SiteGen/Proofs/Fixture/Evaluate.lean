import SiteGen.Fixture
import SiteGen.Proofs.Disk.Overwrite
import SiteGen.Proofs.Fixture.Document

/-!
# Evaluating fixtures

* `evaluateFixture_on`, `evaluateFixture_invalid`: how evaluating one fixture ends.
* `evaluateFixtures_confined`: evaluating the fixtures in a directory overwrites only files there.
* `Evaluates`: what evaluating makes of the content of a fixture.
* `evaluateFixtures_evaluates`: evaluating the fixtures in a directory evaluates each file directly in
  it.
-/

namespace SiteGen

open Disk SiteGen.Path Run

variable {S : Scope} {home : Place}

/-! ## What evaluating may change -/

/-- Whether a scope is **for tests** at some names in a directory: files in there may be overwritten. -/
structure TestsScope (S : Scope) (home : Place) (base : Path) (names : List String) : Prop where
  plain : ∀ n ∈ names, IsPlainName n
  nonempty : names ≠ []
  trail : ∀ x ∈ base.trail home, S.reads x
  below : ∀ m, S.reads (base.place home ++ m)
  writes : ∀ name, S.writes (base.place home ++ (names ++ [name]))

variable {base : Path} {names : List String}

theorem TestsScope.reads (hs : TestsScope S home base names) {q : Path} (hq : Descends q) :
    ∀ x ∈ (base.join q).trail home, S.reads x := by
  intro x hx
  rcases mem_trail_join home hq hx with hx | ⟨m, -, -, rfl⟩
  · exact hs.trail x hx
  · exact hs.below m

theorem evaluateFixture_confined (hs : TestsScope S home base names) {name : String}
    (hn : IsPlainName name) :
    Confined S (Stands home base) (evaluateFixture (base.join ⟨names ++ [name]⟩))
      fun _ d => Stands home base d := by
  have hplain : ∀ n ∈ names ++ [name], IsPlainName n := by
    simpa [or_imp, forall_and] using ⟨hs.plain, hn⟩
  have hdown := descends_names (by simp) hplain
  have hplace : (base.join ⟨names ++ [name]⟩).place home = base.place home ++ (names ++ [name]) :=
    place_names home (by simp) hplain
  unfold evaluateFixture
  refine ((fileText_confined (fun d hd => ⟨hd.tree, hd.home_eq⟩) (hs.reads hdown)).post
    fun _ d hd => hd.1).seq fun text => ?_
  refine ((Confined.ofResult _).post fun _ d hd => hd.1).seq fun fixture => ?_
  have hwarn : Confined S (Stands home base) (warnEach (fixture.wildcards.map .unreplacedWildcard))
      fun _ d => Stands home base d := .forM fun warning _ => .warn warning
  refine hwarn.seq fun _ => putText_confined hdown (fun _ hd => hd) (fun _ _ => Or.inl ?_)
    (hs.reads hdown) _
  rw [hplace]
  exact hs.writes name

theorem evaluateNames_confined (hs : TestsScope S home base names) :
    ∀ {children : List String}, (∀ n ∈ children, IsPlainName n) →
      Confined S (Stands home base) (evaluateNames (base.join ⟨names⟩) children)
        fun _ d => Stands home base d
  | [], _ => .pure fun _ hd => hd
  | name :: rest, h => by
    have hname := h name List.mem_cons_self
    have hjoin : (base.join ⟨names⟩).join ⟨[name]⟩ = base.join ⟨names ++ [name]⟩ :=
      join_join (continues_names hs.nonempty hs.plain)
        (fun hl => (hs.plain "" (List.mem_of_getLast? hl)).ne_empty rfl) (continues_single name)
    have hplain : ∀ n ∈ names ++ [name], IsPlainName n := by
      simpa [or_imp, forall_and] using ⟨hs.plain, hname⟩
    have hrest := evaluateNames_confined hs fun n hn => h n (List.mem_cons_of_mem _ hn)
    unfold evaluateNames
    simp only [hjoin]
    refine ((inspect_congr (fun d hd => ⟨hd.tree, hd.home_eq⟩)
      (hs.reads (descends_names (by simp) hplain)) fun _ _ h hS hx => hasFile_congr h hS hx).post
      fun _ d hd => hd.1).seq fun b => .ite (fun _ => ?_) (fun _ => hrest)
    exact (evaluateFixture_confined hs hname).seq fun _ => hrest.seq fun n => .pure fun _ hd => hd

/-- **Evaluating the fixtures** directly in a directory overwrites only files there. -/
theorem evaluateFixtures_confined (hs : TestsScope S home base names) :
    Confined S (Stands home base) (evaluateFixtures (base.join ⟨names⟩))
      fun _ d => Stands home base d := by
  have hdown := descends_names hs.nonempty hs.plain
  have hplace : (base.join ⟨names⟩).place home = base.place home ++ names :=
    place_names home hs.nonempty hs.plain
  unfold evaluateFixtures
  have hlist : Confined S (Stands home base) (Run.query (·.listing (base.join ⟨names⟩)))
      fun children d => Stands home base d ∧ ∀ n ∈ children.map (·.1), IsPlainName n := by
    refine (listing_confined (fun d hd => ⟨hd.tree, hd.home_eq⟩) (hs.reads hdown)
      fun name => ?_).post fun children d hd => ⟨hd.1, fun n hn => ?_⟩
    · rw [hplace, List.append_assoc]
      exact hs.below _
    · obtain ⟨⟨name, e⟩, hm, rfl⟩ := List.mem_map.mp hn
      exact (mem_listing hd.1.tree hd.2 hm).1.toIsPlainName
  exact hlist.bind fun children => .of_pre fun hchildren => evaluateNames_confined hs hchildren

/-! ## One fixture -/

theorem warnEach_on (warnings : List Warning) (w : World) :
    (warnEach warnings).on w = (.ok (), { w with warnings := w.warnings ++ warnings }) := by
  unfold warnEach
  induction warnings generalizing w with
  | nil =>
    rw [List.append_nil]
    rfl
  | cons warning warnings ih =>
    have hfirst : (Run.warn warning).on w = (.ok (), { w with warnings := w.warnings ++ [warning] }) := rfl
    rw [List.forM_eq_forM, List.forM_cons, bind_of_ok hfirst, ← List.forM_eq_forM, ih, List.append_assoc]
    rfl

section OneFixture

variable {w : World} {path : Path} {text : String}

/-- Evaluating a fixture **succeeds** if it is a document. -/
theorem evaluateFixture_on {v : Json} {d : Disk} (hread : w.disk.readText path = .ok text)
    (hparse : Json.parse text = .ok v) (hwrite : w.disk.writeText path v.evaluate.fixture = .ok d) :
    (evaluateFixture path).on w = (.ok (), ⟨d, w.warnings ++ v.wildcards.map .unreplacedWildcard⟩) := by
  have hvalue : (Run.ofResult ((Json.parse text).mapError (Error.invalidFixture path))).on w = (.ok v, w) := by
    rw [ofResult_on, hparse]
    rfl
  unfold evaluateFixture
  rw [bind_of_ok (fileText_on hread), bind_of_ok hvalue, bind_of_ok (warnEach_on _ w)]
  exact change_on_ok hwrite

/-- Evaluating a text that is no document **changes nothing**. -/
theorem evaluateFixture_invalid {cause : Json.SyntaxError} (hread : w.disk.readText path = .ok text)
    (hparse : Json.parse text = .error cause) :
    (evaluateFixture path).on w = (.error (.invalidFixture path cause), w) := by
  have hvalue : (Run.ofResult ((Json.parse text).mapError (Error.invalidFixture path))).on w =
      (.error (.invalidFixture path cause), w) := by
    rw [ofResult_on, hparse]
    rfl
  unfold evaluateFixture
  rw [bind_of_ok (fileText_on hread)]
  exact bind_of_error hvalue

end OneFixture

/-! ## What evaluating makes of files -/

/-- What evaluating makes of **the content of a fixture**: its text is read, and the evaluated document is
written as a fixture. -/
def Evaluates (content content' : ByteArray) : Prop :=
  ∃ text json text', String.fromUTF8? content = some text ∧ Json.parse text = .ok json ∧
    json.evaluate.IsFixture text' ∧ content' = text'.toUTF8

theorem evaluates_of_parse {text : String} {json : Json} (h : Json.parse text = .ok json) :
    Evaluates text.toUTF8 json.evaluate.fixture.toUTF8 :=
  ⟨text, json, _, fromUTF8?_toUTF8 text, h, Json.isFixture_evaluate h, rfl⟩

/-- Whether the files at certain places **have been evaluated**, and nothing else has changed. -/
structure Evaluated (E : Place → Prop) (d₀ d : Disk) : Prop where
  file : ∀ x content, E x → d₀.find? x = some (.file content) →
    ∃ content', Evaluates content content' ∧ d.find? x = some (.file content')
  other : ∀ x, (E x → (d₀.find? x).any (·.isFile) = false) → d.find? x = d₀.find? x

namespace Evaluated

variable {E E₁ E₂ : Place → Prop} {d d₀ d₁ d₂ : Disk} {p : Path}

theorem refl (hE : ∀ x, ¬E x) (d : Disk) : Evaluated E d d :=
  ⟨fun x _ hx => absurd hx (hE x), fun _ _ => rfl⟩

/-- It matters only **which files** are at the places. -/
theorem congr (h : Evaluated E₁ d₀ d) (hE : ∀ x content, d₀.find? x = some (.file content) → (E₂ x ↔ E₁ x)) :
    Evaluated E₂ d₀ d := by
  refine ⟨fun x content hx hf => h.file x content ((hE x content hf).mp hx) hf, fun x hx => h.other x fun h₁ => ?_⟩
  by_contra hfile
  obtain ⟨content, hf⟩ := file_of_any (Bool.not_eq_false _ ▸ hfile)
  exact hfile (hx ((hE x content hf).mpr h₁))

/-- Evaluating files at other places **goes on** after evaluating some. -/
theorem trans (h₁ : Evaluated E₁ d₀ d₁) (h₂ : Evaluated E₂ d₁ d₂) (hE : ∀ x, E₁ x → ¬E₂ x) :
    Evaluated (fun x => E₁ x ∨ E₂ x) d₀ d₂ := by
  refine ⟨fun x content hx hf => ?_, fun x hx => ?_⟩
  · rcases hx with hx | hx
    · obtain ⟨content', heval, hf'⟩ := h₁.file x content hx hf
      exact ⟨content', heval, by rw [h₂.other x fun h => absurd h (hE x hx), hf']⟩
    · have hsame := h₁.other x fun h => absurd hx (hE x h)
      exact h₂.file x content hx (hsame.trans hf)
  · have hsame := h₁.other x fun h => hx (Or.inl h)
    rw [h₂.other x fun h => by rw [hsame, hx (Or.inr h)], hsame]

theorem dirsStay (h : Evaluated E d₀ d) : DirsStay d₀ d := fun x hx => by
  rw [h.other x fun _ => by rw [hx]; rfl, hx]

theorem stands (h : Evaluated E d₀ d) (ht : d.IsTree) (hhome : d.home = d₀.home)
    (hp : Stands home p d₀) : Stands home p d := hp.of_dirsStay ht hhome h.dirsStay

end Evaluated

variable {d₀ : Disk} {p : Path}

/-- **Evaluating a fixture** evaluates its file. -/
theorem evaluateFixture_evaluates {q : Path} (hq : Descends q) (h : Stands home p d₀) :
    Ends (· = d₀) (evaluateFixture (p.join q)) fun _ d =>
      Stands home p d ∧ Evaluated (· = (p.join q).place home) d₀ d := by
  unfold evaluateFixture
  refine (fileText_ends _ h.tree.noLink).bind fun text => .of_pre fun hf => ?_
  rw [h.home_eq] at hf
  have hparse : Ends (· = d₀)
      (Run.ofResult ((Json.parse text).mapError (Error.invalidFixture (p.join q)))) fun json d =>
        d = d₀ ∧ Json.parse text = .ok json := (Ends.ofResult _).post fun json d hd => ⟨hd.1, by
    cases hj : Json.parse text with
    | error e =>
      rw [hj] at hd
      cases hd.2
    | ok json' =>
      rw [hj] at hd
      rw [Except.ok.inj hd.2]⟩
  refine hparse.bind fun json => .of_pre fun hjson => ?_
  have hwarn : Confined ⟨fun _ => True, fun _ => True, fun _ => True, False⟩ (· = d₀)
      (warnEach (json.wildcards.map .unreplacedWildcard)) fun _ d => d = d₀ :=
    .forM fun warning _ => .warn warning
  refine hwarn.toEnds.seq fun _ => (putText_ends hq h _).post fun _ d hd => ⟨hd.1, ?_, fun x hx => ?_⟩
  · rintro x content rfl hx
    obtain rfl : text.toUTF8 = content := by simpa using hf.symm.trans hx
    refine ⟨_, evaluates_of_parse hjson, ?_⟩
    rw [hd.2, if_pos rfl]
  · rw [hd.2, if_neg]
    intro heq
    have := hx heq.symm
    rw [← heq, hf] at this
    cases this

/-- Whether a place is that of a file **directly in a directory** by one of some names, the path being not too
long. -/
def AtName (home : Place) (p : Path) (names : List String) (x : Place) : Prop :=
  ∃ name ∈ names, (p.join ⟨[name]⟩).isLong = false ∧ x = p.place home ++ [name]

/-- Evaluating the fixtures **among names** in a directory. -/
theorem evaluateNames_evaluates : ∀ {children : List String} {d₀ : Disk}, Stands home p d₀ →
    children.Nodup → (∀ n ∈ children, IsDiskName n) →
    Ends (· = d₀) (evaluateNames p children) fun _ d =>
      Stands home p d ∧ Evaluated (AtName home p children) d₀ d
  | [], d₀, h, _, _ => .pure fun d hd => by
    subst hd
    exact ⟨h, .refl (by simp [AtName]) _⟩
  | name :: rest, d₀, h, hnodup, hn => by
    obtain ⟨hnot, hnodup⟩ := List.nodup_cons.mp hnodup
    have hname := hn name List.mem_cons_self
    have hplace : (p.join ⟨[name]⟩).place home = p.place home ++ [name] :=
      place_child home hname.toIsPlainName
    have hrest : ∀ d₁, Stands home p d₁ → Ends (· = d₁) (evaluateNames p rest) fun _ d =>
        Stands home p d ∧ Evaluated (AtName home p rest) d₁ d :=
      fun d₁ h₁ => evaluateNames_evaluates h₁ hnodup fun n hm => hn n (List.mem_cons_of_mem _ hm)
    unfold evaluateNames
    refine (Ends.inspect _).bind fun b => .ite (fun hb => ?_) fun hb => ?_
    · have hfirst : Ends (fun d => d = d₀ ∧ d.hasFile (p.join ⟨[name]⟩) = b) (evaluateFixture (p.join ⟨[name]⟩))
          fun _ d => Stands home p d ∧ (p.join ⟨[name]⟩).isLong = false ∧
            Evaluated (· = (p.join ⟨[name]⟩).place home) d₀ d := by
        rintro w a w' ⟨rfl, hfile⟩ hon
        obtain ⟨hstands, heval⟩ :=
          evaluateFixture_evaluates (descends_single hname.toIsPlainName) h w a w' rfl hon
        exact ⟨hstands, (accepted_of_hasFile (hfile.trans hb)).not_long, heval⟩
      refine hfirst.seq fun _ => ?_
      have hboth : Ends (fun d => Stands home p d ∧ (p.join ⟨[name]⟩).isLong = false ∧
          Evaluated (· = (p.join ⟨[name]⟩).place home) d₀ d)
          (evaluateNames p rest) fun _ d => Stands home p d ∧
            Evaluated (AtName home p (name :: rest)) d₀ d := by
        rintro w n w' ⟨hstands₁, hlong, heval₁⟩ hon
        obtain ⟨hstands, heval⟩ := hrest w.disk hstands₁ w n w' rfl hon
        refine ⟨hstands, (heval₁.trans heval ?_).congr fun x _ _ => ?_⟩
        · rintro x rfl ⟨n, hm, -, heq⟩
          rw [hplace] at heq
          rw [← concat_injective _ heq] at hm
          exact hnot hm
        · rw [hplace]
          simp [AtName, hlong]
      exact hboth.seq fun n => .pure fun _ hd => hd
    · intro w n w' hw hon
      obtain ⟨rfl, hfile⟩ := hw
      obtain ⟨hstands, heval⟩ := hrest w.disk h w n w' rfl hon
      refine ⟨hstands, ⟨fun x content hx hf => ?_, fun x hx => heval.other x fun h => ?_⟩⟩
      · obtain ⟨n, hm, hlong, rfl⟩ := hx
        rcases List.mem_cons.mp hm with rfl | hm
        · exact absurd (hfile.symm.trans ((hasFile_iff_called h hname).mpr ⟨content, hf, hlong⟩)) hb
        · exact heval.file _ content ⟨n, hm, hlong, rfl⟩ hf
      · obtain ⟨n, hm, hlong, rfl⟩ := h
        exact hx ⟨n, List.mem_cons_of_mem _ hm, hlong, rfl⟩

/-- **Evaluating the fixtures** directly in a directory evaluates each file there. -/
theorem evaluateFixtures_evaluates (h : Stands home p d₀) (hp : p.Accepted) :
    Ends (· = d₀) (evaluateFixtures p) fun _ d => Stands home p d ∧
      Evaluated (fun x => ∃ name, AtName home p [name] x) d₀ d := by
  unfold evaluateFixtures
  have hlist : Ends (· = d₀) (Run.query (·.listing p)) fun children d =>
      d = d₀ ∧ children = d₀.names (p.place home) := by
    refine (Ends.query _).post fun children d hd => ?_
    obtain ⟨rfl, hlist⟩ := hd
    rw [listing_of_leads h.leads hp, h.home_eq] at hlist
    exact ⟨rfl, (Except.ok.inj hlist).symm⟩
  refine hlist.bind fun children => .of_pre fun hchildren => ?_
  subst hchildren
  have hnames : ((d₀.names (p.place home)).map (·.1)).Nodup := by
    refine List.pairwise_map.mpr ((names_sorted d₀ _).imp fun hlt heq => ?_)
    exact absurd hlt (heq ▸ lt_irrefl _)
  refine (evaluateNames_evaluates h hnames fun n hn => ?_).post fun _ d hd =>
    ⟨hd.1, hd.2.congr fun x content hf => ?_⟩
  · obtain ⟨⟨name, e⟩, hm, rfl⟩ := List.mem_map.mp hn
    exact h.tree.name _ _ (by rw [mem_names.mp hm]; rfl)
  · constructor
    · rintro ⟨name, n, hn, hlong, rfl⟩
      exact ⟨n, List.mem_map.mpr ⟨_, mem_names.mpr hf, rfl⟩, hlong, rfl⟩
    · rintro ⟨name, -, hlong, rfl⟩
      exact ⟨name, name, List.mem_singleton_self name, hlong, rfl⟩

end SiteGen
