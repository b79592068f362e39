import SiteGen.Proofs.Disk.Visits
import SiteGen.Proofs.Fixture.Evaluate

/-!
# The fixtures of a directory

The files directly in a directory are evaluated in the order of their names, up to the first one that is no
fixture.

* `Objects`: why a file is no fixture.
* `AreFixtures`, `FailsAt`: whether all files of some names are fixtures, or which is the first one that is not.
* `evaluateNames_append`: going through names and then through others.
* `evaluateNames_succeeds`, `evaluateNames_stops`: the outcome for names of which all files are fixtures, or some
  is not.
* `evaluateFixtures_outcome`: the outcome for a directory.
-/

namespace SiteGen

open Disk SiteGen.Path Run

/-- Why the content of a file is **no fixture**: it is no text, or the text is no document. -/
inductive Objects (path : Path) (content : ByteArray) : Error → Prop
  | notText (h : String.fromUTF8? content = none) : Objects path content (.disk .notText)
  | notJson {text : String} {cause : Json.SyntaxError} (h : String.fromUTF8? content = some text)
    (hparse : Json.parse text = .error cause) : Objects path content (.invalidFixture path cause)

theorem evaluates_or_objects (path : Path) (content : ByteArray) :
    (∃ content', Evaluates content content') ∨ ∃ e, Objects path content e := by
  cases htext : String.fromUTF8? content with
  | none => exact Or.inr ⟨_, .notText htext⟩
  | some text =>
    cases hparse : Json.parse text with
    | error cause => exact Or.inr ⟨_, .notJson htext hparse⟩
    | ok v => exact Or.inl ⟨_, fromUTF8?_eq_some htext ▸ evaluates_of_parse hparse⟩

/-- Whether **all files** that are called by names in a directory are fixtures. -/
def AreFixtures (home : Place) (p : Path) (names : List String) (d : Disk) : Prop :=
  ∀ name ∈ names, ∀ content, Called home p [name] content d → ∃ content', Evaluates content content'

/-- Whether a file in a directory is **the first one** among those of some names that is no fixture. -/
structure FailsAt (home : Place) (p : Path) (names before : List String) (name : String) (content : ByteArray)
    (e : Error) (d : Disk) : Prop where
  split : ∃ after, names = before ++ name :: after
  before : AreFixtures home p before d
  file : Called home p [name] content d
  objects : Objects (p.join ⟨[name]⟩) content e

variable {home : Place} {p : Path} {w w' : World} {name : String} {content : ByteArray} {e : Error}

theorem areFixtures_or_failsAt (home : Place) (p : Path) (names : List String) (d : Disk) :
    AreFixtures home p names d ∨ ∃ before name content e, FailsAt home p names before name content e d := by
  induction names with
  | nil => exact Or.inl fun _ hm => absurd hm List.not_mem_nil
  | cons name names ih =>
    by_cases hfirst : ∃ content e, Called home p [name] content d ∧ Objects (p.join ⟨[name]⟩) content e
    · obtain ⟨content, e, hfile, hobjects⟩ := hfirst
      exact Or.inr ⟨[], name, content, e, ⟨names, rfl⟩, fun _ hm => absurd hm List.not_mem_nil, hfile, hobjects⟩
    have hname : AreFixtures home p [name] d := fun n hn content hfile => by
      obtain rfl := List.mem_singleton.mp hn
      rcases evaluates_or_objects (p.join ⟨[n]⟩) content with heval | ⟨e, hobjects⟩
      · exact heval
      · exact absurd ⟨content, e, hfile, hobjects⟩ hfirst
    have hcons : ∀ l, AreFixtures home p l d → AreFixtures home p (name :: l) d := fun l hl n hn => by
      rcases List.mem_cons.mp hn with rfl | hn
      · exact hname n (List.mem_singleton_self n)
      · exact hl n hn
    rcases ih with hall | ⟨before, n, content, e, ⟨after, hsplit⟩, hbefore, hfile, hobjects⟩
    · exact Or.inl (hcons names hall)
    · exact Or.inr ⟨name :: before, n, content, e, ⟨after, by rw [hsplit, List.cons_append]⟩, hcons before hbefore,
        hfile, hobjects⟩

/-! ## One file -/

theorem evaluateFixture_succeeds (h : Stands home p w.disk) (hn : IsDiskName name)
    (hfile : Called home p [name] content w.disk) (heval : ∃ content', Evaluates content content') :
    ∃ w', (evaluateFixture (p.join ⟨[name]⟩)).on w = (.ok (), w') := by
  obtain ⟨content', text, v, text', htext, hparse, -⟩ := heval
  have hread := h.readText_child hn hfile.short (fromUTF8?_eq_some htext ▸ hfile.file)
  obtain ⟨d, hwrite, -⟩ := writeText_of_readText hread v.evaluate.fixture
  exact ⟨_, evaluateFixture_on hread hparse hwrite⟩

theorem evaluateFixture_objects (h : Stands home p w.disk) (hn : IsDiskName name)
    (hfile : Called home p [name] content w.disk) (hobjects : Objects (p.join ⟨[name]⟩) content e) :
    (evaluateFixture (p.join ⟨[name]⟩)).on w = (.error e, w) := by
  cases hobjects with
  | notText hnone =>
    have hplace : (p.join ⟨[name]⟩).place w.disk.home = p.place home ++ [name] := by
      rw [h.home_eq, place_child home hn.toIsPlainName]
    have hnot : ¬w.disk.HasText (p.join ⟨[name]⟩) := by
      rintro ⟨text, hread⟩
      have htext := find?_of_readText h.tree.noLink hread
      rw [hplace, hfile.file] at htext
      rw [Entry.file.inj (Option.some.inj htext), fromUTF8?_toUTF8] at hnone
      cases hnone
    have hrefused := fileText_refused hnot
    rw [refusal, if_pos ((hasFile_iff_called h hn).mpr ⟨content, hfile⟩)] at hrefused
    exact bind_of_error hrefused
  | notJson htext hparse =>
    exact evaluateFixture_invalid (h.readText_child hn hfile.short (fromUTF8?_eq_some htext ▸ hfile.file)) hparse

/-! ## Names in a directory -/

/-- Evaluating the fixtures among names and **then among others**. -/
theorem evaluateNames_append (p : Path) (names names' : List String) :
    evaluateNames p (names ++ names') = (do
      let n ← evaluateNames p names
      let m ← evaluateNames p names'
      pure (n + m)) := by
  induction names with
  | nil => simp only [List.nil_append, evaluateNames, pure_bind, Nat.zero_add, bind_pure]
  | cons name names ih =>
    simp only [List.cons_append, evaluateNames, ih, bind_assoc]
    refine bind_congr (m := Run) fun b => ?_
    cases b with
    | true => simp only [if_true, bind_assoc, pure_bind, Nat.add_right_comm]
    | false => rfl

/-- **The files** among names in a directory. -/
def filesIn (d : Disk) (p : Path) (names : List String) : List String :=
  names.filter fun name => d.hasFile (p.join ⟨[name]⟩)

/-- Evaluating the fixtures among names **counts the files** if all of them are fixtures. -/
theorem evaluateNames_succeeds : ∀ {children : List String} {w : World}, Stands home p w.disk →
    children.Nodup → (∀ n ∈ children, IsDiskName n) → AreFixtures home p children w.disk →
    ∃ w', (evaluateNames p children).on w = (.ok (filesIn w.disk p children).length, w')
  | [], w, _, _, _, _ => ⟨w, rfl⟩
  | name :: rest, w, h, hnodup, hn, heval => by
    obtain ⟨hnot, hnodup⟩ := List.nodup_cons.mp hnodup
    have hname := hn name List.mem_cons_self
    have hrestn : ∀ n ∈ rest, IsDiskName n := fun n hm => hn n (List.mem_cons_of_mem _ hm)
    have hresteval : AreFixtures home p rest w.disk := fun n hm => heval n (List.mem_cons_of_mem _ hm)
    unfold evaluateNames
    rw [bind_of_ok (inspect_on _ _), filesIn, List.filter_cons, ← filesIn]
    by_cases hfile : w.disk.hasFile (p.join ⟨[name]⟩) = true
    · obtain ⟨content, hcontent⟩ := (hasFile_iff_called h hname).mp hfile
      obtain ⟨w₁, hon⟩ := evaluateFixture_succeeds h hname hcontent (heval name List.mem_cons_self content hcontent)
      obtain ⟨h₁, heval₁⟩ := evaluateFixture_evaluates (descends_single hname.toIsPlainName) h w () w₁ rfl hon
      -- the other files are still as they were, so the rest of the names is gone through as before
      have hsame : ∀ n ∈ rest, ∀ content, Called home p [n] content w₁.disk ↔ Called home p [n] content w.disk := by
        intro n hm content
        have hfind : w₁.disk.find? (p.place home ++ [n]) = w.disk.find? (p.place home ++ [n]) :=
          heval₁.other _ fun heq => by
            rw [place_child home hname.toIsPlainName] at heq
            exact absurd (concat_injective _ heq ▸ hm) hnot
        exact ⟨fun hc => ⟨hfind ▸ hc.file, hc.short⟩, fun hc => ⟨hfind ▸ hc.file, hc.short⟩⟩
      have hfiles : filesIn w₁.disk p rest = filesIn w.disk p rest := List.filter_congr fun n hm => by
        rw [Bool.eq_iff_iff, hasFile_iff_called h₁ (hrestn n hm), hasFile_iff_called h (hrestn n hm)]
        exact exists_congr fun content => hsame n hm content
      obtain ⟨w', hrest⟩ := evaluateNames_succeeds h₁ hnodup hrestn fun n hm content hc =>
        hresteval n hm content ((hsame n hm content).mp hc)
      refine ⟨w', ?_⟩
      rw [if_pos hfile, if_pos hfile, bind_of_ok hon, bind_of_ok hrest, hfiles]
      rfl
    · obtain ⟨w', hrest⟩ := evaluateNames_succeeds h hnodup hrestn hresteval
      rw [if_neg hfile, if_neg hfile]
      exact ⟨w', hrest⟩

/-- Evaluating the fixtures among names **stops at the first file** that is no fixture, when those before it have
been evaluated. -/
theorem evaluateNames_stops {before after : List String} (h : Stands home p w.disk)
    (hnodup : (before ++ name :: after).Nodup) (hn : ∀ n ∈ before ++ name :: after, IsDiskName n)
    (heval : AreFixtures home p before w.disk) (hfile : Called home p [name] content w.disk)
    (hobjects : Objects (p.join ⟨[name]⟩) content e) :
    ∃ w', (evaluateNames p (before ++ name :: after)).on w = (.error e, w') ∧
      Evaluated (AtName home p before) w.disk w'.disk := by
  obtain ⟨hbefore, -, hdisjoint⟩ := List.nodup_append.mp hnodup
  have hname := hn name (List.mem_append_right _ List.mem_cons_self)
  have hnbefore : ∀ n ∈ before, IsDiskName n := fun n hm => hn n (List.mem_append_left _ hm)
  obtain ⟨w', hon⟩ := evaluateNames_succeeds h hbefore hnbefore heval
  obtain ⟨h', heval'⟩ := evaluateNames_evaluates h hbefore hnbefore w _ w' rfl hon
  have hfile' : Called home p [name] content w'.disk := by
    refine ⟨(heval'.other _ fun ⟨n, hm, _, heq⟩ => ?_).trans hfile.file, hfile.short⟩
    exact absurd (concat_injective _ heq).symm (hdisjoint n hm name List.mem_cons_self)
  refine ⟨w', ?_, heval'⟩
  have hrest : (evaluateNames p (name :: after)).on w' = (.error e, w') := by
    unfold evaluateNames
    rw [bind_of_ok (inspect_on _ _), if_pos ((hasFile_iff_called h' hname).mpr ⟨content, hfile'⟩)]
    exact bind_of_error (evaluateFixture_objects h' hname hfile' hobjects)
  rw [evaluateNames_append, bind_of_ok hon]
  exact bind_of_error hrest

/-! ## A directory -/

/-- **The outcome for a directory**. The files directly in it whose paths are not too long are gone through in the
order of their names. Either all of them are fixtures, or there is a first one that is not. If all are, each is
evaluated, and they are counted; if not, this stops at the first one that is not, and those before it have been
evaluated. Nothing else changes. -/
theorem evaluateFixtures_outcome (p : Path) (w : World) (ht : w.disk.IsTree) (hp : w.disk.hasDirectory p = true) :
    ∃ names : List String, names.Pairwise (· < ·) ∧
      (∀ name, name ∈ names ↔ ∃ content, Called w.disk.home p [name] content w.disk) ∧
      (AreFixtures w.disk.home p names w.disk ∨
        ∃ before name content e, FailsAt w.disk.home p names before name content e w.disk) ∧
      (AreFixtures w.disk.home p names w.disk →
        ∃ w', (evaluateFixtures p).on w = (.ok names.length, w') ∧
          Evaluated (AtName w.disk.home p names) w.disk w'.disk) ∧
      ∀ before name content e, FailsAt w.disk.home p names before name content e w.disk →
        ∃ w', (evaluateFixtures p).on w = (.error e, w') ∧
          Evaluated (AtName w.disk.home p before) w.disk w'.disk := by
  obtain ⟨hleads, haccepted⟩ := leads_of_hasDirectory ht.noLink hp
  have hstands : Stands w.disk.home p w.disk := ⟨ht, rfl, hleads⟩
  have hsorted : ((w.disk.names (p.place w.disk.home)).map (·.1)).Pairwise (· < ·) :=
    List.pairwise_map.mpr (names_sorted w.disk _)
  have hmem : ∀ name, name ∈ (w.disk.names (p.place w.disk.home)).map (·.1) ↔
      ∃ e, w.disk.find? (p.place w.disk.home ++ [name]) = some e := by
    simp [mem_names]
  generalize hchildren : (w.disk.names (p.place w.disk.home)).map (·.1) = children at hsorted hmem
  have hrun : (evaluateFixtures p).on w = (evaluateNames p children).on w := by
    have hlist : (Run.query (·.listing p)).on w = (.ok (w.disk.names (p.place w.disk.home)), w) := by
      rw [query_on, listing_of_leads hleads haccepted]
      rfl
    rw [evaluateFixtures, bind_of_ok hlist, hchildren]
  have hnodup : children.Nodup := hsorted.imp ne_of_lt
  have hdisk : ∀ n ∈ children, IsDiskName n := fun n hn => by
    obtain ⟨e, he⟩ := (hmem n).mp hn
    exact ht.name _ _ (by rw [he]; rfl)
  have hfiles : ∀ name, name ∈ filesIn w.disk p children ↔
      ∃ content, Called w.disk.home p [name] content w.disk := fun name => by
    rw [filesIn, List.mem_filter]
    constructor
    · rintro ⟨hm, hfile⟩
      exact (hasFile_iff_called hstands (hdisk name hm)).mp hfile
    · rintro ⟨content, hfile⟩
      have hm := (hmem name).mpr ⟨_, hfile.file⟩
      exact ⟨hm, (hasFile_iff_called hstands (hdisk name hm)).mpr ⟨content, hfile⟩⟩
  refine ⟨filesIn w.disk p children, hsorted.filter _, hfiles, areFixtures_or_failsAt .., fun heval => ?_,
    fun before name content e ⟨⟨after, hnames⟩, heval, hfile, hobjects⟩ => ?_⟩
  · obtain ⟨w', hon⟩ := evaluateNames_succeeds hstands hnodup hdisk fun n _ content hfile =>
      heval n ((hfiles n).mpr ⟨content, hfile⟩) content hfile
    obtain ⟨-, hevaluated⟩ := evaluateNames_evaluates hstands hnodup hdisk w _ w' rfl hon
    refine ⟨w', hrun.trans hon, hevaluated.congr fun x content hx => exists_congr fun n => and_congr_left ?_⟩
    rintro ⟨hlong, rfl⟩
    rw [hfiles]
    exact iff_of_true ⟨content, hx, hlong⟩ ((hmem n).mpr ⟨_, hx⟩)
  · -- the names before the file are those of the files before it, and others that are passed over
    obtain ⟨passed, rest, rfl, hpassed, hrest⟩ := List.filter_eq_append_iff.mp hnames
    obtain ⟨others, last, rfl, hothers, -, -⟩ := List.filter_eq_cons_iff.mp hrest
    rw [← List.append_assoc] at hnodup hdisk hrun
    have hbefore : ∀ n content, Called w.disk.home p [n] content w.disk →
        (n ∈ passed ++ others ↔ n ∈ before) := fun n content hfile => by
      rw [← hpassed, List.mem_append, List.mem_filter]
      constructor
      · rintro (hm | hm)
        · exact ⟨hm, (hasFile_iff_called hstands (hdisk n (by simp [hm]))).mpr ⟨content, hfile⟩⟩
        · exact absurd ((hasFile_iff_called hstands (hdisk n (by simp [hm]))).mpr ⟨content, hfile⟩) (hothers n hm)
      · exact fun hm => Or.inl hm.1
    obtain ⟨w', hon, hevaluated⟩ := evaluateNames_stops hstands hnodup hdisk
      (fun n hm content hfile => heval n ((hbefore n content hfile).mp hm) content hfile) hfile hobjects
    refine ⟨w', hrun.trans hon, hevaluated.congr fun x content hx => exists_congr fun n => and_congr_left ?_⟩
    rintro ⟨hlong, rfl⟩
    exact (hbefore n content ⟨hx, hlong⟩).symm

/-- A disk with a directory in which a fixture comes before a file that is none. -/
def mixedDisk : Disk :=
  [(["d"], Entry.directory), (["d", "a"], .directory), (["d", "b"], .file "1".toUTF8),
    (["d", "c"], .file "x".toUTF8)].foldl (fun d (q, e) => d.insert q e) ⟨∅, []⟩

theorem evaluateFixtures_outcome_mixed : ∃ cause content w',
    (evaluateFixtures ⟨["d"]⟩).on ⟨mixedDisk, []⟩ = (.error (.invalidFixture ⟨["d", "c"]⟩ cause), w') ∧
    Evaluates "1".toUTF8 content ∧ w'.disk.find? ["d", "b"] = some (.file content) ∧
    w'.disk.find? ["d", "c"] = some (.file "x".toUTF8) := by
  obtain ⟨names, hsorted, hmem, -, -, hstops⟩ :=
    evaluateFixtures_outcome ⟨["d"]⟩ ⟨mixedDisk, []⟩ (by decide +kernel) (by decide +kernel)
  have hplace : (Path.mk ["d"]).place mixedDisk.home = ["d"] := by decide +kernel
  have hfirst : Called mixedDisk.home ⟨["d"]⟩ ["b"] "1".toUTF8 mixedDisk :=
    ⟨by decide +kernel, by decide +kernel⟩
  have hsecond : Called mixedDisk.home ⟨["d"]⟩ ["c"] "x".toUTF8 mixedDisk :=
    ⟨by decide +kernel, by decide +kernel⟩
  have hnames : names = ["b", "c"] := by
    have hfiles : ∀ name, name ∈ names ↔ name ∈ ["b", "c"] := fun name => by
      have hfind : mixedDisk.find? (["d"] ++ [name]) = if "c" = name then some (.file "x".toUTF8)
          else if "b" = name then some (.file "1".toUTF8)
          else if "a" = name then some .directory else none := by
        have hempty : (⟨∅, []⟩ : Disk).find? ["d", name] = none := by simp [find?_of_ne]
        simp [mixedDisk, find?_insert, hempty]
      rw [hmem]
      constructor
      · rintro ⟨content, hfile, -⟩
        rw [hplace, hfind] at hfile
        split_ifs at hfile with hc hb ha
        · simp [← hc]
        · simp [← hb]
        · cases hfile
      · simp only [List.mem_cons, List.not_mem_nil, or_false]
        rintro (rfl | rfl)
        · exact ⟨_, hfirst⟩
        · exact ⟨_, hsecond⟩
    have hperm := (List.perm_ext_iff_of_nodup (hsorted.imp ne_of_lt) (by decide)).mpr hfiles
    exact hperm.eq_of_pairwise (fun a b _ _ hab hba => absurd hab hba.asymm) hsorted (by decide)
  have hone : (Json.parse "1").toOption.isSome := by decide +kernel
  have hother : (Json.parse "x").toOption.isNone := by decide +kernel
  have hbefore : AreFixtures mixedDisk.home ⟨["d"]⟩ ["b"] mixedDisk := by
    obtain ⟨v, hparse⟩ := Option.isSome_iff_exists.mp hone
    rintro n hn content ⟨hfile, -⟩
    obtain rfl := List.mem_singleton.mp hn
    obtain rfl := Entry.file.inj (Option.some.inj (hfirst.file.symm.trans hfile))
    exact ⟨_, evaluates_of_parse (eq_ok_of_toOption hparse)⟩
  cases hparse : Json.parse "x" with
  | ok v =>
    rw [hparse] at hother
    cases hother
  | error cause =>
    obtain ⟨w', hon, hevaluated⟩ := hstops ["b"] "c" "x".toUTF8 _
      ⟨⟨[], hnames⟩, hbefore, hsecond, .notJson (fromUTF8?_toUTF8 "x") hparse⟩
    obtain ⟨content, heval, hcontent⟩ := hevaluated.file _ _
      ⟨"b", List.mem_singleton_self _, hfirst.short, rfl⟩ hfirst.file
    have hkept := hsecond.file
    rw [hplace] at hcontent hkept
    refine ⟨cause, content, w', hon, heval, hcontent, (hevaluated.other _ ?_).trans hkept⟩
    rintro ⟨n, hn, -, heq⟩
    obtain rfl := List.mem_singleton.mp hn
    rw [hplace] at heq
    exact absurd heq (by decide)

end SiteGen
