import SiteGen.Proofs.Site.Frame
import SiteGen.Proofs.Site.Stock

/-!
# Lists that are refused

An override file gives templates for a kind of device, replacements for the site, and globs for a replacement.
Each of these lists is read as a whole before anything is done with it.

* `Site.ComesTo`, `Site.Makes`: how far generating a site has come.
* `Override.templates_refused`, `Override.replacements_refused`, `FilesetReplacement.apply_refused`: a list is
  refused as the first of its entries that is.
* `Site.generate_refused`: generating a site then stops where the list is asked for.
-/

namespace SiteGen

open Disk SiteGen.Path Run Device

/-! ## Lists -/

namespace Override

variable {o : Override} {v : Yaml} {items : List Yaml} {n : Nat}

/-- The templates of a kind are refused **as the first entry** is that is refused. -/
theorem templates_refused {kind : String} {e : Error} (hv : o.get? (kind ++ "_templates") = some v)
    (hitems : v.asItems = .ok items) (h : FirstRefused Template.ofYaml items n e) :
    o.templates kind = .error e := by
  unfold templates
  rw [hv]
  simp only [hitems]
  rw [h.mapM_eq]
  rfl

theorem readReplacements_refused {e : DecodeError} (h : FirstRefused FilesetReplacement.ofYaml items n e)
    (first : Nat) : readReplacements first items = .error (.invalidReplacement (first + n) e) := by
  induction h generalizing first with
  | here h =>
    unfold readReplacements
    rw [h]
    rfl
  | there ha _ ih =>
    unfold readReplacements
    rw [ha]
    simp only [ih, Nat.add_assoc, Nat.add_comm 1]
    rfl

/-- The replacements are refused with **the number of the first entry** that is refused. -/
theorem replacements_refused {e : DecodeError} (hv : o.get? "replacements" = some v)
    (hitems : v.asItems = .ok items) (h : FirstRefused FilesetReplacement.ofYaml items n e) :
    o.replacements = .error (.invalidReplacement n e) := by
  unfold replacements
  rw [hv]
  simp only [hitems]
  rw [readReplacements_refused h, Nat.zero_add]

end Override

namespace FilesetReplacement

/-- The **globs** of a replacement: those of the files, and those of the files that are left out. -/
def globs (r : FilesetReplacement) : List String := r.includes.getD [defaultInclude] ++ r.excludes.getD []

/-- A replacement is refused **as the first of its globs** is that is refused, and nothing is done. -/
theorem apply_refused {r : FilesetReplacement} {n : Nat} {e : GlobError}
    (h : FirstRefused Glob.ofPattern r.globs n e) (root : Path) (w : World) :
    (r.apply root).on w = (.error (.glob e), w) := by
  have hall := h.append [overrideName]
  rw [globs, List.append_assoc] at hall
  refine bind_of_error ?_
  rw [resolve_on, resolved, select_refused hall]

end FilesetReplacement

namespace Site

variable {s : Site} {o : Override} {w w₁ w₂ : World} {kind : String} {devices : List (String × Option Path)}

/-! ## How far generating has come -/

/-- Whether generating a site **comes to a device**: the override file has been read, and the devices before
this one have been made. -/
inductive ComesTo (s : Site) (o : Override) (kind : String) (w w' : World) : Prop
  | intro {w₁ : World} {before after : List (String × Entry)} {e : Entry} {devices : List (String × Option Path)}
      (read : s.readOverride.on w = (.ok o, w₁))
      (listed : w₁.disk.listing s.directory = .ok (before ++ (kind, e) :: after))
      (device : s.IsDevice (kind, e))
      (made : (s.processEach o before).on w₁ = (.ok devices, w'))

/-- Whether generating a site **makes its devices**: the override file has been read, and all devices have been
made. -/
inductive Makes (s : Site) (o : Override) (devices : List (String × Option Path)) (w w' : World) : Prop
  | intro {w₁ : World} {children : List (String × Entry)}
      (read : s.readOverride.on w = (.ok o, w₁))
      (listed : w₁.disk.listing s.directory = .ok children)
      (made : (s.processEach o children).on w₁ = (.ok devices, w'))

theorem processEach_append (s : Site) (o : Override) (after : List (String × Entry)) :
    ∀ before : List (String × Entry), s.processEach o (before ++ after) = (do
      let devices ← s.processEach o before
      let others ← s.processEach o after
      pure (devices ++ others))
  | [] => by simp only [List.nil_append, processEach, pure_bind, bind_pure]
  | (name, e) :: rest => by
    rw [List.cons_append, processEach, processEach, processEach_append s o after rest]
    split
    · rfl
    · split <;> simp only [bind_assoc, pure_bind, List.cons_append]

theorem replaceAll_append (s : Site) (after : List FilesetReplacement) :
    ∀ before : List FilesetReplacement, s.replaceAll (before ++ after) = (do
      let n ← s.replaceAll before
      let m ← s.replaceAll after
      pure (n + m))
  | [] => by simp only [List.nil_append, replaceAll, pure_bind, Nat.zero_add, bind_pure]
  | r :: rest => by
    rw [List.cons_append, replaceAll, replaceAll, replaceAll_append s after rest]
    simp only [bind_assoc, pure_bind, Nat.add_assoc]

theorem ComesTo.generate_on (h : s.ComesTo o kind w w₁) {e : Error}
    (hon : (s.processDevice kind o).on w₁ = (.error e, w₂)) : s.generate.on w = (.error e, w₂) := by
  obtain ⟨hread, hlisted, hdevice, hmade⟩ := h
  rw [generate_eq, bind_of_ok hread, bind_of_ok (listing_on hlisted), processEach_append]
  refine bind_of_error ?_
  rw [bind_of_ok hmade]
  refine bind_of_error ?_
  rw [processEach, if_neg (by simp [hdevice.1]), if_neg (by simpa using hdevice.2)]
  exact bind_of_error hon

theorem Makes.generate_on (h : s.Makes o devices w w₁) : s.generate.on w = (s.finish o devices).on w₁ := by
  obtain ⟨hread, hlisted, hmade⟩ := h
  rw [generate_eq, bind_of_ok hread, bind_of_ok (listing_on hlisted), bind_of_ok hmade]

/-- Where generating a site comes to a device, **the device is there**. -/
theorem ComesTo.stands (h : s.ComesTo o kind w w₁) (hn : IsPlainName s.name) (ht : w.disk.IsTree) :
    IsPlainName kind ∧ Stands w₁.disk.home (s.deviceDirectory kind) w₁.disk := by
  obtain ⟨hread, hlisted, hdevice, hmade⟩ := h
  have hdisk := (s.readOverride_on w).2
  rw [hread] at hdisk
  rw [hdisk] at hlisted
  obtain ⟨hmaking, hamong, -⟩ := listing_making ht hlisted
  have hmaking' := processEach_stays hn (fun child hc => (hamong child (List.mem_append_left _ hc)).1)
    _ _ _ (hdisk ▸ hmaking) hmade
  have hname := (hamong _ (List.mem_append_right _ List.mem_cons_self)).1
  have hstands := stands_deviceDirectory hmaking'.stands hname
    (hmaking'.there _ List.mem_cons_self hdevice.1)
  exact ⟨hname.toIsPlainName, hstands.home_eq.symm ▸ hstands⟩

/-! ## Where generating stops -/

/-- **Lists are refused as a whole.** If the templates of a device that generating a site comes to have an entry
that is refused, then it stops with the error of the first such entry, and the device is just filled with the
files of its variant. If the replacements have an entry that is refused, then it stops with the number of the
first one when the devices are made. And if a replacement has a glob that is refused, then it stops when those
before it have been carried out. -/
theorem generate_refused (s : Site) (o : Override) (w : World) :
    (∀ kind variant w₁ w₂ v items, s.ComesTo o kind w w₁ → (s.stock kind o).on w₁ = (.ok variant, w₂) →
      o.get? (kind ++ "_templates") = some v → v.asItems = .ok items →
      (∃ item ∈ items, ∀ t, Template.ofYaml item ≠ .ok t) →
      (∃ n e, FirstRefused Template.ofYaml items n e ∧ s.generate.on w = (.error e, w₂)) ∧
      (w.disk.IsTree → IsPlainName s.name → IsPlainName variant →
        Filled (s.filesOf w₁.disk kind variant) w₁.disk.home (s.deviceDirectory kind) w₂.disk)) ∧
    (∀ devices w₁ v items, s.Makes o devices w w₁ →
      o.get? "replacements" = some v → v.asItems = .ok items →
      (∃ item ∈ items, ∀ r, FilesetReplacement.ofYaml item ≠ .ok r) →
      ∃ n e, FirstRefused FilesetReplacement.ofYaml items n e ∧
        s.generate.on w = (.error (.invalidReplacement n e), w₁)) ∧
    (∀ devices w₁ w₂ before r after m, s.Makes o devices w w₁ →
      o.replacements = .ok (before ++ r :: after) → (s.replaceAll before).on w₁ = (.ok m, w₂) →
      (∃ pattern ∈ r.globs, ∀ g, Glob.ofPattern pattern ≠ .ok g) →
      ∃ n e, FirstRefused Glob.ofPattern r.globs n e ∧ s.generate.on w = (.error (.glob e), w₂)) := by
  refine ⟨fun kind variant w₁ w₂ v items hcomes hstock hv hitems hrefused => ⟨?_, fun ht hn hvariant => ?_⟩,
    fun devices w₁ v items hmakes hv hitems hrefused => ?_,
    fun devices w₁ w₂ before r after m hmakes hrs hbefore hrefused => ?_⟩
  · obtain ⟨n, e, hfirst⟩ := exists_firstRefused hrefused
    refine ⟨n, e, hfirst, hcomes.generate_on ?_⟩
    rw [processDevice_stock, bind_of_ok hstock]
    refine bind_of_error ?_
    rw [ofResult_on, Override.templates_refused hv hitems hfirst]
  · obtain ⟨hk, hstands⟩ := hcomes.stands hn ht
    exact ((stock_ends hn hk hstands _ _ _ rfl hstock).filled hvariant).1
  · obtain ⟨n, e, hfirst⟩ := exists_firstRefused hrefused
    refine ⟨n, e, hfirst, hmakes.generate_on.trans (bind_of_error ?_)⟩
    rw [ofResult_on, Override.replacements_refused hv hitems hfirst]
  · obtain ⟨n, e, hfirst⟩ := exists_firstRefused hrefused
    refine ⟨n, e, hfirst, hmakes.generate_on.trans ?_⟩
    have hread : (Run.ofResult o.replacements).on w₁ = (.ok (before ++ r :: after), w₁) := by
      rw [ofResult_on, hrs]
    rw [finish, bind_of_ok hread, replaceAll_append]
    refine bind_of_error ?_
    rw [bind_of_ok hbefore, replaceAll]
    exact bind_of_error (bind_of_error (FilesetReplacement.apply_refused hfirst _ _))

/-! ## Small override files -/

/-- The small site in a workspace that knows **no kinds** of devices. -/
def bare : Site := ⟨"a", ⟨Path.ofText "w", []⟩⟩

/-- The small site with some lines in its override file. -/
def smallWorld (lines : List String) : World :=
  ⟨smallDisk.insert ["w", "config", "a", FilesetReplacement.overrideName] (.file (String.join lines).toUTF8), []⟩

/-- An override file in which an empty text follows a template, and a replacement. -/
def faulty : Override :=
  ⟨[(.string "twins_templates", .sequence [twoFiles, .string ""]),
    (.string "replacements", .sequence [inTests, .string ""])]⟩

def faultyLines : List String :=
  ["'twins_templates': ["] ++ twoFilesLines ++ [", '']\n", "'replacements': ["] ++ inTestsLines ++ [", '']\n"]

theorem ofText_faulty : Override.ofText (String.join faultyLines) = .ok faulty := by
  refine @Override.ofText_eq _ ([.blockMapping, .key, .scalar "twins_templates" false, .value, .openSequence] ++
      twoFilesTokens ++ [.comma, .scalar "" false, .closeSequence, .key, .scalar "replacements" false, .value,
      .openSequence] ++ inTestsTokens ++ [.comma, .scalar "" false, .closeSequence, .blockEnd, .streamEnd])
    (.mapping ⟨none, none⟩ [(quoted "twins_templates", .sequence ⟨none, none⟩ [twoFilesNode, quoted ""]),
      (quoted "replacements", .sequence ⟨none, none⟩ [inTestsNode, quoted ""])])
    (.mapping faulty.settings) _ (by decide +kernel) (by decide +kernel) rfl ?_ rfl
  simp [quoted, faulty, twoFiles, twoFilesNode, inTests, inTestsNode, Yaml.ofDocument, Yaml.Node.link?,
    Yaml.Node.linkEntries?, Yaml.Node.linkItems?, Yaml.Anchors.define, Yaml.Anchors.empty, Yaml.orMalformed,
    Yaml.value, Yaml.entryValues, Yaml.itemValues, Yaml.Repeats.follow, Yaml.depthLimit,
    Yaml.Node.applicationTag?, Yaml.scalarValue, Yaml.wrap, bind, Except.bind, Yaml.same]

/-- An override file in which a replacement with an open bracket for a glob follows another one. -/
def unclosed : Override :=
  ⟨[(.string "replacements", .sequence [inTests, .mapping [(.string "target", .string "n"),
    (.string "value", .string "3"), (.string "include", .sequence [.string "*", .string "["])]])]⟩

def unclosedLines : List String :=
  ["'replacements': ["] ++ inTestsLines ++
    [", \x7b'target': 'n', 'value': '3', 'include': ['*', '[']\x7d", "]\n"]

theorem ofText_unclosed : Override.ofText (String.join unclosedLines) = .ok unclosed := by
  refine @Override.ofText_eq _ ([.blockMapping, .key, .scalar "replacements" false, .value, .openSequence] ++
      inTestsTokens ++ [.comma, .openMapping, .key, .scalar "target" false, .value, .scalar "n" false, .comma,
      .key, .scalar "value" false, .value, .scalar "3" false, .comma, .key, .scalar "include" false, .value,
      .openSequence, .scalar "*" false, .comma, .scalar "[" false, .closeSequence, .closeMapping,
      .closeSequence, .blockEnd, .streamEnd])
    (.mapping ⟨none, none⟩ [(quoted "replacements", .sequence ⟨none, none⟩
      [inTestsNode, .mapping ⟨none, none⟩ [(quoted "target", quoted "n"), (quoted "value", quoted "3"),
        (quoted "include", .sequence ⟨none, none⟩ [quoted "*", quoted "["])]])])
    (.mapping unclosed.settings) _ (by decide +kernel) (by decide +kernel) rfl ?_ rfl
  simp [quoted, unclosed, inTests, inTestsNode, Yaml.ofDocument, Yaml.Node.link?, Yaml.Node.linkEntries?,
    Yaml.Node.linkItems?, Yaml.Anchors.define, Yaml.Anchors.empty, Yaml.orMalformed, Yaml.value,
    Yaml.entryValues, Yaml.itemValues, Yaml.Repeats.follow, Yaml.depthLimit, Yaml.Node.applicationTag?,
    Yaml.scalarValue, Yaml.wrap, bind, Except.bind, Yaml.same]

theorem replacements_unclosed :
    unclosed.replacements = .ok ([twoForN] ++ ⟨"n", .text "3", some ["*", "["], none⟩ :: []) := rfl

theorem comesTo_small : small.ComesTo faulty "twins" (smallWorld faultyLines) (smallWorld faultyLines) :=
  @ComesTo.intro _ _ _ _ _ (smallWorld faultyLines) []
    [(FilesetReplacement.overrideName, .file (String.join faultyLines).toUTF8)] .directory []
    (readOverride_of_text (readText_of_readBytes rfl) ofText_faulty) rfl ⟨rfl, by decide⟩ rfl

/-- If no kinds are known, generating the small site makes no device. -/
theorem makes_bare : bare.Makes faulty [] (smallWorld faultyLines)
    ⟨(smallWorld faultyLines).disk, [.unknownDevice "a" "twins"]⟩ :=
  @Makes.intro _ _ _ _ _ (smallWorld faultyLines)
    [("twins", .directory), (FilesetReplacement.overrideName, .file (String.join faultyLines).toUTF8)]
    (readOverride_of_text (readText_of_readBytes rfl) ofText_faulty) rfl rfl

/-- The small site with the open bracket, and a fixture with what is replaced. -/
def unclosedWorld : World :=
  ⟨(smallWorld unclosedLines).disk.insert ["w", "twins_variants", "root", "tests", "t.json"] (.file "n".toUTF8), []⟩

def unclosedChildren : List (String × Entry) :=
  [("twins", .directory), (FilesetReplacement.overrideName, .file (String.join unclosedLines).toUTF8)]

theorem makes_unclosed : small.Makes unclosed [("twins", some ⟨["w", "config", "a", "twins", "tests"]⟩)]
    unclosedWorld ((small.processEach unclosed unclosedChildren).on unclosedWorld).2 :=
  .intro (readOverride_of_text (readText_of_readBytes rfl) ofText_unclosed) rfl (on_of_toOption (by decide +kernel))

theorem generate_refused_small :
    (∃ w' n e, FirstRefused Template.ofYaml [twoFiles, .string ""] n e ∧
      small.generate.on (smallWorld faultyLines) = (.error e, w') ∧
      Filled (small.filesOf (smallWorld faultyLines).disk "twins" rootVariant) []
        (small.deviceDirectory "twins") w'.disk) ∧
    (∃ w' n e, FirstRefused FilesetReplacement.ofYaml [inTests, .string ""] n e ∧
      bare.generate.on (smallWorld faultyLines) = (.error (.invalidReplacement n e), w') ∧
      w'.disk = (smallWorld faultyLines).disk) ∧
    ∃ w' n e, FirstRefused Glob.ofPattern ["*", "["] n e ∧
      small.generate.on unclosedWorld = (.error (.glob e), w') ∧
      w'.disk.find? ["w", "config", "a", "twins", "tests", "t.json"] = some (.file "2".toUTF8) := by
  refine ⟨?_, ?_, ?_⟩
  · have hstock : (small.stock "twins" faulty).on (smallWorld faultyLines) =
        (.ok rootVariant, ((small.stock "twins" faulty).on (smallWorld faultyLines)).2) :=
      on_of_toOption (by decide +kernel)
    obtain ⟨⟨n, e, hfirst, hon⟩, hfilled⟩ := (generate_refused small faulty (smallWorld faultyLines)).1
      "twins" rootVariant _ _ (.sequence [twoFiles, .string ""]) _ comesTo_small hstock rfl rfl
      ⟨.string "", by simp, nofun⟩
    exact ⟨_, n, e, hfirst, hon,
      hfilled (by decide +kernel) (by decide) isDiskName_root.toIsPlainName⟩
  · obtain ⟨n, e, hfirst, hon⟩ := (generate_refused bare faulty (smallWorld faultyLines)).2.1 [] _
      (.sequence [inTests, .string ""]) _ makes_bare rfl rfl ⟨.string "", by simp, nofun⟩
    exact ⟨_, n, e, hfirst, hon, rfl⟩
  · have hglob : (Glob.ofPattern "[").toOption.isSome = false := by decide +kernel
    obtain ⟨w', hbefore, htwo⟩ : ∃ w', (small.replaceAll [twoForN]).on
        ((small.processEach unclosed unclosedChildren).on unclosedWorld).2 = (.ok 1, w') ∧
        w'.disk.find? ["w", "config", "a", "twins", "tests", "t.json"] = some (.file "2".toUTF8) := by
      rw [replaceAll, apply_twoForN]
      exact ⟨_, on_of_toOption (by decide +kernel), by decide +kernel⟩
    obtain ⟨n, e, hfirst, hon⟩ := (generate_refused small unclosed unclosedWorld).2.2 _ _ _
      [twoForN] _ [] 1 makes_unclosed replacements_unclosed hbefore
      ⟨"[", by simp [FilesetReplacement.globs], ne_ok_of_toOption hglob⟩
    exact ⟨_, n, e, hfirst, hon, htwo⟩

end Site

end SiteGen
