import SiteGen.Proofs.Device.Files
import SiteGen.Proofs.Tree.Paint

/-!
# What the files of a device are

The files of the chosen variant lie over those of the root variant.

* `Device.testsOf`, `Device.configOf`: what a variant has in its tests and its configuration.
* `Device.overlay`: the files of a device, by the two variants.
* `Device.HasRoomFor`, `Device.LiesOver`, `Device.ShortParts`: what it takes to copy the root variant, and to
  lay another one over it.
* `Device.copyRoot_fills`, `Device.copyVariant_fills`: copying the variants makes these files.
* `Device.isLong_of_overlay`: the path of none of these files is too long.
-/

namespace SiteGen

open Disk SiteGen.Path Run

namespace Device

/-! ## Pictures of variants -/

/-- What a variant has in its **tests**. -/
def testsOf (d : Disk) (variant : Place) (m : List String) : Option Entry :=
  if d.find? (variant ++ [testsName]) = some .directory then d.find? (variant ++ testsName :: m)
  else none

/-- What a variant has in its **configuration**: everything but its tests. -/
def configOf (d : Disk) (variant : Place) (m : List String) : Option Entry :=
  if m.head? = some testsName ∧ d.find? (variant ++ [testsName]) = some .directory then none
  else d.find? (variant ++ m)

/-- Where what a variant has **goes** in the directory of a device. -/
def picture (d : Disk) (variant : Place) : Picture
  | [] => none
  | top :: m =>
    if top = configName then configOf d variant m
    else if top = testsName then testsOf d variant m
    else none

/-- **The files of a device**: those of a variant over those of the root variant. -/
def overlay (d : Disk) (variant root : Place) : Picture := fun names =>
  (picture d variant names).or (picture d root names)

/-- Whether there is **room** for what is in the root variant in the configuration of a device: no path by which it
is read or put there is too long, nor is any of its names. -/
structure HasRoomFor (d : Disk) (source goal : Path) (root : Place) : Prop where
  short : Short d source goal root
  names : ∀ m, m ≠ [] → (d.find? (root ++ m)).isSome = true → missing (m.getLast?.getD "") = .notFound

/-- Whether a variant **can be laid over** the root variant: nothing is a directory in one of them and a
file in the other, and no name that only it has is too long. -/
def LiesOver (d : Disk) (variant root : Place) : Prop :=
  ∀ m e, picture d variant m = some e → Covers m e (picture d root m)

/-- Where something in the directory of a variant is **copied to**, if it is a directory. -/
def partGoal (device : Device) (name : String) : Path :=
  if name = testsName then device.tests else device.config.join ⟨[name]⟩

/-- Whether **no path is too long** by which something in the directory of a variant is read or written. -/
def ShortPart (d : Disk) (device : Device) (v : Path) (variant : Place) (name : String) (e : Entry) : Prop :=
  if e.isDirectory then Short d (v.join ⟨[name]⟩) (device.partGoal name) (variant ++ [name])
  else (v.join ⟨[name]⟩).isLong = false ∧ (device.config.join ⟨[name]⟩).isLong = false

/-- Whether no path is too long by which anything in a variant is read or written. -/
def ShortParts (d : Disk) (device : Device) (v : Path) (variant : Place) : Prop :=
  ∀ name e, d.find? (variant ++ [name]) = some e → ShortPart d device v variant name e

/-- Whether a device is **filled** with what a picture shows, and nothing else. -/
def Filled (P : Picture) (home : Place) (base : Path) (d : Disk) : Prop :=
  ∀ top ∈ [configName, testsName], ∀ m, d.find? (base.place home ++ top :: m) = P (top :: m)

/-- Whether a device is **bare**: it has no tests, and at most an empty directory of the configuration. -/
structure Bare (home : Place) (base : Path) (d : Disk) : Prop where
  config : d.find? (base.place home ++ [configName]) = none ∨
    d.find? (base.place home ++ [configName]) = some .directory
  below : ∀ m, m ≠ [] → d.find? (base.place home ++ configName :: m) = none
  tests : ∀ m, d.find? (base.place home ++ testsName :: m) = none

variable {home : Place} {base : Path} {d₀ d₁ d d' : Disk} {variant : Place}

theorem Bare.of_gone (h : ∀ x, Outputs home base x → d.find? x = none) : Bare home base d :=
  ⟨Or.inl (h _ (Or.inl (List.prefix_refl _))), fun m _ => h _ (Or.inl ⟨m, by simp⟩),
    fun m => h _ (Or.inr ⟨m, by simp⟩)⟩

@[simp]
theorem picture_config (m : List String) : picture d variant (configName :: m) = configOf d variant m := by
  rw [picture, if_pos rfl]

@[simp]
theorem picture_tests (m : List String) : picture d variant (testsName :: m) = testsOf d variant m := by
  rw [picture, if_neg (by decide), if_pos rfl]

/-- Where something in the directory of a variant goes. -/
def goalNames (name : String) (e : Entry) : List String :=
  if name = testsName ∧ e = .directory then [testsName] else [configName, name]

theorem picture_congr (h : ∀ m, d.find? (variant ++ m) = d'.find? (variant ++ m)) :
    picture d variant = picture d' variant := by
  funext names
  cases names with
  | nil => rfl
  | cons top m => simp only [picture, configOf, testsOf, h]

theorem hasRoomFor_congr {source goal : Path} {root : Place}
    (h : ∀ m, d.find? (root ++ m) = d'.find? (root ++ m)) :
    HasRoomFor d source goal root ↔ HasRoomFor d' source goal root :=
  ⟨fun hroom => ⟨(short_congr h).mp hroom.short, fun m hne hm => hroom.names m hne (h m ▸ hm)⟩,
    fun hroom => ⟨(short_congr h).mpr hroom.short, fun m hne hm => hroom.names m hne (h m ▸ hm)⟩⟩

theorem liesOver_congr {root : Place}
    (hvariant : ∀ m, d.find? (variant ++ m) = d'.find? (variant ++ m))
    (hroot : ∀ m, d.find? (root ++ m) = d'.find? (root ++ m)) :
    LiesOver d variant root ↔ LiesOver d' variant root := by
  rw [LiesOver, LiesOver, picture_congr hvariant, picture_congr hroot]

theorem shortParts_congr {device : Device} {v : Path}
    (h : ∀ m, d.find? (variant ++ m) = d'.find? (variant ++ m)) :
    ShortParts d device v variant ↔ ShortParts d' device v variant := by
  simp only [ShortParts, ShortPart, Short, List.append_assoc, h]

theorem overlay_congr {root : Place}
    (hvariant : ∀ m, d.find? (variant ++ m) = d'.find? (variant ++ m))
    (hroot : ∀ m, d.find? (root ++ m) = d'.find? (root ++ m)) :
    overlay d variant root = overlay d' variant root := by
  funext m
  rw [overlay, overlay, picture_congr hvariant, picture_congr hroot]

theorem picture_part {name : String} {e : Entry} (h : d.find? (variant ++ [name]) = some e)
    (m : List String) : picture d variant (goalNames name e ++ m) = d.find? (variant ++ name :: m) := by
  unfold goalNames
  split
  · next hpart =>
    obtain ⟨rfl, rfl⟩ := hpart
    rw [List.singleton_append, picture_tests, testsOf, if_pos h]
  · next hpart =>
    rw [List.cons_append, List.singleton_append, picture_config, configOf, if_neg]
    rintro ⟨hname, hdir⟩
    obtain rfl : name = testsName := by simpa using hname
    rw [h] at hdir
    exact hpart ⟨rfl, Option.some.inj hdir⟩

theorem top_of_picture {names : List String} {e : Entry} (h : picture d variant names = some e) :
    ∃ top ∈ [configName, testsName], ∃ m, names = top :: m := by
  cases names with
  | nil => cases h
  | cons top m =>
    refine ⟨top, ?_, m, rfl⟩
    rw [picture] at h
    split at h
    · next htop => simp [htop]
    · split at h
      · next htop => simp [htop]
      · cases h

theorem part_of_picture (ht : d.IsTree) {names : List String} {e : Entry}
    (h : picture d variant names = some e) :
    names = [configName] ∨ ∃ name part m, d.find? (variant ++ [name]) = some part ∧
      d.find? (variant ++ name :: m) = some e ∧ names = goalNames name part ++ m := by
  obtain ⟨top, htop, rest, rfl⟩ := top_of_picture h
  rcases List.mem_pair.mp htop with rfl | rfl
  · rw [picture_config, configOf] at h
    split at h
    · cases h
    · next hnot =>
      obtain _ | ⟨name, m⟩ := rest
      · exact Or.inl rfl
      obtain ⟨part, hpart⟩ := Option.isSome_iff_exists.mp
        (ht.isSome_prefix (by rw [h]; rfl) (p := variant ++ [name]) ⟨m, by simp⟩)
      refine Or.inr ⟨name, part, m, hpart, h, ?_⟩
      rw [goalNames, if_neg]
      · rfl
      · rintro ⟨rfl, rfl⟩
        exact hnot ⟨rfl, hpart⟩
  · rw [picture_tests, testsOf] at h
    split at h
    · next hdir => exact Or.inr ⟨testsName, .directory, rest, hdir, h, by rw [goalNames, if_pos ⟨rfl, rfl⟩]; rfl⟩
    · cases h

theorem picture_configName (h : d.find? variant = some .directory) :
    picture d variant [configName] = some .directory := by
  rw [picture_config, configOf, if_neg (by simp), List.append_nil, h]

theorem shows_part {name : String} (hv : d.find? variant = some .directory)
    (hd : d.find? (variant ++ [name]) = some .directory) :
    Shows (picture d variant) d (variant ++ [name]) (goalNames name .directory) := by
  refine ⟨fun m hne hm => ?_, fun m _ => ?_⟩
  · have hend := picture_part hd []
    rw [List.append_nil, hd] at hend
    unfold goalNames at hm hend
    obtain ⟨first, rest, rfl⟩ := List.exists_cons_of_ne_nil hne
    split at hm
    · next h =>
      obtain ⟨rfl, hrest⟩ := List.cons_prefix_cons.mp hm
      rw [if_pos h] at hend
      rw [List.prefix_nil.mp hrest, hend]
    · next h =>
      obtain ⟨rfl, hrest⟩ := List.cons_prefix_cons.mp hm
      rw [if_neg h] at hend
      cases rest with
      | nil => exact picture_configName hv
      | cons second rest =>
        obtain ⟨rfl, hnil⟩ := List.cons_prefix_cons.mp hrest
        rw [List.prefix_nil.mp hnil, hend]
  · rw [picture_part hd, List.append_assoc, List.singleton_append]

/-! ## Copying the root variant -/

/-- The scope of a device of which **only its outputs** may be changed. -/
def own (home : Place) (base : Path) : Scope := ⟨Outputs home base, fun _ => False, fun _ => True, True⟩

theorem serves_own (h : Away home base) : Serves (own home base) home base :=
  ⟨⟨fun _ _ => trivial, fun _ _ => trivial⟩, fun _ hx => hx, h⟩

/-- What holds while the files of a device are copied: all but its outputs is as it was. -/
structure Filling (home : Place) (base : Path) (d₀ d : Disk) : Prop where
  stands : Stands home base d
  same : SameOn (fun q => ¬Outputs home base q) d d₀

theorem Filling.ends {x : Run PUnit} (hx : Confined (own home base) (Stands home base) x
    fun _ d => Stands home base d) :
    Ends (Filling home base d) x fun _ d' => Filling home base d d' :=
  (hx.keeps fun _ hq => ⟨hq, id⟩).imp (fun _ hd => ⟨hd.stands, hd.same⟩) fun _ _ hd => ⟨hd.1, hd.2⟩

theorem Source.same {p : Path} (hp : Source (own home base) home base p) (h : Filling home base d₀ d) :
    SameOn (Seen home p) d d₀ := h.same.mono fun _ hq => hp.away trivial _ hq

variable {device : Device}

/-- The picture of everything at and below a place, in the configuration. -/
def inConfig (d : Disk) (place : Place) : Picture
  | [] => none
  | top :: m => if top = configName then d.find? (place ++ m) else none

theorem paintable_inConfig {source goal : Path} {place : Place} (h : HasRoomFor d source goal place) (hbare : Bare home base d)
    (hplace : d.find? place = some .directory)
    (hconfig : d.find? (base.place home ++ [configName]) = some .directory) :
    Paintable (inConfig d place) home base d := by
  intro m e hm
  cases m with
  | nil => cases hm
  | cons top m =>
    rw [inConfig] at hm
    split at hm
    · next htop =>
      subst htop
      by_cases hnil : m = []
      · subst hnil
        rw [List.append_nil, hplace] at hm
        obtain rfl := Option.some.inj hm
        rw [hconfig]
        rfl
      · obtain ⟨first, rest, rfl⟩ := List.exists_cons_of_ne_nil hnil
        rw [hbare.below _ hnil]
        have hname := h.names (first :: rest) hnil (by rw [hm]; rfl)
        rwa [List.getLast?_cons_cons.symm] at hname
    · cases hm

theorem shows_inConfig {place : Place} (h : d.find? place = some .directory) :
    Shows (inConfig d place) d place [configName] := by
  refine ⟨fun m hne hm => ?_, fun m _ => ?_⟩
  · obtain ⟨first, rest, rfl⟩ := List.exists_cons_of_ne_nil hne
    obtain ⟨rfl, hrest⟩ := List.cons_prefix_cons.mp hm
    rw [List.prefix_nil.mp hrest, inConfig, if_pos rfl, List.append_nil, h]
  · rw [List.singleton_append, inConfig, if_pos rfl]

/-- What holds when everything in the root variant is in the configuration, and no tests are there. -/
structure Copied (home : Place) (base : Path) (d₀ : Disk) (root : Place) (d : Disk) : Prop where
  stands : Stands home base d
  config : ∀ m, d.find? (base.place home ++ configName :: m) = d₀.find? (root ++ m)
  tests : ∀ m, d.find? (base.place home ++ testsName :: m) = none

theorem Copied.leads {root : Place} (h : Copied home base d₀ root d)
    (hroot : d₀.find? root = some .directory) : d.Leads (base.join ⟨[configName]⟩) := by
  refine h.stands.leads.child isDiskName_config ?_
  have := h.config []
  rw [List.append_nil, hroot] at this
  rw [h.stands.home_eq]
  exact this

theorem Copied.hasAny_tests {root : Place} (h : Copied home device.directory d₀ root d) :
    d.hasAny device.tests = false := by
  rw [Device.tests, hasAny_child h.stands.tree h.stands.leads isDiskName_tests, h.stands.home_eq, h.tests []]
  simp

/-- What moving the tests out of the copy of the root variant does, if their path is not too long. -/
theorem Copied.rename_tests {root : Place} (h : Copied home device.directory d₀ root d)
    (hroot : d₀.find? root = some .directory)
    (htests : d₀.find? (root ++ [testsName]) = some .directory)
    (hlong : (device.config.join ⟨[testsName]⟩).isLong = false) :
    d.rename (device.config.join ⟨[testsName]⟩) device.tests =
      .ok (d.moveBelow (device.config.place home ++ [testsName]) (device.directory.place home ++ [testsName])) := by
  have hlc : d.Leads device.config := h.leads hroot
  obtain ⟨⟨ht, rfl, hleads⟩, hconfig, hnone⟩ := h
  have hshort : (device.directory.join ⟨[testsName]⟩).isLong = false := isLong_tests_of_config hlong
  have hroom : missing testsName = .notFound := by decide +kernel
  have hrename := rename_child ht hlc hleads isDiskName_tests isDiskName_tests (by
    rw [place_config, List.append_assoc]
    exact (hconfig [testsName]).trans htests) (hnone []) fun hpre => by
      rw [place_config, List.append_assoc] at hpre
      have := (List.prefix_append_right_inj _).mp hpre
      exact absurd (List.cons_prefix_cons.mp this).1 (by decide)
  rw [hlong, hshort, Bool.or_self, if_neg Bool.false_ne_true, if_pos hroom] at hrename
  exact hrename

/-- **Moving the tests out** of the copy of the root variant. -/
theorem moveTests_fills {root : Place} (hroot : d₀.find? root = some .directory)
    (htests : d₀.find? (root ++ [testsName]) = some .directory)
    (hlong : (device.config.join ⟨[testsName]⟩).isLong = false) :
    Ends (Copied home device.directory d₀ root)
      (moveTree (device.config.join ⟨[testsName]⟩) device.tests) fun _ d =>
        Filled (picture d₀ root) home device.directory d := by
  unfold moveTree
  refine (Ends.inspect _).bind fun b => .ite (fun hb => ?_) (fun _ => ?_)
  · -- nothing is there, so that nothing is merged
    rintro w a w' ⟨hw, hany⟩ -
    rw [hb, hw.hasAny_tests] at hany
    cases hany
  · refine .change fun d d' hd h => ?_
    obtain ⟨hcopied, -⟩ := hd
    rw [hcopied.rename_tests hroot htests hlong] at h
    have hnot : ∀ m, ¬device.directory.place home ++ [testsName] <+:
        device.directory.place home ++ configName :: m := fun m hpre => by
      have := (List.prefix_append_right_inj _).mp hpre
      exact absurd (List.cons_prefix_cons.mp this).1 (by decide)
    have hmoved : ∀ m, device.config.place home ++ [testsName] <+:
        device.directory.place home ++ configName :: m ↔ m.head? = some testsName := fun m => by
      rw [place_config, List.append_assoc, List.prefix_append_right_inj, List.singleton_append,
        List.cons_prefix_cons]
      cases m <;> simp [eq_comm]
    obtain rfl := Except.ok.inj h
    rintro top htop m
    rw [find?_moveBelow _ (concat_ne_nil _ _) (concat_ne_nil _ _)]
    rcases List.mem_pair.mp htop with rfl | rfl
    · rw [if_neg (hnot m), picture_config, configOf]
      simp only [hmoved, htests, and_true, hcopied.config]
    · rw [if_pos ⟨m, by simp⟩, picture_tests, testsOf, if_pos htests, ← hcopied.config, place_config]
      congr 1
      simp

theorem Copied.hasDirectory_tests {root : Place} (h : Copied home device.directory d₀ root d)
    (hroot : d₀.find? root = some .directory) :
    d.hasDirectory (device.config.join ⟨[testsName]⟩) =
      (!(device.config.join ⟨[testsName]⟩).isLong &&
        (d₀.find? (root ++ [testsName])).any (·.isDirectory)) := by
  have hlc : d.Leads device.config := h.leads hroot
  rw [hasDirectory_child h.stands.tree hlc isDiskName_tests, h.stands.home_eq, place_config,
    List.append_assoc, ← h.config [testsName]]
  rfl

theorem HasRoomFor.isLong_tests {source : Path} {root : Place} {e : Entry}
    (h : HasRoomFor d source device.config root) (htests : d.find? (root ++ [testsName]) = some e) :
    (device.config.join ⟨[testsName]⟩).isLong = false :=
  (h.short [testsName] (by rw [htests]; rfl)).2

section Root

variable {library root : Path} (hs : Stands home device.directory d₀)
  (hbare : Bare home device.directory d₀)
  (hp : Source (own home device.directory) home device.directory root)

include hs hbare hp

/-- Copying the **tree of the root variant**. -/
theorem copyRootTree_copies (hleads : d₀.Leads root) (haccepted : root.Accepted) :
    Ends (· = d₀) (copyTree root device.config) fun _ d =>
      Copied home device.directory d₀ (root.place home) d ∧
        HasRoomFor d₀ root device.config (root.place home) := by
  have hdirectory : d₀.find? (root.place home) = some .directory := hs.home_eq ▸ hleads.place
  refine (@copyTree_paints home device.directory root configName _ d₀ d₀ []
    (by simpa using isDiskName_config) (hp.apart trivial haccepted fun _ hx => Or.inl hx) hs.tree
    (shows_inConfig hdirectory)).imp (fun d hd => ?_)
    fun _ d hd => ⟨⟨hd.1.stands, fun m => ?_, fun m => ?_⟩, hd.2.2, fun m hne hm => ?_⟩
  · subst hd
    exact ⟨⟨hs, SameOn.refl _ _, Painted.refl ..⟩, hleads⟩
  · cases hm : d₀.find? (root.place home ++ m) with
    | some e =>
      rw [← hm]
      exact hd.2.1 m (by rw [hm]; rfl)
    | none =>
      rw [hd.1.painted.outside (by rw [inConfig, if_pos rfl, hm]), hbare.below m]
      rintro rfl
      rw [List.append_nil, hdirectory] at hm
      cases hm
  · rw [hd.1.painted.outside (by rw [inConfig, if_neg (by decide)]), hbare.tests]
  · -- what was not there has been painted, so that its name is not too long
    obtain ⟨e, he⟩ := Option.isSome_iff_exists.mp hm
    have hcovers := @Painted.covers _ _ _ _ _ (configName :: m) hd.1.painted e
      (by rw [inConfig, if_pos rfl, he]) (by rw [← he]; exact hd.2.1 m hm)
    rw [hbare.below m hne] at hcovers
    obtain ⟨first, rest, rfl⟩ := List.exists_cons_of_ne_nil hne
    exact hcovers

/-- **Copying the root variant** fills a device that is bare. -/
theorem copyRoot_fills (hroot : (variantsDirectory library device.kind).join ⟨[rootVariant]⟩ = root) :
    Ends (· = d₀) (device.copyRoot library) fun _ d =>
      Filled (picture d₀ (root.place home)) home device.directory d ∧
      d₀.find? (root.place home) = some .directory ∧
      HasRoomFor d₀ root device.config (root.place home) := by
  unfold copyRoot
  rw [hroot]
  have hpre : ∀ d, d = d₀ ∧ d.hasDirectory root = true → d = d₀ ∧ d₀.hasDirectory root = true := by
    rintro d ⟨rfl, h⟩
    exact ⟨rfl, h⟩
  refine (Ends.inspect _).bind fun b => .ite (fun _ => .fail _) fun hb => ?_
  have hb' : b = true := by simpa using hb
  subst hb'
  refine (Ends.of_pre fun hdir => ?_).imp hpre fun _ _ hd => hd
  obtain ⟨hleads, haccepted⟩ := leads_of_hasDirectory hs.tree.noLink hdir
  have hdirectory : d₀.find? (root.place home) = some .directory := hs.home_eq ▸ hleads.place
  refine (copyRootTree_copies hs hbare hp hleads haccepted).seq fun _ => .of_pre fun hroom =>
    Ends.post ?_ fun _ d hd => ⟨hd, hdirectory, hroom⟩
  refine (Ends.inspect _).bind fun b => ?_
  by_cases htests : d₀.find? (root.place home ++ [testsName]) = some .directory
  · have hlong := hroom.isLong_tests htests
    refine .ite (fun _ => (moveTests_fills hdirectory htests hlong).imp (fun d hd => hd.1) fun _ _ hd => hd)
      fun hb => ?_
    rintro w a w' ⟨hw, hdir⟩ -
    rw [hw.hasDirectory_tests hdirectory, htests, hlong] at hdir
    exact absurd hdir.symm hb
  · refine .ite (fun hb => ?_) fun _ => .pure fun d hd => ?_
    · rintro w a w' ⟨hw, hdir⟩ -
      rw [hw.hasDirectory_tests hdirectory, hb, Bool.and_eq_true, any_isDirectory_iff] at hdir
      exact absurd hdir.2 htests
    · rintro top htop m
      rcases List.mem_pair.mp htop with rfl | rfl
      · rw [hd.1.config, picture_config, configOf, if_neg fun h => htests h.2]
      · rw [hd.1.tests, picture_tests, testsOf, if_neg htests]

end Root

/-! ## Copying the chosen variant -/

/-- What holds while the chosen variant is copied. -/
structure Overlaying (home : Place) (base : Path) (variant : Place) (d₀ d₁ d : Disk) : Prop where
  filling : Filling home base d₀ d
  painted : Painted (picture d₀ variant) home base d₁ d

/-- Whether something in the directory of a variant **has been laid** where it goes. -/
def Laid (home : Place) (base : Path) (variant : Place) (d₀ : Disk) (part : String × Entry) (d : Disk) :
    Prop :=
  ∀ m, (d₀.find? (variant ++ part.1 :: m)).isSome = true →
    d.find? (base.place home ++ (goalNames part.1 part.2 ++ m)) = d₀.find? (variant ++ part.1 :: m)

variable {v : Path} {name : String}

theorem join_part (device : Device) (name : String) :
    device.config.join ⟨[name]⟩ = device.directory.join ⟨[configName, name]⟩ :=
  join_join (continues_single configName) (by simp [configName]) (continues_single name)

theorem goal_directory (device : Device) (home : Place) (hname : IsDiskName name) :
    ∃ top others, goalNames name .directory = top :: others ∧ (∀ n ∈ top :: others, IsDiskName n) ∧
      (∀ x, Under home device.directory top x → Outputs home device.directory x) ∧
      device.partGoal name = device.directory.join ⟨top :: others⟩ := by
  unfold partGoal
  by_cases h : name = testsName
  · exact ⟨testsName, [], if_pos ⟨h, rfl⟩, by simpa using isDiskName_tests, fun _ => Or.inr, if_pos h⟩
  · exact ⟨configName, [name], if_neg fun h' => h h'.1, by simpa using ⟨isDiskName_config, hname⟩,
      fun _ => Or.inl, by rw [if_neg h, join_part]⟩

/-- Copying a **directory** of a variant paints it. -/
theorem copyPartTree_paints (ht₀ : d₀.IsTree)
    (hp : Source (own home device.directory) home device.directory v)
    (hv : d₀.find? (v.place home) = some .directory)
    (hf : d₀.find? (v.place home ++ [name]) = some .directory) :
    Ends (fun d => Overlaying home device.directory (v.place home) d₀ d₁ d ∧
        d.hasDirectory (v.join ⟨[name]⟩) = true)
      (copyTree (v.join ⟨[name]⟩) (device.partGoal name)) fun _ d =>
        Painted (picture d₀ (v.place home)) home device.directory d₁ d ∧
          Laid home device.directory (v.place home) d₀ (name, .directory) d ∧
          ShortPart d₀ device v (v.place home) name .directory := by
  have hname : IsDiskName name := ht₀.name _ _ (by rw [hf]; rfl)
  have hpart := hp.child hname
  have hplace : (v.join ⟨[name]⟩).place home = v.place home ++ [name] :=
    place_child home hname.toIsPlainName
  obtain ⟨top, others, hgoal, ho, htop, hpath⟩ := goal_directory device home hname
  have hshows := shows_part hv hf
  rw [hgoal, ← hplace] at hshows
  have hfound : ∀ d, Overlaying home device.directory (v.place home) d₀ d₁ d ∧
      d.hasDirectory (v.join ⟨[name]⟩) = true → d.Leads (v.join ⟨[name]⟩) ∧ (v.join ⟨[name]⟩).Accepted :=
    fun d hd => leads_of_hasDirectory hd.1.filling.stands.tree.noLink hd.2
  by_cases haccepted : (v.join ⟨[name]⟩).Accepted
  swap
  · exact fun w _ _ hw _ => absurd (hfound _ hw).2 haccepted
  have hcopy := @copyTree_paints home device.directory _ top _ d₀ d₁ _ ho
    (hpart.apart trivial haccepted htop) ht₀ hshows
  rw [← hpath] at hcopy
  refine hcopy.imp (fun d hd => ?_) fun _ d hd => ⟨hd.1.painted, fun m hm => ?_, ?_⟩
  · exact ⟨⟨hd.1.filling.stands, Source.same hpart hd.1.filling, hd.1.painted⟩, (hfound d hd).1⟩
  · have := hd.2.1 m
    rw [hplace, List.append_assoc, List.singleton_append] at this
    rw [hgoal]
    exact this hm
  · rw [ShortPart, if_pos (by rfl), ← hplace]
    exact hd.2.2

theorem goal_configuration (device : Device) :
    IsGoal device.directory [configName] device.config :=
  ⟨by simp, by simpa using isDiskName_config, Or.inl rfl⟩

theorem shown_config (hv : d₀.find? variant = some .directory) {m : List String} (hne : m ≠ [])
    (hm : m <+: [configName]) : picture d₀ variant m = some .directory := by
  obtain ⟨first, rest, rfl⟩ := List.exists_cons_of_ne_nil hne
  obtain ⟨rfl, hrest⟩ := List.cons_prefix_cons.mp hm
  rw [List.prefix_nil.mp hrest, picture_configName hv]

/-- Making the directory of the configuration **for a file** of a variant. -/
theorem makeConfig_paints (hv : d₀.find? variant = some .directory) :
    Ends (Overlaying home device.directory variant d₀ d₁) (makeDirectories device.config) fun _ d =>
      Overlaying home device.directory variant d₀ d₁ d ∧
        d.find? (device.directory.place home ++ [configName]) = some .directory := by
  have hg := goal_configuration device
  have hpaint := @makeDirectories_paints home device.directory device.config
    (picture d₀ variant) d₁ [configName] hg fun m => shown_config hv
  have hfill := Filling.ends (d := d₀) ((@makeDirectories_confined
    (own home device.directory) home _ _ _ hg
    (fun m hne hm => Or.inl (under_of_below hne hm)) fun _ _ _ => trivial).post fun _ _ hd => hd.1)
  intro w a w' hw hon
  obtain ⟨hpainted, hdir, -⟩ := hpaint w a w' ⟨hw.filling.stands, hw.painted⟩ hon
  exact ⟨⟨hfill w a w' hw.filling hon, hpainted.2⟩, hdir⟩

theorem place_part_ne (hp : Source (own home device.directory) home device.directory v)
    (hname : IsDiskName name) :
    (v.join ⟨[name]⟩).place home ≠ device.directory.place home ++ ([configName] ++ [name]) := by
  intro heq
  refine (hp.child hname).away trivial _ (Or.inr (List.prefix_refl _)) ?_
  rw [heq]
  exact Or.inl (under_of_below (by simp) (List.prefix_refl _))

section File

variable {content : ByteArray}
  (hf : d₀.find? (v.place home ++ [name]) = some (.file content))

include hf

theorem shown_file : picture d₀ (v.place home) [configName, name] = some (.file content) := by
  rw [← hf, ← picture_part hf [], List.append_nil, goalNames, if_neg (by simp)]

/-- Copying a **file** of a variant paints it. -/
theorem copyPartFile_paints (hp : Source (own home device.directory) home device.directory v)
    (ht₀ : d₀.IsTree) (hv : d₀.find? (v.place home) = some .directory) :
    Ends (Overlaying home device.directory (v.place home) d₀ d₁) (do
        makeDirectories device.config
        Run.change (·.copyFile (v.join ⟨[name]⟩) (device.config.join ⟨[name]⟩))) fun _ d =>
      Painted (picture d₀ (v.place home)) home device.directory d₁ d ∧
        Laid home device.directory (v.place home) d₀ (name, .file content) d ∧
        ShortPart d₀ device v (v.place home) name (.file content) := by
  have hname : IsDiskName name := ht₀.name _ _ (by rw [hf]; rfl)
  have hplace : (v.join ⟨[name]⟩).place home = v.place home ++ [name] :=
    place_child home hname.toIsPlainName
  refine (makeConfig_paints hv).seq fun _ => ?_
  rw [join_part]
  refine (@copyFile_paints home device.directory (v.join ⟨[name]⟩) (picture d₀ (v.place home)) d₁
    [configName] name (by simp) (by simpa using ⟨isDiskName_config, hname⟩) _ content
    (fun d hd => ⟨⟨hd.1.filling.stands, hd.1.painted⟩, ?_, hd.2⟩) (place_part_ne hp hname)
    (shown_file hf)).post fun _ d hd => ⟨hd.1.2, fun m hm => ?_, ?_⟩
  · rw [hplace, (Source.same hp hd.1.filling).find? _ (Or.inr (List.prefix_append _ _)), hf]
  · -- nothing is below a file
    obtain rfl : m = [] := by
      by_contra hne
      have hdir := ht₀.find?_prefix hm (p := v.place home ++ [name]) ⟨m, by simp⟩ (by simpa using hne)
      rw [hf] at hdir
      cases hdir
    rw [goalNames, if_neg (by simp), List.append_nil, hf]
    exact hd.2.1
  · rw [ShortPart, if_neg (by simp [Entry.isDirectory]), join_part]
    exact ⟨hd.2.2.2, hd.2.2.1⟩

end File

theorem copyFile_stops {I : Disk → Prop} {J : Unit → Disk → Prop} {p goal : Path} (hlong : p.isLong = true) :
    Ends I (Run.change (·.copyFile p goal)) J := fun w _ _ _ hon => by
  cases hcopy : w.disk.copyFile p goal with
  | error fault =>
    rw [change_on_error hcopy] at hon
    cases (Prod.mk.inj hon).1
  | ok d' =>
    obtain ⟨s, content, hl⟩ := look_of_copyFile hcopy
    rw [(accepted_of_lookFor hl).not_long] at hlong
    cases hlong

theorem hasDirectory_part (ht₀ : d₀.IsTree)
    (hp : Source (own home device.directory) home device.directory v) (hv : d₀.Leads v)
    (hhome : d₀.home = home) {e : Entry} (hf : d₀.find? (v.place home ++ [name]) = some e)
    (hd : Filling home device.directory d₀ d) :
    d.hasDirectory (v.join ⟨[name]⟩) = (!(v.join ⟨[name]⟩).isLong && e.isDirectory) := by
  have hname : IsDiskName name := ht₀.name _ _ (by rw [hf]; rfl)
  have hleads : d.Leads v := (Source.same hp hd).symm.leads (fun x hx => Or.inl (hhome ▸ hx)) hv
  rw [hasDirectory_child hd.stands.tree hleads hname, hd.stands.home_eq,
    (Source.same hp hd).find? _ (Or.inr (List.prefix_append _ _)), hf]
  rfl

/-- **Copying a part** of a variant paints it. -/
theorem copyPart_paints (haway : Away home device.directory) (ht₀ : d₀.IsTree)
    (hp : Source (own home device.directory) home device.directory v) (hv : d₀.Leads v)
    (hhome : d₀.home = home) {e : Entry} (hf : d₀.find? (v.place home ++ [name]) = some e) :
    Ends (Overlaying home device.directory (v.place home) d₀ d₁) (device.copyPart v name) fun _ d =>
      Overlaying home device.directory (v.place home) d₀ d₁ d ∧
        Laid home device.directory (v.place home) d₀ (name, e) d ∧
        ShortPart d₀ device v (v.place home) name e := by
  have hname : IsDiskName name := ht₀.name _ _ (by rw [hf]; rfl)
  have hvariant : d₀.find? (v.place home) = some .directory := hhome ▸ hv.place
  have hlook := fun d => @hasDirectory_part home d₀ d device v name ht₀ hp hv hhome e hf
  -- all but the outputs stays
  have hkeep := Filling.ends (d := d₀) (copyPart_confined (serves_own haway) hp hname)
  suffices h : Ends (Overlaying home device.directory (v.place home) d₀ d₁) (device.copyPart v name)
      fun _ d => Painted (picture d₀ (v.place home)) home device.directory d₁ d ∧
        Laid home device.directory (v.place home) d₀ (name, e) d ∧
        ShortPart d₀ device v (v.place home) name e by
    refine fun w a w' hw hon => ?_
    obtain ⟨hpainted, hlaid⟩ := h w a w' hw hon
    exact ⟨⟨hkeep w a w' hw.filling hon, hpainted⟩, hlaid⟩
  unfold copyPart
  refine (Ends.inspect _).bind fun b => ?_
  cases e with
  | link target => exact absurd hf (ht₀.noLink _ _)
  | directory =>
    refine .ite (fun hb => ?_) fun hb => ?_
    · subst hb
      exact copyPartTree_paints ht₀ hp hvariant hf
    · cases hlong : (v.join ⟨[name]⟩).isLong with
      | true =>
        have hmake : ∀ I : Disk → Prop, Ends I (makeDirectories device.config) fun _ _ => True := fun _ =>
          .tryChange fun _ _ _ => trivial
        exact (hmake _).seq fun _ => copyFile_stops hlong
      | false =>
        rintro w a w' ⟨hw, hdir⟩ -
        rw [hlook _ hw.filling, hlong] at hdir
        exact absurd hdir.symm hb
  | file content =>
    refine .ite (fun hb => ?_) fun _ => ?_
    · rintro w a w' ⟨hw, hdir⟩ -
      rw [hlook _ hw.filling, hb] at hdir
      simp [Entry.isDirectory] at hdir
    · exact (copyPartFile_paints hf hp ht₀ hvariant).imp (fun d hd => hd.1) fun _ _ hd => hd

theorem Laid.keeps {e : Entry} (h : Laid home base variant d₀ (name, e) d)
    (hf : d₀.find? (variant ++ [name]) = some e)
    (hpainted : Painted (picture d₀ variant) home base d d') :
    Laid home base variant d₀ (name, e) d' := fun m hm => by
  have hshown := picture_part hf m
  rw [hpainted.keeps ((h m hm).trans hshown.symm), hshown]

/-- Copying **all parts** of a variant lays each of them. -/
theorem copyParts_paints (haway : Away home device.directory) (ht₀ : d₀.IsTree)
    (hp : Source (own home device.directory) home device.directory v) (hv : d₀.Leads v)
    (hhome : d₀.home = home) {parts : List (String × Entry)}
    (hparts : ∀ part ∈ parts, d₀.find? (v.place home ++ [part.1]) = some part.2) :
    Ends (Overlaying home device.directory (v.place home) d₀ d₁)
      (parts.forM fun part => device.copyPart v part.1) fun _ d =>
      Overlaying home device.directory (v.place home) d₀ d₁ d ∧
        ∀ part ∈ parts, Laid home device.directory (v.place home) d₀ part d ∧
          ShortPart d₀ device v (v.place home) part.1 part.2 := by
  refine (@Ends.forM (String × Entry) (fun part => device.copyPart v part.1) (fun done d =>
    Overlaying home device.directory (v.place home) d₀ d₁ d ∧
      ∀ part ∈ done, Laid home device.directory (v.place home) d₀ part d ∧
        ShortPart d₀ device v (v.place home) part.1 part.2) [] parts ?_).imp
    (fun d hd => ⟨hd, by simp⟩) fun _ _ hd => hd
  rintro done ⟨name, e⟩ rest rfl w a w' ⟨hw, hdone⟩ hon
  obtain ⟨hlaying, hlaid⟩ := copyPart_paints haway ht₀ hp hv hhome (hparts (name, e) (by simp)) w a w'
    ⟨hw.filling, Painted.refl ..⟩ hon
  refine ⟨⟨hlaying.filling, hw.painted.trans hlaying.painted⟩, fun part hpart => ?_⟩
  rcases List.mem_append.mp hpart with h | h
  · exact ⟨(hdone part h).1.keeps (hparts part (by simp [h])) hlaying.painted, (hdone part h).2⟩
  · rw [List.mem_singleton.mp h]
    exact hlaid

/-- What has been laid of all parts of a variant fills the device with it, over the root variant. -/
theorem Overlaying.filled (ht₀ : d₀.IsTree) {root : Place} (hroot : d₀.find? root = some .directory)
    (hv : d₀.find? variant = some .directory) (hd₁ : Filled (picture d₀ root) home base d₁)
    (h : Overlaying home base variant d₀ d₁ d)
    (hlaid : ∀ name e, d₀.find? (variant ++ [name]) = some e → Laid home base variant d₀ (name, e) d) :
    Filled (overlay d₀ variant root) home base d := by
  intro top htop m
  rw [overlay]
  cases hshown : picture d₀ variant (top :: m) with
  | none => rw [Option.none_or, h.painted.outside hshown, hd₁ top htop]
  | some shown =>
    rw [Option.some_or, ← hshown]
    rcases part_of_picture ht₀ hshown with heq | ⟨name, e, rest, he, hrest, heq⟩
    · -- the configuration itself is there already
      refine h.painted.keeps ?_
      rw [hd₁ top htop, heq, picture_configName hroot, picture_configName hv]
    · rw [heq, picture_part he]
      exact hlaid name e he rest (by rw [hrest]; rfl)

/-- A variant all parts of which have been laid over the root variant can be laid over it. -/
theorem Overlaying.liesOver (ht₀ : d₀.IsTree) {root : Place} (hroot : d₀.find? root = some .directory)
    (hv : d₀.find? variant = some .directory) (hd₁ : Filled (picture d₀ root) home base d₁)
    (h : Overlaying home base variant d₀ d₁ d)
    (hlaid : ∀ name e, d₀.find? (variant ++ [name]) = some e → Laid home base variant d₀ (name, e) d) :
    LiesOver d₀ variant root := by
  intro names e hshown
  obtain ⟨top, htop, m, rfl⟩ := top_of_picture hshown
  have hfound := h.filled ht₀ hroot hv hd₁ hlaid top htop m
  rw [overlay, hshown, Option.some_or] at hfound
  rw [← hd₁ top htop m]
  exact h.painted.covers hshown hfound

/-- **Copying the chosen variant** lays its files over those of the root variant. -/
theorem copyVariant_fills (haway : Away home device.directory) (ht₀ : d₀.IsTree)
    (hhome : d₀.home = home) {library : Path} {root : Place}
    (hp : Source (own home device.directory) home device.directory
      ((variantsDirectory library device.kind).join (Path.ofText device.variant)))
    (hroot : d₀.find? root = some .directory) (heq : device.variant = rootVariant →
      ((variantsDirectory library device.kind).join (Path.ofText device.variant)).place home = root) :
    Ends (fun d => Filling home device.directory d₀ d ∧
        Filled (picture d₀ root) home device.directory d) (device.copyVariant library) fun _ d =>
      Filled (overlay d₀
        (((variantsDirectory library device.kind).join (Path.ofText device.variant)).place home) root)
        home device.directory d ∧
      LiesOver d₀
        (((variantsDirectory library device.kind).join (Path.ofText device.variant)).place home) root ∧
      (device.variant ≠ rootVariant → ShortParts d₀ device
        ((variantsDirectory library device.kind).join (Path.ofText device.variant))
        (((variantsDirectory library device.kind).join (Path.ofText device.variant)).place home)) := by
  unfold copyVariant
  set v := (variantsDirectory library device.kind).join (Path.ofText device.variant)
  refine (Ends.inspect _).bind fun b => .ite (fun _ => .fail _) fun hb => .ite (fun hsame => ?_) fun _ => ?_
  · -- the root variant lies over itself
    refine .pure fun d hd => ⟨fun top htop m => ?_, fun m e hm => ?_, fun hne => absurd hsame hne⟩
    · rw [hd.1.2 top htop m, overlay, heq hsame, Option.or_self]
    · rw [← heq hsame, hm]
      rfl
  · refine (Ends.query _).bind fun parts => ?_
    intro w a w' hw hon
    obtain ⟨⟨⟨hfilling, hfilled⟩, hdir⟩, hlist⟩ := hw
    obtain ⟨hleads, haccepted⟩ : w.disk.Leads v ∧ v.Accepted :=
      leads_of_hasDirectory hfilling.stands.tree.noLink (by simpa [hdir] using hb)
    have hsource := Source.same hp hfilling
    have hleads₀ : d₀.Leads v :=
      hsource.leads (fun x hx => Or.inl (hfilling.stands.home_eq ▸ hx)) hleads
    have hvariant : d₀.find? (v.place home) = some .directory := hhome ▸ hleads₀.place
    have hentry : ∀ m, w.disk.find? (v.place home ++ m) = d₀.find? (v.place home ++ m) := fun m =>
      hsource.find? _ (Or.inr (List.prefix_append _ _))
    rw [listing_of_leads hleads haccepted, hfilling.stands.home_eq] at hlist
    obtain rfl := Except.ok.inj hlist
    obtain ⟨hlaying, hlaid⟩ := copyParts_paints haway ht₀ hp hleads₀ hhome
      (fun part hpart => (hentry [part.1]).symm.trans (mem_names.mp hpart)) w a w'
      ⟨hfilling, Painted.refl ..⟩ hon
    have hall : ∀ name e, d₀.find? (v.place home ++ [name]) = some e →
        Laid home device.directory (v.place home) d₀ (name, e) w'.disk ∧
          ShortPart d₀ device v (v.place home) name e := fun name e he =>
      hlaid _ (mem_names.mpr ((hentry [name]).trans he))
    exact ⟨hlaying.filled ht₀ hroot hvariant hfilled fun name e he => (hall name e he).1,
      hlaying.liesOver ht₀ hroot hvariant hfilled fun name e he => (hall name e he).1,
      fun _ name e he => (hall name e he).2⟩

/-! ## The paths of the files -/

section Paths

variable {names m : List String} {content : ByteArray}

theorem continues_of_found (ht : d.IsTree) {p : Place} (hm : m ≠ []) (h : (d.find? (p ++ m)).isSome = true) :
    Continues ⟨m⟩ :=
  continues_names hm fun _ hn => (ht.isDiskName_of_mem h (List.mem_append_right _ hn)).toIsPlainName

theorem ShortPart.isLong_file (ht : d.IsTree) {e : Entry} (hpart : ShortPart d device v variant name e)
    (he : d.find? (variant ++ [name]) = some e) (hf : d.find? (variant ++ name :: m) = some (.file content)) :
    (device.directory.join ⟨goalNames name e ++ m⟩).isLong = false := by
  have hname : IsDiskName name := ht.name _ _ (by rw [he]; rfl)
  cases e with
  | link target => exact absurd he (ht.noLink _ _)
  | file old =>
    -- nothing is below a file
    obtain rfl : m = [] := by
      by_contra hne
      have hdir := ht.find?_prefix (by rw [hf]; rfl) (p := variant ++ [name]) ⟨m, by simp⟩ (by simpa using hne)
      rw [he] at hdir
      cases hdir
    rw [ShortPart, if_neg (by simp [Entry.isDirectory]), join_part] at hpart
    rw [goalNames, if_neg (by simp), List.append_nil]
    exact hpart.2
  | directory =>
    have hm : m ≠ [] := by
      rintro rfl
      rw [he] at hf
      cases hf
    have hbelow : d.find? (variant ++ [name] ++ m) = some (.file content) := by
      rw [List.append_assoc]
      exact hf
    rw [ShortPart, if_pos (by rfl)] at hpart
    have hshort := (hpart m (by rw [hbelow]; rfl)).2
    obtain ⟨top, others, hgoal, ho, -, hpath⟩ := goal_directory device [] hname
    rw [beneath_of_ne hm, hpath, join_join (continues_names (by simp) fun n hn => (ho n hn).toIsPlainName)
      (fun hlast => (ho _ (List.mem_of_getLast? hlast)).ne_empty rfl)
      (continues_of_found ht hm (by rw [hbelow]; rfl))] at hshort
    rw [hgoal]
    exact hshort

theorem HasRoomFor.isLong_file (ht : d.IsTree) {source : Path} {root : Place}
    (hroom : HasRoomFor d source device.config root) {e : Entry} (he : d.find? (root ++ [name]) = some e)
    (hf : d.find? (root ++ name :: m) = some (.file content)) :
    (device.directory.join ⟨goalNames name e ++ m⟩).isLong = false := by
  have hshort := (hroom.short (name :: m) (by rw [hf]; rfl)).2
  have hbelow := continues_of_found ht (List.cons_ne_nil name m) (by rw [hf]; rfl)
  rw [beneath_of_ne (List.cons_ne_nil _ _), Device.config,
    join_join (continues_single configName) (by simp [configName]) hbelow] at hshort
  unfold goalNames
  split
  · next htests =>
    -- the tests lie higher up than in the copy of the root variant
    obtain ⟨rfl, -⟩ := htests
    refine isLong_of_le hbelow ⟨by simp [isAbsolute, configName], by simp⟩ ?_ hshort
    rw [size_text_append (l := [configName]) (by simp) (by simp)]
    exact Nat.le_add_left _ _
  · exact hshort

/-- **No file of a device goes to a path that is too long**, if there is room for the root variant, and no path of
the variant that is laid over it is too long. -/
theorem isLong_of_overlay (ht : d.IsTree) {source : Path} {root : Place}
    (hroot : d.find? root = some .directory) (hroom : HasRoomFor d source device.config root)
    (hover : LiesOver d variant root) (hshort : variant ≠ root → ShortParts d device v variant)
    (hf : overlay d variant root names = some (.file content)) :
    (device.directory.join ⟨names⟩).isLong = false := by
  have hofRoot : picture d root names = some (.file content) →
      (device.directory.join ⟨names⟩).isLong = false := fun hshown => by
    rcases part_of_picture ht hshown with heq | ⟨name, e, m, he, hm, rfl⟩
    · rw [heq, picture_configName hroot] at hshown
      cases hshown
    · exact hroom.isLong_file ht he hm
  rw [overlay] at hf
  rcases Option.or_eq_some_iff.mp hf with hshown | ⟨-, hshown⟩
  · by_cases hsame : variant = root
    · exact hofRoot (hsame ▸ hshown)
    rcases part_of_picture ht hshown with rfl | ⟨name, e, m, he, hm, rfl⟩
    · have := hover _ _ hshown
      rw [picture_configName hroot] at this
      cases this
    · exact (hshort hsame name e he).isLong_file ht he hm
  · exact hofRoot hshown

end Paths

end Device

end SiteGen
