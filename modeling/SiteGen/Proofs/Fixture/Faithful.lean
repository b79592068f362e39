import Mathlib
import SiteGen.Proofs.Fixture.Evaluate

/-!
# Evaluated fixtures as documents

* `Json.readsBack_iff`: whether a float is read back can be computed.
* `evaluateFixture_faithful`: what is in the file of a fixture after it has been evaluated.
-/

namespace SiteGen

namespace Json

/-! ## Floats that are read back -/

/-- The bits of a value that is a float. -/
def floatBits? : Json → Option UInt64
  | .number (.float x) => some x.toBits
  | _ => none

theorem readsBack_iff {x : Float} : ReadsBack x ↔
    (parse (String.ofList (JsonNumber.floatText x))).toOption.bind floatBits? = some x.toBits := by
  unfold ReadsBack
  constructor
  · intro h
    rw [h]
    rfl
  · intro h
    obtain ⟨v, hv, hbits⟩ := Option.bind_eq_some_iff.mp h
    rw [eq_ok_of_toOption hv]
    unfold floatBits? at hbits
    split at hbits
    · next y =>
      rw [Float.toBits_inj.mp (Option.some.inj hbits)]
    · cases hbits

instance (x : Float) : Decidable (ReadsBack x) := decidable_of_iff' _ readsBack_iff

end Json

open Run

/-- **Evaluating a fixture is faithful**. If the file of a fixture is a document, and the floats of the
evaluated document are read back as they are written, then afterwards the file is in ASCII, and it is
just the evaluated document: the one that was there, with every text evaluated where it stands. -/
theorem evaluateFixture_faithful (w : World) (path : Path) (text : String) (v : Json)
    (hread : w.disk.readText path = .ok text) (hparse : Json.parse text = .ok v)
    (hfloats : ∀ x, (Json.number (.float x)).Within v.evaluate → Json.ReadsBack x) :
    ∃ (w' : World) (text' : String), (evaluateFixture path).on w = (.ok (), w') ∧
      w'.disk.readText path = .ok text' ∧ w'.disk.readBytes path = .ok text'.toUTF8 ∧
      (∀ byte ∈ text'.toUTF8.data, byte < 0x80) ∧
      Json.parse text' = .ok v.evaluate ∧ v.TextsEvaluated v.evaluate := by
  obtain ⟨d, hwrite, htext, hbytes⟩ := Disk.writeText_of_readText hread v.evaluate.fixture
  have hfixture := Json.isFixture_evaluate hparse
  exact ⟨_, v.evaluate.fixture, evaluateFixture_on hread hparse hwrite, htext, hbytes,
    hfixture.ascii, hfixture.readBack hfloats, Json.textsEvaluated_evaluate v⟩

/-- A document with a key and a text outside ASCII, and with a float. -/
def sample : Json := .object [("é", .array [.string "ü", .number (.float 1.5), .object []])]

/-- A disk with the document in a file. -/
def sampleDisk : Disk := (⟨∅, []⟩ : Disk).insert ["t"] (.file sample.compact.toUTF8)

theorem fits_sample : Json.Fits Json.ReadsBack Json.depthLimit sample := by
  refine .object (by decide) fun member hmember => ?_
  obtain rfl := List.mem_singleton.mp hmember
  refine .array fun item hitem => ?_
  simp only [List.mem_cons, List.not_mem_nil, or_false] at hitem
  rcases hitem with rfl | rfl | rfl
  · exact .string _
  · exact .float (by decide +kernel)
  · exact .object List.nodup_nil (by simp)

set_option maxRecDepth 20000 in
theorem evaluate_sample : sample.evaluate = sample := by
  have htext : Leaf.evaluate "ü".toList = .text "ü".toList := by cbv
  have hleaf : evaluateText "ü" = .string "ü" := by
    rw [evaluateText, htext, Leaf.toJson, String.ofList_toList]
  simp only [sample, Json.evaluate, Json.evaluateMembers, Json.evaluateItems, hleaf]

theorem evaluateFixture_faithful_sample : ∃ (w' : World) (text' : String),
    (evaluateFixture ⟨["t"]⟩).on ⟨sampleDisk, []⟩ = (.ok (), w') ∧
    w'.disk.readText ⟨["t"]⟩ = .ok text' ∧ (∀ byte ∈ text'.toUTF8.data, byte < 0x80) ∧
    Json.parse text' = .ok sample := by
  have hparse : Json.parse sample.compact = .ok sample := Json.parse_write fits_sample _
  have hread : sampleDisk.readText ⟨["t"]⟩ = .ok sample.compact := eq_ok_of_toOption (by decide +kernel)
  obtain ⟨w', text', hon, htext, -, hascii, hvalue, -⟩ :=
    evaluateFixture_faithful ⟨sampleDisk, []⟩ ⟨["t"]⟩ sample.compact sample hread hparse fun x hx =>
      fits_sample.of_within (evaluate_sample ▸ hx)
  exact ⟨w', text', hon, htext, hascii, evaluate_sample ▸ hvalue⟩

end SiteGen
