import SiteGen.Yaml.Node
import SiteGen.Yaml.PlainScalar

/-!
# Reading YAML

A text is read if it is one document. An alias stands for the node of its anchor; collections are
nested at most 128 deep, and a text may not be blown up by its aliases.

* `Yaml.parse` reads a text.
-/

namespace SiteGen.Yaml

/-- Why a text is **not read**. -/
inductive ReadError where
  /-- The text breaks a rule at some place in it. -/
  | malformed
  /-- The text has several documents. -/
  | severalDocuments
  /-- Aliases repeat too much. -/
  | repetitionLimit
deriving DecidableEq, Repr

/-- The wording of an error, where it does not speak of a place in the text. -/
def ReadError.message? : ReadError → Option String
  | .malformed => none
  | .severalDocuments =>
    some "deserializing from YAML containing more than one document is not supported"
  | .repetitionLimit => some "repetition limit exceeded"

/-! ## Anchors -/

/-- The **anchors** met so far. A name refers to a slot, and a slot to one of the nodes that have an
anchor, counted in the order of the text. -/
structure Anchors where
  /-- The slot of each name. -/
  names : List (String × Nat)
  /-- The node in each slot, the newest first. -/
  slots : List (Nat × Nat)
  /-- The number of nodes with an anchor. -/
  count : Nat

namespace Anchors

/-- No anchors. -/
def empty : Anchors := ⟨[], [], 0⟩

/-- With the next node under a name, if it has one. The slot is the number of names known before. -/
def define (a : Anchors) : Option String → Anchors
  | none => a
  | some name =>
    let slot := a.names.length
    let others := a.names.filter fun (n, _) => n != name
    ⟨(name, slot) :: others, (slot, a.count) :: a.slots, a.count + 1⟩

end Anchors

namespace Node

mutual

/-- The node with its aliases given by slots; `none` if a name is not known. -/
def link? (a : Anchors) : WrittenNode → Option (Node Nat × Anchors)
  | .alias name => (a.names.lookup name).map fun slot => (.alias slot, a)
  | .scalar props text plain => some (.scalar props text plain, a.define props.anchor)
  | .sequence props items => do
    let (items, a) ← linkItems? (a.define props.anchor) items
    some (.sequence props items, a)
  | .mapping props entries => do
    let (entries, a) ← linkEntries? (a.define props.anchor) entries
    some (.mapping props entries, a)

/-- The items with their aliases given by slots. -/
def linkItems? (a : Anchors) : List WrittenNode → Option (List (Node Nat) × Anchors)
  | [] => some ([], a)
  | item :: items => do
    let (item, a) ← link? a item
    let (items, a) ← linkItems? a items
    some (item :: items, a)

/-- The entries with their aliases given by slots. -/
def linkEntries? (a : Anchors) :
    List (WrittenNode × WrittenNode) → Option (List (Node Nat × Node Nat) × Anchors)
  | [] => some ([], a)
  | (key, value) :: entries => do
    let (key, a) ← link? a key
    let (value, a) ← link? a value
    let (entries, a) ← linkEntries? a entries
    some ((key, value) :: entries, a)

end

/-- The node itself, if it has an anchor. -/
def selfAnchored (node : Node Nat) (props : Properties) : List (Node Nat) :=
  if props.anchor.isSome then [node] else []

mutual

/-- The nodes that have an anchor, in the order of the text. -/
def anchored : Node Nat → List (Node Nat)
  | .alias _ => []
  | .scalar props text plain => selfAnchored (.scalar props text plain) props
  | .sequence props items => selfAnchored (.sequence props items) props ++ anchoredItems items
  | .mapping props entries => selfAnchored (.mapping props entries) props ++ anchoredEntries entries

/-- The nodes among the items that have an anchor. -/
def anchoredItems : List (Node Nat) → List (Node Nat)
  | [] => []
  | item :: items => anchored item ++ anchoredItems items

/-- The nodes among the entries that have an anchor. -/
def anchoredEntries : List (Node Nat × Node Nat) → List (Node Nat)
  | [] => []
  | (key, value) :: entries => anchored key ++ anchored value ++ anchoredEntries entries

end

mutual

/-- The number of steps that reading the node takes: one for a scalar or an alias, two for a
collection besides its parts. -/
def weight : Node Nat → Nat
  | .alias _ => 1
  | .scalar _ _ _ => 1
  | .sequence _ items => itemsWeight items + 2
  | .mapping _ entries => entriesWeight entries + 2

/-- The number of steps that reading the items takes. -/
def itemsWeight : List (Node Nat) → Nat
  | [] => 0
  | item :: items => weight item + itemsWeight items

/-- The number of steps that reading the entries takes. -/
def entriesWeight : List (Node Nat × Node Nat) → Nat
  | [] => 0
  | (key, value) :: entries => weight key + weight value + entriesWeight entries

end

end Node

/-! ## Values -/

/-- What aliases stand for, and how many may be followed in all. -/
structure Repeats where
  /-- The node in each slot. -/
  nodes : List (Nat × Node Nat)
  /-- The number of aliases that may be followed. -/
  limit : Nat

namespace Repeats

/-- The nodes behind the aliases of a document. -/
def ofRoot (root : Node Nat) (a : Anchors) : Repeats :=
  let nodes := root.anchored.toArray
  ⟨a.slots.map fun (slot, i) => (slot, nodes[i]?.getD default), 100 * root.weight⟩

/-- The node itself, or the one that it repeats, with the number of aliases followed so far. -/
def follow (r : Repeats) (jumps : Nat) : Node Nat → Except ReadError (Node Nat × Nat)
  | .alias slot =>
    if r.limit < jumps + 1 then .error .repetitionLimit
    else match r.nodes.lookup slot with
      | some node => .ok (node, jumps + 1)
      | none => .error .malformed
  | node => .ok (node, jumps)

end Repeats

/-- A value that may be missing because of a fault in the text. -/
def orMalformed {α : Type} : Option α → Except ReadError α
  | some a => .ok a
  | none => .error .malformed

/-- The value of a scalar: by its tag, or else by its form if it is plain. -/
def scalarValue (tag : Option Tag) (text : String) (plain : Bool) : Except ReadError Yaml :=
  match tag with
  | some .bool => orMalformed ((PlainScalar.bool? text).map .bool)
  | some .integer =>
    orMalformed (((PlainScalar.integer? text.toList).filter PlainScalar.fits).map .integer)
  | some .float => orMalformed ((PlainScalar.float? text.toList).map .float)
  | some .null => orMalformed (if PlainScalar.isNull text then some .null else none)
  | some (.application _) | none =>
    if plain then orMalformed (PlainScalar.value? text) else .ok (.string text)
  | some .other => .ok (.string text)

/-- The tag of the application that a node carries. -/
def Node.applicationTag? : Node Nat → Option String
  | .scalar ⟨_, some (.application name)⟩ _ _
  | .sequence ⟨_, some (.application name)⟩ _
  | .mapping ⟨_, some (.application name)⟩ _ => some name
  | _ => none

/-- A value under a tag, if there is one. -/
def wrap (tag : Option String) (v : Yaml) : Yaml :=
  match tag with
  | some name => .tagged name v
  | none => v

mutual

/-- The **value** of a node, at most `depth` collections deep, and the number of aliases followed.
Where `bare` holds, the tag of the node itself does not count. -/
def value (r : Repeats) (depth : Nat) (bare : Bool) (node : Node Nat) (jumps : Nat) :
    Except ReadError (Yaml × Nat) := do
  let (target, after) ← r.follow jumps node
  let bare := bare && jumps == after
  let tag := if bare then none else target.applicationTag?
  if tag == some "" then .error .malformed
  match target with
  | .alias _ => .error .malformed
  | .scalar props text plain => do
    let v ← scalarValue (if bare then none else props.tag) text plain
    .ok (wrap tag v, after)
  | .sequence _ items =>
    match depth with
    | 0 => .error .malformed
    | depth + 1 => do
      let (values, jumps) ← itemValues r depth items after
      .ok (wrap tag (.sequence values), jumps)
  | .mapping _ entries =>
    match depth with
    | 0 => .error .malformed
    | depth + 1 => do
      let (values, jumps) ← entryValues r depth (bare || tag.isSome) [] entries after
      .ok (wrap tag (.mapping values), jumps)
termination_by (depth, 0)

/-- The values of the items of a sequence. -/
def itemValues (r : Repeats) (depth : Nat) (items : List (Node Nat)) (jumps : Nat) :
    Except ReadError (List Yaml × Nat) :=
  match items with
  | [] => .ok ([], jumps)
  | item :: rest => do
    let (v, jumps) ← value r depth false item jumps
    let (values, jumps) ← itemValues r depth rest jumps
    .ok (v :: values, jumps)
termination_by (depth, items.length + 1)

/-- The values of the entries of a mapping, no key of which may be given twice; in a tagged mapping
the tags of keys do not count. -/
def entryValues (r : Repeats) (depth : Nat) (bareKeys : Bool) (keys : List Yaml)
    (entries : List (Node Nat × Node Nat)) (jumps : Nat) :
    Except ReadError (List (Yaml × Yaml) × Nat) :=
  match entries with
  | [] => .ok ([], jumps)
  | (key, val) :: rest => do
    let (k, jumps) ← value r depth bareKeys key jumps
    if keys.any (same · k) then .error .malformed
    let (v, jumps) ← value r depth false val jumps
    let (values, jumps) ← entryValues r depth bareKeys (k :: keys) rest jumps
    .ok ((k, v) :: values, jumps)
termination_by (depth, entries.length + 1)

end

/-- How deep collections may be nested. -/
def depthLimit : Nat := 128

/-- The value of a document. -/
def ofDocument (root : WrittenNode) : Except ReadError Yaml := do
  let (root, anchors) ← orMalformed (root.link? Anchors.empty)
  let (v, _) ← value (Repeats.ofRoot root anchors) depthLimit false root 0
  .ok v

/-- **Reads** a text that is one document. -/
def parse (text : String) : Except ReadError Yaml := do
  let chars := text.toList
  if !chars.all isAllowed then .error .malformed
  let document ← orMalformed (Document.first? (Token.ofText chars))
  let v ← ofDocument document.root
  if document.more then .error .severalDocuments
  .ok v

end SiteGen.Yaml
