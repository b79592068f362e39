import SiteGen.Yaml.Token.Lexer

/-!
# YAML nodes

The tree that the tokens of a document spell out, before the types of its scalars are known and with
its aliases in place.

* `Node.read?` reads a node, `Node.Document.first?` the first document of a text.
-/

namespace SiteGen.Yaml

/-- A **tag**, as far as it bears on the value. -/
inductive Tag where
  /-- The value is a truth value. -/
  | bool
  /-- The value is a whole number. -/
  | integer
  /-- The value is a float. -/
  | float
  /-- There is no value. -/
  | null
  /-- A tag of the application. -/
  | application (name : String)
  /-- Any other tag. -/
  | other
deriving DecidableEq, Repr

namespace Tag

/-- What the handle `!!` stands for. -/
def coreExpansion : List UInt8 := utf8 "tag:yaml.org,2002:".toList

/-- The tag with the given text. A tag of the application whose name is no text does not count. -/
def ofBytes (bytes : List UInt8) : Option Tag :=
  let is (name : String) := bytes == coreExpansion ++ utf8 name.toList
  if is "bool" then some .bool
  else if is "int" then some .integer
  else if is "float" then some .float
  else if is "null" then some .null
  else if bytes.head? == some '!'.toUInt8 then
    (String.fromUTF8? ⟨(bytes.drop 1).toArray⟩).map .application
  else some .other

end Tag

/-- What stands in front of a node. -/
structure Properties where
  /-- The name under which the node can be repeated. -/
  anchor : Option String
  /-- The tag. -/
  tag : Option Tag
deriving Inhabited

/-- A **node** of a document, its aliases given by references of type `α`. -/
inductive Node (α : Type) where
  /-- The node of an anchor, once more. -/
  | alias (target : α)
  /-- A scalar, plain or quoted. -/
  | scalar (props : Properties) (text : String) (plain : Bool)
  /-- A list of nodes. -/
  | sequence (props : Properties) (items : List (Node α))
  /-- Nodes under keys. -/
  | mapping (props : Properties) (entries : List (Node α × Node α))
deriving Inhabited

/-- A node as it is written, its aliases given by name. -/
abbrev WrittenNode := Node String

/-- The handles of a document, with what they stand for. -/
abbrev Handles := List (String × List UInt8)

namespace Node

/-- The node where nothing is written. -/
def empty : WrittenNode := .scalar ⟨none, none⟩ "" true

/-- The text of a tag; `none` if its handle is not known. -/
def tagText? (handles : Handles) (handle : String) (suffix : List UInt8) : Option (List UInt8) :=
  if handle.isEmpty then some suffix else (handles.lookup handle).map (· ++ suffix)

/-- Reads the anchor and the text of the tag in front of a node, in either order. -/
def properties? (handles : Handles) :
    List Token → Option (Option String × Option (List UInt8) × List Token)
  | .anchor name :: .tag handle suffix :: rest
  | .tag handle suffix :: .anchor name :: rest =>
    (tagText? handles handle suffix).map fun text => (some name, some text, rest)
  | .anchor name :: rest => some (some name, none, rest)
  | .tag handle suffix :: rest =>
    (tagText? handles handle suffix).map fun text => (none, some text, rest)
  | tokens => some (none, none, tokens)

/-- Whether the next token is one of some kind; `none` if it is not known. -/
def next? (p : Token → Bool) (tokens : List Token) : Option Bool := tokens.head?.map p

/-- Tokens that end a value of an indented list. -/
def endsItem : Token → Bool
  | .dash | .blockEnd => true
  | _ => false

/-- Tokens that end a key or a value of an indented mapping. -/
def endsEntry : Token → Bool
  | .key | .value | .blockEnd => true
  | _ => false

/-- Tokens that end a value of a list that is not indented further than its key. -/
def endsHangingItem (t : Token) : Bool := endsItem t || endsEntry t

/-- Tokens that end a key in braces. -/
def endsFlowKey : Token → Bool
  | .value | .comma | .closeMapping => true
  | _ => false

/-- Tokens that end a value in braces. -/
def endsFlowValue : Token → Bool
  | .comma | .closeMapping => true
  | _ => false

/-- Tokens that end a key in brackets. -/
def endsPairKey : Token → Bool
  | .value | .comma | .closeSequence => true
  | _ => false

/-- Tokens that end a value in brackets. -/
def endsPairValue : Token → Bool
  | .comma | .closeSequence => true
  | _ => false

/-- Past the comma between the parts of a collection in brackets; none stands before the first. -/
def separator? (first : Bool) : List Token → Option (List Token)
  | .comma :: rest => if first then some (.comma :: rest) else some rest
  | tokens => if first then some tokens else none

mutual

/-- Reads a **node**. Collections by indentation are nodes only where `block` says so, and a list
may hang at the column of its key only where `hanging` says so. -/
def read? (handles : Handles) (block hanging : Bool) : Nat → List Token → Option (WrittenNode × List Token)
  | 0, _ => none
  | _ + 1, .alias name :: rest => some (.alias name, rest)
  | n + 1, tokens => do
    let (anchor, tagText, tokens) ← properties? handles tokens
    let props : Properties := ⟨anchor, tagText.bind Tag.ofBytes⟩
    match tokens with
    | .dash :: _ =>
      if !hanging then none
      else do
        let (items, rest) ← hangingItems? handles n tokens
        some (.sequence props items, rest)
    | .scalar text plain :: rest =>
      let tag := if tagText == some (utf8 ['!']) then none else props.tag
      some (.scalar ⟨anchor, tag⟩ text plain, rest)
    | .openSequence :: rest => do
      let (items, rest) ← flowItems? handles n true rest
      some (.sequence props items, rest)
    | .openMapping :: rest => do
      let (entries, rest) ← flowEntries? handles n true rest
      some (.mapping props entries, rest)
    | token :: rest =>
      if block && token == .blockSequence then do
        let (items, rest) ← blockItems? handles n rest
        some (.sequence props items, rest)
      else if block && token == .blockMapping then do
        let (entries, rest) ← blockEntries? handles n rest
        some (.mapping props entries, rest)
      else if anchor.isSome || tagText.isSome then some (.scalar props "" true, tokens)
      else none
    | [] => none

/-- Reads a node, or nothing if the next token ends it. -/
def optional? (handles : Handles) (ends : Token → Bool) (block hanging : Bool) :
    Nat → List Token → Option (WrittenNode × List Token)
  | 0, _ => none
  | n + 1, tokens => do
    if ← next? ends tokens then some (empty, tokens)
    else read? handles block hanging n tokens

/-- Reads the entries of an indented list. -/
def blockItems? (handles : Handles) : Nat → List Token → Option (List WrittenNode × List Token)
  | n + 1, .dash :: rest => do
    let (item, rest) ← optional? handles endsItem true false n rest
    let (items, rest) ← blockItems? handles n rest
    some (item :: items, rest)
  | _, .blockEnd :: rest => some ([], rest)
  | _, _ => none

/-- Reads the entries of a list at the column of its key. -/
def hangingItems? (handles : Handles) : Nat → List Token → Option (List WrittenNode × List Token)
  | n + 1, .dash :: rest => do
    let (item, rest) ← optional? handles endsHangingItem true false n rest
    let (items, rest) ← hangingItems? handles n rest
    some (item :: items, rest)
  | _, [] => none
  | _, tokens => some ([], tokens)

/-- Reads the keys and values of an indented mapping. -/
def blockEntries? (handles : Handles) : Nat → List Token → Option (List (WrittenNode × WrittenNode) × List Token)
  | n + 1, .key :: rest => do
    let (key, rest) ← optional? handles endsEntry true true n rest
    let (value, rest) ← value? handles endsEntry true n rest
    let (entries, rest) ← blockEntries? handles n rest
    some ((key, value) :: entries, rest)
  | _, .blockEnd :: rest => some ([], rest)
  | _, _ => none

/-- Reads the value after a key, which is empty if no colon follows. -/
def value? (handles : Handles) (ends : Token → Bool) (block : Bool) :
    Nat → List Token → Option (WrittenNode × List Token)
  | n + 1, .value :: rest => optional? handles ends block block n rest
  | _, [] => none
  | _, tokens => some (empty, tokens)

/-- Reads the entries of a list in brackets, up to its end. -/
def flowItems? (handles : Handles) : Nat → Bool → List Token → Option (List WrittenNode × List Token)
  | 0, _, _ => none
  | _ + 1, _, .closeSequence :: rest => some ([], rest)
  | n + 1, first, tokens => do
    match ← separator? first tokens with
    | .closeSequence :: rest => some ([], rest)
    | .key :: rest => do
      let (key, rest) ← pairKey? handles n rest
      let (value, rest) ← value? handles endsPairValue false n rest
      let (items, rest) ← flowItems? handles n false rest
      some (.mapping ⟨none, none⟩ [(key, value)] :: items, rest)
    | rest => do
      let (item, rest) ← read? handles false false n rest
      let (items, rest) ← flowItems? handles n false rest
      some (item :: items, rest)

/-- Reads the key of a pair in brackets. Where the key is empty, the token that ends it is passed
over. -/
def pairKey? (handles : Handles) : Nat → List Token → Option (WrittenNode × List Token)
  | 0, _ => none
  | n + 1, tokens => do
    if ← next? endsPairKey tokens then some (empty, tokens.drop 1)
    else read? handles false false n tokens

/-- Reads the keys and values of a mapping in braces, up to its end. -/
def flowEntries? (handles : Handles) :
    Nat → Bool → List Token → Option (List (WrittenNode × WrittenNode) × List Token)
  | 0, _, _ => none
  | _ + 1, _, .closeMapping :: rest => some ([], rest)
  | n + 1, first, tokens => do
    match ← separator? first tokens with
    | .closeMapping :: rest => some ([], rest)
    | .key :: rest => do
      let (key, rest) ← optional? handles endsFlowKey false false n rest
      let (value, rest) ← value? handles endsFlowValue false n rest
      let (entries, rest) ← flowEntries? handles n false rest
      some ((key, value) :: entries, rest)
    | rest => do
      let (key, rest) ← read? handles false false n rest
      if rest.isEmpty then none
      let (entries, rest) ← flowEntries? handles n false rest
      some ((key, empty) :: entries, rest)

end

end Node

/-- The **first document** of a text. -/
structure Document where
  /-- The node that the document is. -/
  root : WrittenNode
  /-- Whether the text goes on after it. -/
  more : Bool

namespace Document

/-- The handles that every document knows, after those it lays down itself. -/
def standardHandles : Handles := [("!", utf8 ['!']), ("!!", Tag.coreExpansion)]

/-- Reads the directives in front of a document; a version and a handle may be laid down once. -/
def directives? : Bool → Handles → List Token → Option (Handles × List Token)
  | versioned, handles, .version major minor :: rest =>
    if versioned || major != 1 || (minor != 1 && minor != 2) then none
    else directives? true handles rest
  | versioned, handles, .handle name expansion :: rest =>
    if (handles.lookup name).isSome then none
    else directives? versioned (handles ++ [(name, expansion)]) rest
  | _, handles, rest => some (handles ++ standardHandles, rest)

/-- Whether a token ends a document in which nothing is written. -/
def endsEmpty : Token → Bool
  | .version _ _ | .handle _ _ | .documentStart | .documentEnd | .streamEnd => true
  | _ => false

/-- Whether the text goes on, once its first document is over. -/
def goesOn (tokens : List Token) : Bool :=
  tokens.dropWhile (· == .documentEnd) != [.streamEnd]

/-- The document with a root that has been read; the next token ends it. -/
def closed? (root : WrittenNode) : List Token → Option Document
  | [] => none
  | .documentEnd :: rest => some ⟨root, goesOn rest⟩
  | rest => some ⟨root, goesOn rest⟩

/-- The root of a document that is marked as one. -/
def marked? (fuel : Nat) (tokens : List Token) : Option (WrittenNode × List Token) := do
  let (handles, tokens) ← directives? false [] tokens
  match tokens with
  | .documentStart :: rest => do
    if ← Node.next? endsEmpty rest then some (Node.empty, rest)
    else Node.read? handles true false fuel rest
  | _ => none

/-- The **first document** among the tokens of a text; an empty text is an empty document. -/
def first? (tokens : List Token) : Option Document := do
  let fuel := 4 * tokens.length + 4
  match tokens with
  | [] => none
  | .streamEnd :: _ => some ⟨Node.empty, false⟩
  | .version _ _ :: _ | .handle _ _ :: _ | .documentStart :: _ => do
    let (root, rest) ← marked? fuel tokens
    closed? root rest
  | _ => do
    let (root, rest) ← Node.read? standardHandles true false fuel tokens
    closed? root rest

end Document

end SiteGen.Yaml
