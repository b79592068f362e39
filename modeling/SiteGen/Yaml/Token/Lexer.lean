import SiteGen.Yaml.Token.Block
import SiteGen.Yaml.Token.Quoted
import SiteGen.Yaml.Token.Tag

/-!
# Splitting YAML text into tokens

A key is only known by the colon after it, so the lexer remembers where a key may have begun and puts
the marks for it in front once the colon is read. Such a **pending key** lives no longer than its
line; one that stands where only a key can stand must be followed by a colon.

* `Token.ofText` gives the tokens of a text. Of a malformed text it gives those that are certain
  before the fault is met; then no `Token.streamEnd` comes last.
-/

namespace SiteGen.Yaml

/-- A place where a key may have begun. -/
structure PendingKey where
  /-- Whether only a key can stand there. -/
  required : Bool
  /-- The number of the token that begins the key. -/
  number : Nat
  /-- The position of the key. -/
  place : Cursor

/-- The state of the **lexer**. -/
structure Lexer where
  /-- What is left of the text. -/
  cursor : Cursor
  /-- The tokens so far. -/
  tokens : Array Token
  /-- The columns of the indented collections that are open, innermost first. -/
  indents : List Nat
  /-- The pending key outside brackets. -/
  key : Option PendingKey
  /-- The pending keys of the brackets that are open, innermost first. -/
  flowKeys : List (Option PendingKey)
  /-- Whether a key may begin here. -/
  keyAllowed : Bool

namespace Lexer

/-- The state before a text. -/
def start (text : List Char) : Lexer := ⟨Cursor.start text, #[], [], none, [], true⟩

/-- Whether some bracket is open. -/
def inFlow (st : Lexer) : Bool := !st.flowKeys.isEmpty

/-- With one more token. -/
def emit (st : Lexer) (t : Token) : Lexer := { st with tokens := st.tokens.push t }

/-- With one more token, before the token with a number. -/
def emitBefore (st : Lexer) (number : Nat) (t : Token) : Lexer :=
  { st with tokens := (st.tokens.take number).push t ++ st.tokens.drop number }

/-! ## Pending keys -/

/-- The pending key of the innermost bracket. -/
def currentKey (st : Lexer) : Option PendingKey :=
  match st.flowKeys with
  | [] => st.key
  | key :: _ => key

/-- With another pending key of the innermost bracket. -/
def setKey (st : Lexer) (key : Option PendingKey) : Lexer :=
  match st.flowKeys with
  | [] => { st with key }
  | _ :: rest => { st with flowKeys := key :: rest }

/-- Without the pending key of the innermost bracket, which must not be required. -/
def dropKey (st : Lexer) : Option Lexer :=
  if st.currentKey.any (·.required) then none else some (st.setKey none)

/-- With a pending key here, if one may begin here. -/
def saveKey (st : Lexer) : Option Lexer :=
  if !st.keyAllowed then some st
  else do
    let st ← st.dropKey
    let required := !st.inFlow && st.indents.head? == some st.cursor.column
    some (st.setKey (some ⟨required, st.tokens.size, st.cursor⟩))

/-- Whether a pending key has been left behind: it may not run over a line or 1024 characters. -/
def isStale (st : Lexer) (key : PendingKey) : Bool :=
  decide (key.place.line < st.cursor.line) || decide (key.place.index + 1024 < st.cursor.index)

/-- Without the pending keys that have been left behind, none of which may be required. -/
def dropStale (st : Lexer) : Option Lexer :=
  let live (key : Option PendingKey) := key.filter fun k => !st.isStale k
  if (st.key :: st.flowKeys).any fun key => key.any fun k => k.required && st.isStale k then none
  else some { st with key := live st.key, flowKeys := st.flowKeys.map live }

/-- The number of tokens that are certain: those before every pending key. -/
def settled (st : Lexer) : Nat :=
  (st.key :: st.flowKeys).foldl (fun n key => match key with
    | some k => if st.isStale k && !k.required then n else min n k.number
    | none => n) st.tokens.size

/-! ## Indentation -/

/-- With a collection at a column, if that is deeper than the collections that are open. The token
that opens it comes before the token with the number, if one is given. -/
def openBlock (st : Lexer) (column : Nat) (number : Option Nat) (t : Token) : Lexer :=
  if st.inFlow || !st.indents.head?.all (decide <| · < column) then st
  else
    let st := { st with indents := column :: st.indents }
    match number with
    | some n => st.emitBefore n t
    | none => st.emit t

/-- The collections that stay open at a column, and the number of those that are closed. -/
def closing (column : Option Nat) : List Nat → List Nat × Nat
  | [] => ([], 0)
  | indent :: rest =>
    if column.all (decide <| · < indent) then
      let (left, n) := closing column rest
      (left, n + 1)
    else (indent :: rest, 0)

/-- With the collections closed that are deeper than a column, or all if none is given. -/
def closeBlocks (st : Lexer) (column : Option Nat) : Lexer :=
  if st.inFlow then st
  else
    let (indents, n) := closing column st.indents
    { st with indents, tokens := st.tokens ++ Array.replicate n Token.blockEnd }

/-! ## Between tokens -/

/-- Past blanks, comments and line breaks. Outside brackets a new line may begin with a key. -/
def skipGap : Nat → Lexer → Lexer
  | 0, st => st
  | n + 1, st =>
    let s := st.cursor
    let s := if s.column == 0 && s.at? '\ufeff' then s.skip else s
    let s := s.skipRun fun c => c == ' ' || (c == '\t' && (st.inFlow || !st.keyAllowed))
    let s := s.skipComment
    if s.charAfter 0 isBreak then
      skipGap n { st with cursor := s.skipLine, keyAllowed := st.keyAllowed || !st.inFlow }
    else { st with cursor := s }

/-! ## Tokens -/

/-- A token of one character. -/
def single (st : Lexer) (t : Token) : Lexer := { st.emit t with cursor := st.cursor.skip }

/-- A token that has been read by itself. -/
def accept (st : Lexer) (read : Option (Token × Cursor)) : Option Lexer :=
  read.map fun (t, cursor) => { st.emit t with cursor }

/-- With keys allowed from here on, or not. -/
def allowKey (st : Lexer) (keyAllowed : Bool) : Lexer := { st with keyAllowed }

/-- A token that stands outside all collections. -/
def outside (st : Lexer) (read : Option (Token × Cursor)) : Option Lexer := do
  let st ← (st.closeBlocks none).dropKey
  (st.allowKey false).accept read

/-- The end of the text. -/
def atEnd (st : Lexer) : Option Lexer := do
  let st ← (st.closeBlocks none).dropKey
  some ((st.allowKey false).emit .streamEnd)

/-- An opening bracket. -/
def openFlow (st : Lexer) (t : Token) : Option Lexer := do
  let st ← st.saveKey
  some ({ st with flowKeys := none :: st.flowKeys, keyAllowed := true }.single t)

/-- A closing bracket. -/
def closeFlow (st : Lexer) (t : Token) : Option Lexer := do
  let st ← st.dropKey
  some ({ st with flowKeys := st.flowKeys.drop 1, keyAllowed := false }.single t)

/-- A comma between brackets. -/
def comma (st : Lexer) : Option Lexer := do
  let st ← st.dropKey
  some ((st.allowKey true).single .comma)

/-- The dash in front of an entry. -/
def dash (st : Lexer) : Option Lexer := do
  if !st.inFlow && !st.keyAllowed then none
  let st ← (st.openBlock st.cursor.column none .blockSequence).dropKey
  some ((st.allowKey true).single .dash)

/-- The sign in front of a key. -/
def explicitKey (st : Lexer) : Option Lexer := do
  if !st.inFlow && !st.keyAllowed then none
  let st ← (st.openBlock st.cursor.column none .blockMapping).dropKey
  some ((st.allowKey (!st.inFlow)).single .key)

/-- The colon after a key: if a key is pending, this is its end. -/
def colon (st : Lexer) : Option Lexer :=
  match st.currentKey with
  | some key =>
    let st := st.emitBefore key.number .key
    let st := st.openBlock key.place.column (some key.number) .blockMapping
    some (((st.setKey none).allowKey false).single .value)
  | none =>
    if !st.inFlow && !st.keyAllowed then none
    else
      let st := st.openBlock st.cursor.column none .blockMapping
      some ((st.allowKey (!st.inFlow)).single .value)

/-- A token with which a key may begin. -/
def leading (st : Lexer) (read : Option (Token × Cursor)) : Option Lexer := do
  let st ← st.saveKey
  (st.allowKey false).accept read

/-- A block scalar. -/
def block (st : Lexer) (literal : Bool) : Option Lexer := do
  let st ← st.dropKey
  (st.allowKey true).accept
    ((st.cursor.block? literal st.indents.head?).map fun (text, s) => (.scalar text false, s))

/-- A plain scalar. -/
def plain (st : Lexer) : Option Lexer := do
  let st ← st.saveKey
  let (text, broken, cursor) ←
    st.cursor.plain? st.inFlow (st.indents.head?.elim 0 (· + 1))
  some ({ st with keyAllowed := broken, cursor }.emit (.scalar text true))

/-- Whether a plain scalar may begin here. -/
def atPlain (st : Lexer) (c : Char) : Bool :=
  let s := st.cursor
  !(isSpacing c || "-?:,[]\x7b\x7d#&*!|>'\"%@\x60".toList.contains c) ||
    (c == '-' && !s.charAfter 1 isSpacing) ||
    (!st.inFlow && (c == '?' || c == ':') && !s.blankAfter 1)

/-- The next token, the blanks before it having been left out. -/
def nextToken (st : Lexer) : Option Lexer :=
  let s := st.cursor
  match s.rest with
  | [] => st.atEnd
  | c :: _ =>
    if s.column == 0 && c == '%' then st.outside s.directive?
    else if s.marker '-' then st.outside (some (.documentStart, s.skipMany 3))
    else if s.marker '.' then st.outside (some (.documentEnd, s.skipMany 3))
    else if c == '[' then st.openFlow .openSequence
    else if c == '\x7b' then st.openFlow .openMapping
    else if c == ']' then st.closeFlow .closeSequence
    else if c == '\x7d' then st.closeFlow .closeMapping
    else if c == ',' then st.comma
    else if c == '-' && s.blankAfter 1 then st.dash
    else if c == '?' && (st.inFlow || s.blankAfter 1) then st.explicitKey
    else if c == ':' && (st.inFlow || s.blankAfter 1) then st.colon
    else if c == '*' then st.leading (s.anchorName?.map fun (name, s) => (.alias name, s))
    else if c == '&' then st.leading (s.anchorName?.map fun (name, s) => (.anchor name, s))
    else if c == '!' then st.leading (s.tag? st.inFlow)
    else if c == '|' && !st.inFlow then st.block true
    else if c == '>' && !st.inFlow then st.block false
    else if c == '\'' then
      st.leading ((s.quoted? true).map fun (text, s) => (.scalar text false, s))
    else if c == '"' then
      st.leading ((s.quoted? false).map fun (text, s) => (.scalar text false, s))
    else if st.atPlain c then st.plain
    else none

/-- One step: the next token, with the blanks before it. -/
def step (st : Lexer) : Option Lexer := do
  let st ← (skipGap (st.cursor.rest.length + 1) st).dropStale
  (st.closeBlocks (some st.cursor.column)).nextToken

/-- The tokens from a state on, at most `n` of them. -/
def run : Nat → Lexer → List Token
  | 0, st => st.tokens.toList
  | n + 1, st =>
    match st.step with
    | none => st.tokens.toList.take st.settled
    | some next => if next.tokens.back? == some .streamEnd then next.tokens.toList else run n next

end Lexer

/-- The **tokens** of a text, as far as they are certain before a fault is met. -/
def Token.ofText (text : List Char) : List Token :=
  Lexer.run (text.length + 1) (Lexer.start text)

end SiteGen.Yaml
