import SiteGen.Yaml.Token.Gap

/-!
# Quoted and plain scalars

* `Cursor.quoted?` reads a scalar in single or double quotes.
* `Cursor.plain?` reads a scalar without quotes.
-/

namespace SiteGen.Yaml

namespace Cursor

/-- The character that an escape after `\` stands for, and the position past it. -/
def escape? (s : Cursor) : Option (Char × Cursor) :=
  match s.rest with
  | [] => none
  | c :: _ =>
    let s := s.skip
    let numbered n := (s.hex? n).bind fun k => (charOf? k).map (·, s.skipMany n)
    match c with
    | '0' => some ('\x00', s)
    | 'a' => some ('\x07', s)
    | 'b' => some ('\x08', s)
    | 't' | '\t' => some ('\t', s)
    | 'n' => some ('\n', s)
    | 'v' => some ('\x0b', s)
    | 'f' => some ('\x0c', s)
    | 'r' => some ('\r', s)
    | 'e' => some ('\x1b', s)
    | ' ' => some (' ', s)
    | '"' => some ('"', s)
    | '/' => some ('/', s)
    | '\\' => some ('\\', s)
    | 'N' => some ('\x85', s)
    | '_' => some ('\xa0', s)
    | 'L' => some ('\u2028', s)
    | 'P' => some ('\u2029', s)
    | 'x' => numbered 2
    | 'u' => numbered 4
    | 'U' => numbered 8
    | _ => none

/-- The rest of a quoted scalar; `read` is what has been read, last character first. -/
def quotedRest (single : Bool) : Nat → Gap → List Char → Cursor → Option (String × Cursor)
  | 0, _, _, _ => none
  | n + 1, gap, read, s =>
    match s.rest with
    | [] => none
    | c :: _ =>
      if s.atDocumentMarker then none
      else if isSpacing c then quotedRest single n (gap.addSpace c) read s.skip
      else if isBreak c then
        let (text, after) := s.breakLine
        quotedRest single n (gap.addBreak text) read after
      else
        let read := gap.text.reverse ++ read
        if single then
          if c != '\'' then quotedRest single n .empty (c :: read) s.skip
          else if s.charAfter 1 (· == '\'') then
            quotedRest single n .empty ('\'' :: read) (s.skipMany 2)
          else some (String.ofList read.reverse, s.skip)
        else if c == '"' then some (String.ofList read.reverse, s.skip)
        else if c != '\\' then quotedRest single n .empty (c :: read) s.skip
        else if s.charAfter 1 isBreak then
          quotedRest single n (.broken [] []) read s.skip.skipLine
        else
          match s.skip.escape? with
          | some (escaped, after) => quotedRest single n .empty (escaped :: read) after
          | none => none

/-- Reads a **quoted scalar**, its opening quote being the next character. -/
def quoted? (single : Bool) (s : Cursor) : Option (String × Cursor) :=
  quotedRest single s.rest.length .empty [] s.skip

/-- The rest of a plain scalar: its text, whether a line break came last, and the position past
the blanks after it. -/
def plainRest (inFlow : Bool) (indent : Nat) :
    Nat → Gap → List Char → Cursor → Option (String × Bool × Cursor)
  | 0, gap, read, s => some (String.ofList read.reverse, gap.isBroken, s)
  | n + 1, gap, read, s =>
    let stop := some (String.ofList read.reverse, gap.isBroken, s)
    match s.rest with
    | [] => stop
    | c :: _ =>
      if isSpacing c then
        if gap.isBroken && decide (s.column < indent) && c == '\t' then none
        else plainRest inFlow indent n (gap.addSpace c) read s.skip
      else if isBreak c then
        let (text, after) := s.breakLine
        plainRest inFlow indent n (gap.addBreak text) read after
      else if !gap.isEmpty &&
          (s.atDocumentMarker || c == '#' || (!inFlow && decide (s.column < indent))) then stop
      else if inFlow && c == ':' && s.charAfter 1 (",?[]\x7b\x7d".toList.contains ·) then none
      else if (c == ':' && s.blankAfter 1) || (inFlow && ",[]\x7b\x7d".toList.contains c) then stop
      else plainRest inFlow indent n .empty (c :: (gap.text.reverse ++ read)) s.skip

/-- Reads a **plain scalar**, of which lines after the first are indented by at least `indent`. -/
def plain? (inFlow : Bool) (indent : Nat) (s : Cursor) : Option (String × Bool × Cursor) :=
  plainRest inFlow indent s.rest.length .empty [] s

end Cursor

end SiteGen.Yaml
