import SizeRequest.Text.Digit
import SizeRequest.Yaml.Token

namespace SizeRequest.Yaml

inductive Chomping
  | strip
  | clip
  | keep
deriving DecidableEq

structure BlockHeader where
  chomping : Chomping := .clip
  increment : Nat := 0

namespace BlockHeader

def readChomping (h : BlockHeader) (c : Cursor) : BlockHeader × Cursor :=
  if c.sees '+' then ({ h with chomping := .keep }, c.skip 1)
  else if c.sees '-' then ({ h with chomping := .strip }, c.skip 1)
  else (h, c)

def readIncrement (h : BlockHeader) (c : Cursor) : Scan BlockHeader :=
  match c.peek? with
  | some x =>
    if x == '0' then c.fail .invalidBlockHeader
    else if x.isDigit then .ok ({ h with increment := x.toNat - 48 }, c.skip 1)
    else .ok (h, c)
  | none => .ok (h, c)

def read (c : Cursor) : Scan BlockHeader :=
  let (h, c) := readChomping {} c
  match readIncrement h c with
  | .error fault => .error fault
  | .ok (h, c) =>
    let (h, c) := if h.chomping == .clip && h.increment != 0 then readChomping h c else (h, c)
    let c := c.skipComment
    if c.atLineEnd then .ok (h, c.skipLineEnd) else c.fail .invalidBlockHeader

end BlockHeader

/-- Reads the indentation of the next line that is not blank, and the line ends in front of it.
As long as the indentation `indent` is zero, it is not known, and the widest seen counts. `budget`
bounds the number of lines. -/
def blockBreaksWithin (indent : Nat) : (budget : Nat) → (widest : Nat) → Cursor →
    Scan (List Char × Nat)
  | 0, widest, c => .ok (([], widest), c)
  | budget + 1, widest, c =>
    let room := if indent == 0 then c.rest.length else indent - c.column
    let c := c.skip (min room (c.run (· == ' ')).length)
    let widest := max widest c.column
    if (indent == 0 || c.column < indent) && c.sees '\t' then c.fail .tab
    else
      let (text, next) := c.lineEnd
      if text.isEmpty then .ok (([], widest), c)
      else
        match blockBreaksWithin indent budget widest next with
        | .error fault => .error fault
        | .ok ((more, widest), c) => .ok ((text ++ more, widest), c)

def blockBreaks (indent : Nat) (c : Cursor) : Scan (List Char) :=
  match blockBreaksWithin indent (c.rest.length + 1) 0 c with
  | .error fault => .error fault
  | .ok ((text, _), c) => .ok (text, c)

/-- The text of a block scalar from a line on, and what stands between it and the line before:
the line end, the empty lines, and whether the line before starts with a blank. `budget` bounds
the number of lines. -/
def blockLinesWithin (isLiteral : Bool) (chomping : Chomping) (indent : Nat) :
    (budget : Nat) → (first more : List Char) → (wasBlank : Bool) → Cursor → Scan (List Char)
  | 0, _, _, _, c => .ok ([], c)
  | budget + 1, first, more, wasBlank, c =>
    if c.column == indent && !c.rest.isEmpty then
      let isBlankLine := (c.peek?.map isBlank).getD false
      let isFolded := !isLiteral && first.head? == some '\n' && !wasBlank && !isBlankLine
      let joint := if isFolded then (if more.isEmpty then [' '] else more) else first ++ more
      let line := c.run (!isBreak ·)
      let (first, c) := (c.skipRun (!isBreak ·)).lineEnd
      match blockBreaks indent c with
      | .error fault => .error fault
      | .ok (more, c) =>
        match blockLinesWithin isLiteral chomping indent budget first more isBlankLine c with
        | .error fault => .error fault
        | .ok (text, c) => .ok (joint ++ line ++ text, c)
    else
      match chomping with
      | .strip => .ok ([], c)
      | .clip => .ok (first, c)
      | .keep => .ok (first ++ more, c)

/-- Reads a block scalar. Where its header does not say by how much it is indented, its first line
shows it; it is indented by `margin` columns at least. -/
def block (isLiteral : Bool) (margin : Nat) (c : Cursor) : Scan (List Char) :=
  match BlockHeader.read (c.skip 1) with
  | .error fault => .error fault
  | .ok (h, c) =>
    let given := if h.increment == 0 then 0 else margin - 1 + h.increment
    match blockBreaksWithin given (c.rest.length + 1) 0 c with
    | .error fault => .error fault
    | .ok ((more, widest), c) =>
      let indent := if given == 0 then max 1 (max margin widest) else given
      blockLinesWithin isLiteral h.chomping indent (c.rest.length + 1) [] more false c

end SizeRequest.Yaml
