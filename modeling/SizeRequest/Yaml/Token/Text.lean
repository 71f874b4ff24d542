import SizeRequest.Text.Digit
import SizeRequest.Yaml.Token

namespace SizeRequest.Yaml

structure Gap where
  blanks : List Char := []
  first : List Char := []
  more : List Char := []
  isBroken : Bool := false

namespace Gap

/-- The text that a gap stands for. One line end counts as a space, several as one less. -/
def folded (g : Gap) : List Char :=
  if !g.isBroken then g.blanks
  else if g.first.head? == some '\n' then (if g.more.isEmpty then [' '] else g.more)
  else g.first ++ g.more

end Gap

/-- Reads a gap. Behind a line end no tab may stand left of the column `margin`. `budget` bounds
the number of characters. -/
def gapWithin (margin : Nat) : (budget : Nat) → Gap → Cursor → Scan Gap
  | 0, g, c => .ok (g, c)
  | budget + 1, g, c =>
    match c.peek? with
    | none => .ok (g, c)
    | some x =>
      if isBlank x then
        if !g.isBroken then gapWithin margin budget { g with blanks := g.blanks ++ [x] } (c.skip 1)
        else if x == '\t' && c.column < margin then c.fail .tab
        else gapWithin margin budget g (c.skip 1)
      else if isBreak x then
        let (text, next) := c.lineEnd
        if !g.isBroken then
          gapWithin margin budget { first := text, isBroken := true } next
        else gapWithin margin budget { g with more := g.more ++ text } next
      else .ok (g, c)

def gap (margin : Nat) (isBroken : Bool) (c : Cursor) : Scan Gap :=
  gapWithin margin (c.rest.length + 1) { isBroken := isBroken } c

def escapes : List (Char × Char) :=
  [('0', '\x00'), ('a', '\x07'), ('b', '\x08'), ('t', '\t'), ('\t', '\t'), ('n', '\n'),
    ('v', '\x0b'), ('f', '\x0c'), ('r', '\r'), ('e', '\x1b'), (' ', ' '), ('"', '"'),
    ('/', '/'), ('\\', '\\'), ('N', '\u0085'), ('_', '\u00a0'), ('L', '\u2028'), ('P', '\u2029')]

def escapeSize? (c : Char) : Option Nat :=
  if c == 'x' then some 2 else if c == 'u' then some 4 else if c == 'U' then some 8 else none

def escape (c : Cursor) : Scan Char :=
  match c.peek? with
  | none => c.fail .invalidEscape
  | some x =>
    match escapes.lookup x, escapeSize? x with
    | some y, _ => .ok (y, c.skip 1)
    | none, none => c.fail .invalidEscape
    | none, some size =>
      let digits := (c.rest.drop 1).take size
      match Text.ofDigits? 16 digits with
      | none => c.fail .invalidEscape
      | some n =>
        if digits.length == size && n.isValidChar then .ok (Char.ofNat n, c.skip (1 + size))
        else c.fail .invalidEscape

def quotedWordWithin (quote : Char) : (budget : Nat) → Cursor → Scan (List Char × Bool)
  | 0, c => .ok (([], false), c)
  | budget + 1, c =>
    let more (x : Char) (c : Cursor) : Scan (List Char × Bool) :=
      match quotedWordWithin quote budget c with
      | .error fault => .error fault
      | .ok ((word, isBroken), c) => .ok ((x :: word, isBroken), c)
    match c.rest with
    | [] => .ok (([], false), c)
    | x :: rest =>
      if !isInk x then .ok (([], false), c)
      else if quote == '\'' && x == '\'' && rest.head? == some '\'' then more '\'' (c.skip 2)
      else if x == quote then .ok (([], false), c)
      else if quote == '"' && x == '\\' then
        if (rest.head?.map isBreak).getD false then .ok (([], true), (c.skip 1).skipLineEnd)
        else
          match escape (c.skip 1) with
          | .error fault => .error fault
          | .ok (y, c) => more y c
      else more x (c.skip 1)

def quotedWithin (quote : Char) : (budget : Nat) → Cursor → Scan (List Char)
  | 0, c => c.fail .unclosedString
  | budget + 1, c =>
    if c.atDocumentMarker then c.fail .documentInString
    else if c.rest.isEmpty then c.fail .unclosedString
    else
      match quotedWordWithin quote (c.rest.length + 1) c with
      | .error fault => .error fault
      | .ok ((word, isBroken), c) =>
        if c.sees quote then .ok (word, c.skip 1)
        else
          match gap 0 isBroken c with
          | .error fault => .error fault
          | .ok (g, c) =>
            match quotedWithin quote budget c with
            | .error fault => .error fault
            | .ok (text, c) => .ok (word ++ g.folded ++ text, c)

def quoted (quote : Char) (c : Cursor) : Scan (List Char) :=
  quotedWithin quote (c.rest.length + 1) (c.skip 1)

def isFlowIndicator (c : Char) : Bool := [',', '[', ']', '\x7b', '\x7d'].contains c

/-- The characters of a plain scalar up to a gap or its end. A colon ends it in front of white
space; between brackets, no colon may stand in front of an indicator. -/
def plainWordWithin (inFlow : Bool) : (budget : Nat) → Cursor → Scan (List Char)
  | 0, c => .ok ([], c)
  | budget + 1, c =>
    match c.rest with
    | [] => .ok ([], c)
    | x :: rest =>
      if !isInk x then .ok ([], c)
      else if inFlow && x == ':'
          && (rest.head?.map fun y => isFlowIndicator y || y == '?').getD false then
        c.fail .colonInFlow
      else if (x == ':' && c.spaceAt 1) || (inFlow && isFlowIndicator x) then .ok ([], c)
      else
        match plainWordWithin inFlow budget (c.skip 1) with
        | .error fault => .error fault
        | .ok (word, c) => .ok (x :: word, c)

/-- The text of a plain scalar from a word on, after the gap `before`, and whether a gap with a
line end follows it. Outside brackets the lines have to be indented by `margin`. `budget` bounds
the number of words. -/
def plainWithin (inFlow : Bool) (margin : Nat) :
    (budget : Nat) → (before : Gap) → Cursor → Scan (List Char × Bool)
  | 0, before, c => .ok (([], before.isBroken), c)
  | budget + 1, before, c =>
    if c.atDocumentMarker || c.sees '#' then .ok (([], before.isBroken), c)
    else
      match plainWordWithin inFlow (c.rest.length + 1) c with
      | .error fault => .error fault
      | .ok ([], c) => .ok (([], before.isBroken), c)
      | .ok (word, c) =>
        match gap margin false c with
        | .error fault => .error fault
        | .ok (after, c) =>
          let text := before.folded ++ word
          if !inFlow && c.column < margin then .ok ((text, after.isBroken), c)
          else
            match plainWithin inFlow margin budget after c with
            | .error fault => .error fault
            | .ok ((more, isBroken), c) => .ok ((text ++ more, isBroken), c)

def plain (inFlow : Bool) (margin : Nat) (c : Cursor) : Scan (List Char × Bool) :=
  plainWithin inFlow margin (c.rest.length + 1) {} c

end SizeRequest.Yaml
