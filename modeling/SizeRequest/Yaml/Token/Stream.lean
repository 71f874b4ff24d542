import SizeRequest.Yaml.Token.Block
import SizeRequest.Yaml.Token.Text
import SizeRequest.Yaml.Token.Tag

namespace SizeRequest.Yaml

/-- Something that may turn out to be a key, which only the colon behind it shows: whether it has
to, and where it starts among the tokens and in the text. -/
structure PossibleKey where
  isRequired : Bool
  number : Nat
  start : Cursor

def longestKey : Nat := 1024

/-- Tokens in the making: what is unread, the columns by which blocks are indented, the possible
keys of the brackets around, and the tokens that are held back, with the number of those that went
before. A block at some column needs a margin of one more column inside. -/
structure Lexer where
  cursor : Cursor
  margin : Nat := 0
  outerMargins : List Nat := []
  mayStartKey : Bool := true
  possible : Option PossibleKey := none
  outerPossible : List (Option PossibleKey) := []
  held : List Token := []
  released : Nat := 0

namespace Lexer

def inFlow (l : Lexer) : Bool := !l.outerPossible.isEmpty

def advance (l : Lexer) (c : Cursor) : Lexer := { l with cursor := c }

def emit (l : Lexer) (kind : TokenKind) : Lexer :=
  { l with held := l.held ++ [⟨kind, l.cursor.point⟩] }

def emitSign (l : Lexer) (kind : TokenKind) (size : Nat) : Lexer :=
  (l.emit kind).advance (l.cursor.skip size)

/-- Closes the blocks that need a margin wider than `margin`; `blocks` are those around the
innermost one. -/
def closeFrom (l : Lexer) (margin : Nat) : (blocks : List Nat) → Lexer
  | [] => l
  | outer :: blocks =>
    if l.margin ≤ margin then l
    else closeFrom ({ l with margin := outer, outerMargins := blocks }.emit .blockEnd) margin blocks

def closeBlocks (l : Lexer) (margin : Nat) : Lexer :=
  if l.inFlow then l else l.closeFrom margin l.outerMargins

/-- Opens a block at a column, if that is further right than the innermost one. Its token is
put in front of the held token `place`. -/
def openBlock (l : Lexer) (column : Nat) (place : Nat) (token : Token) : Lexer :=
  if l.inFlow || column < l.margin then l
  else
    { l with
      margin := column + 1
      outerMargins := l.margin :: l.outerMargins
      held := l.held.insertIdx place token }

def openBlockHere (l : Lexer) (kind : TokenKind) : Lexer :=
  l.openBlock l.cursor.column l.held.length ⟨kind, l.cursor.point⟩

def isStale (l : Lexer) (k : PossibleKey) : Bool :=
  k.start.point.line < l.cursor.point.line || k.start.index + longestKey < l.cursor.index

def refreshed (l : Lexer) (possible : Option PossibleKey) : Except Fault (Option PossibleKey) :=
  match possible with
  | none => .ok none
  | some k =>
    if !l.isStale k then .ok (some k)
    else if k.isRequired then k.start.fail .keyWithoutColon
    else .ok none

def refresh (l : Lexer) : Except Fault Lexer :=
  match l.outerPossible.reverse.mapM l.refreshed, l.refreshed l.possible with
  | .ok outer, .ok possible =>
    .ok { l with possible := possible, outerPossible := outer.reverse }
  | .error fault, _ => .error fault
  | _, .error fault => .error fault

def dropKey (l : Lexer) : Except Fault Lexer :=
  match l.possible with
  | some k => if k.isRequired then k.start.fail .keyWithoutColon
    else .ok { l with possible := none }
  | none => .ok l

def noteKey (l : Lexer) : Except Fault Lexer :=
  if !l.mayStartKey then .ok l
  else
    let isRequired := !l.inFlow && l.margin == l.cursor.column + 1
    match l.dropKey with
    | .error fault => .error fault
    | .ok l =>
      .ok { l with possible := some ⟨isRequired, l.released + l.held.length, l.cursor⟩ }

def allowKey (l : Lexer) (may : Bool) : Lexer := { l with mayStartKey := may }

/-- Skips blanks, comments and line ends in front of the next token. A tab counts as a blank only
where no key may start. `budget` bounds the number of lines. -/
def skipSpaceWithin : (budget : Nat) → Lexer → Lexer
  | 0, l => l
  | budget + 1, l =>
    let c := if l.cursor.index == 0 && l.cursor.sees '\ufeff' then l.cursor.skip 1 else l.cursor
    let c := c.skipRun fun x => x == ' ' || (x == '\t' && (l.inFlow || !l.mayStartKey))
    let c := if c.sees '#' then c.skipRun (!isBreak ·) else c
    let l := l.advance c
    let (text, next) := c.lineEnd
    if text.isEmpty then l
    else skipSpaceWithin budget ((l.allowKey (l.mayStartKey || !l.inFlow)).advance next)

def skipSpace (l : Lexer) : Lexer := l.skipSpaceWithin (l.cursor.rest.length + 1)

def scanned {α : Type} (l : Lexer) (read : Scan α) (kind : α → TokenKind) : Except Fault Lexer :=
  match read with
  | .error fault => .error fault
  | .ok (a, c) => .ok ((l.emit (kind a)).advance c)

def outermost (l : Lexer) : Except Fault Lexer :=
  ((l.closeBlocks 0).dropKey).map (·.allowKey false)

def endStream (l : Lexer) : Except Fault Lexer :=
  let c := l.cursor
  let c := if c.column == 0 then c else c.nextLine 0
  ((l.advance c).outermost).map (·.emit .streamEnd)

def openFlow (l : Lexer) (kind : TokenKind) : Except Fault Lexer :=
  l.noteKey.map fun l =>
    let inside := { l with possible := none, outerPossible := l.possible :: l.outerPossible }
    (inside.allowKey true).emitSign kind 1

def closeFlow (l : Lexer) (kind : TokenKind) : Except Fault Lexer :=
  l.dropKey.map fun l =>
    let l := match l.outerPossible with
      | possible :: outer => { l with possible := possible, outerPossible := outer }
      | [] => l
    (l.allowKey false).emitSign kind 1

def flowEntry (l : Lexer) : Except Fault Lexer :=
  l.dropKey.map fun l => (l.allowKey true).emitSign .flowEntry 1

def blockEntry (l : Lexer) : Except Fault Lexer :=
  if !l.inFlow && !l.mayStartKey then l.cursor.fail .entryMisplaced
  else
    (l.openBlockHere .blockSequenceStart).dropKey.map fun l =>
      (l.allowKey true).emitSign .blockEntry 1

def explicitKey (l : Lexer) : Except Fault Lexer :=
  if !l.inFlow && !l.mayStartKey then l.cursor.fail .keyMisplaced
  else
    (l.openBlockHere .blockMappingStart).dropKey.map fun l =>
      (l.allowKey (!l.inFlow)).emitSign .key 1

def value (l : Lexer) : Except Fault Lexer :=
  match l.possible with
  | some k =>
    let place := k.number - l.released
    let l := { l with possible := none, held := l.held.insertIdx place ⟨.key, k.start.point⟩ }
    let l := l.openBlock k.start.column place ⟨.blockMappingStart, k.start.point⟩
    .ok ((l.allowKey false).emitSign .value 1)
  | none =>
    if !l.inFlow && !l.mayStartKey then l.cursor.fail .valueMisplaced
    else
      let l := l.openBlockHere .blockMappingStart
      .ok ((l.allowKey (!l.inFlow)).emitSign .value 1)

def plainScalar (l : Lexer) : Except Fault Lexer :=
  match l.noteKey with
  | .error fault => .error fault
  | .ok l =>
    match plain l.inFlow l.margin l.cursor with
    | .error fault => .error fault
    | .ok ((text, isBroken), c) =>
      .ok (((l.allowKey isBroken).emit (.scalar text .plain)).advance c)

def keyPart {α : Type} (l : Lexer) (read : Lexer → Scan α) (kind : α → TokenKind) :
    Except Fault Lexer :=
  match l.noteKey with
  | .error fault => .error fault
  | .ok l => (l.allowKey false).scanned (read l) kind

def blockScalar (l : Lexer) (isLiteral : Bool) : Except Fault Lexer :=
  match l.dropKey with
  | .error fault => .error fault
  | .ok l =>
    (l.allowKey true).scanned (block isLiteral l.margin l.cursor)
      (.scalar · (if isLiteral then .literal else .folded))

def signs : List Char := "-?:,[]{}#&*!|>'\"%@`".toList

def startsPlain (l : Lexer) (x : Char) : Bool :=
  (isInk x && !signs.contains x)
    || (x == '-' && !((l.cursor.rest[1]?).map isBlank).getD false)
    || (!l.inFlow && (x == '?' || x == ':') && !l.cursor.spaceAt 1)

def tokenAt (l : Lexer) (x : Char) : Except Fault Lexer :=
  let c := l.cursor
  if x == '%' && c.column == 0 then
    match l.outermost with
    | .error fault => .error fault
    | .ok l => l.scanned (directive c) id
  else if c.seesMarker '-' then l.outermost.map (·.emitSign .documentStart 3)
  else if c.seesMarker '.' then l.outermost.map (·.emitSign .documentEnd 3)
  else if x == '[' then l.openFlow .flowSequenceStart
  else if x == '\x7b' then l.openFlow .flowMappingStart
  else if x == ']' then l.closeFlow .flowSequenceEnd
  else if x == '\x7d' then l.closeFlow .flowMappingEnd
  else if x == ',' then l.flowEntry
  else if x == '-' && c.spaceAt 1 then l.blockEntry
  else if x == '?' && (l.inFlow || c.spaceAt 1) then l.explicitKey
  else if x == ':' && (l.inFlow || c.spaceAt 1) then l.value
  else if x == '*' then l.keyPart (fun l => anchorName l.cursor) .alias
  else if x == '&' then l.keyPart (fun l => anchorName l.cursor) .anchor
  else if x == '!' then
    l.keyPart (fun l => tag l.inFlow l.cursor) fun parts => .tag parts.1 parts.2
  else if x == '|' && !l.inFlow then l.blockScalar true
  else if x == '>' && !l.inFlow then l.blockScalar false
  else if x == '\'' then l.keyPart (fun l => quoted '\'' l.cursor) (.scalar · .singleQuoted)
  else if x == '"' then l.keyPart (fun l => quoted '"' l.cursor) (.scalar · .doubleQuoted)
  else if l.startsPlain x then l.plainScalar
  else c.fail .noToken

def next (l : Lexer) : Except Fault (Lexer × Bool) :=
  match l.skipSpace.refresh with
  | .error fault => .error fault
  | .ok l =>
    let l := l.closeBlocks (l.cursor.column + 1)
    match l.cursor.peek? with
    | none => l.endStream.map (·, true)
    | some x => (l.tokenAt x).map (·, false)

def isPossible (l : Lexer) (number : Nat) : Bool :=
  (l.possible :: l.outerPossible).any fun k => (k.map fun k => k.number == number).getD false

def releaseFrom (l : Lexer) : (held : List Token) → List Token × Lexer
  | [] => ([], { l with held := [] })
  | t :: held =>
    if l.isPossible l.released then ([], { l with held := t :: held })
    else
      let (ready, l) := releaseFrom { l with released := l.released + 1 } held
      (t :: ready, l)

def tokensWithin : (budget : Nat) → Lexer → List Token × Option Fault
  | 0, _ => ([], none)
  | budget + 1, l =>
    match l.next with
    | .error fault => ([], some fault)
    | .ok (l, isEnd) =>
      match l.refresh with
      | .error fault => ([], some fault)
      | .ok l =>
        let (ready, l) := l.releaseFrom l.held
        if isEnd then (ready, none)
        else
          let (more, fault) := tokensWithin budget l
          (ready ++ more, fault)

end Lexer

def forbidden? (text : List Char) : Option Fault :=
  match text.dropWhile isAllowed with
  | [] => none
  | _ =>
    let read := text.takeWhile isAllowed
    let column := (read.reverse.takeWhile (!isBreak ·)).length
    some (.malformed .controlCharacter ⟨read.countP isBreak, column⟩)

/-- The tokens of a text, up to its end or to a malformation. A text in which some character may
not stand has none. -/
def tokens (text : List Char) : List Token × Option Fault :=
  match forbidden? text with
  | some fault => ([], some fault)
  | none => Lexer.tokensWithin (text.length + 2) { cursor := ⟨text, 0, {}⟩ }

end SizeRequest.Yaml
