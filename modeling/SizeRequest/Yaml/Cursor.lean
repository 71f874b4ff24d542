import SizeRequest.Yaml.Fault

namespace SizeRequest.Yaml

def isBlank (c : Char) : Bool := c == ' ' || c == '\t'

def isBreak (c : Char) : Bool :=
  c == '\n' || c == '\r' || c == '\u0085' || c == '\u2028' || c == '\u2029'

def isInk (c : Char) : Bool := !isBlank c && !isBreak c

def isName (c : Char) : Bool := c.isAlphanum || c == '_' || c == '-'

def isAllowed (c : Char) : Bool :=
  let n := c.toNat
  n == 0x09 || n == 0x0A || n == 0x0D || (0x20 ≤ n && n ≤ 0x7E) || n == 0x85
    || (0xA0 ≤ n && n ≤ 0xD7FF) || (0xE000 ≤ n && n ≤ 0xFFFD) || 0x10000 ≤ n

structure Cursor where
  rest : List Char
  index : Nat := 0
  point : Point := {}

abbrev Scan (α : Type) := Except Fault (α × Cursor)

namespace Cursor

def column (c : Cursor) : Nat := c.point.column

def fail {α : Type} (c : Cursor) (cause : Malformation) : Except Fault α :=
  .error (.malformed cause c.point)

def peek? (c : Cursor) : Option Char := c.rest.head?

def sees (c : Cursor) (x : Char) : Bool := c.peek? == some x

/-- Whether nothing but the end of the text, a blank or a line end stands after some characters. -/
def spaceAt (c : Cursor) (n : Nat) : Bool :=
  match c.rest[n]? with
  | some x => !isInk x
  | none => true

def atLineEnd (c : Cursor) : Bool :=
  match c.peek? with
  | some x => isBreak x
  | none => true

def skip (c : Cursor) (n : Nat) : Cursor :=
  ⟨c.rest.drop n, c.index + n, { c.point with column := c.point.column + n }⟩

def run (c : Cursor) (ofClass : Char → Bool) : List Char := c.rest.takeWhile ofClass

def skipRun (c : Cursor) (ofClass : Char → Bool) : Cursor := c.skip (c.run ofClass).length

def nextLine (c : Cursor) (n : Nat) : Cursor :=
  ⟨c.rest.drop n, c.index + n, ⟨c.point.line + 1, 0⟩⟩

/-- Reads a line end, if there is one, as the text that stands for it: the two separators of the
Unicode standard stand for themselves, and all others for a line feed. -/
def lineEnd (c : Cursor) : List Char × Cursor :=
  match c.rest with
  | '\r' :: '\n' :: _ => (['\n'], c.nextLine 2)
  | '\u2028' :: _ => (['\u2028'], c.nextLine 1)
  | '\u2029' :: _ => (['\u2029'], c.nextLine 1)
  | x :: _ => if isBreak x then (['\n'], c.nextLine 1) else ([], c)
  | [] => ([], c)

def skipLineEnd (c : Cursor) : Cursor := c.lineEnd.2

/-- The cursor at the end of the line, if nothing but blanks and a comment stand in front of
it. -/
def skipComment (c : Cursor) : Cursor :=
  let c := c.skipRun isBlank
  if c.sees '#' then c.skipRun (!isBreak ·) else c

def seesMarker (c : Cursor) (x : Char) : Bool :=
  c.column == 0 && c.rest.take 3 == [x, x, x] && c.spaceAt 3

def atDocumentMarker (c : Cursor) : Bool := c.seesMarker '-' || c.seesMarker '.'

end Cursor

end SizeRequest.Yaml
