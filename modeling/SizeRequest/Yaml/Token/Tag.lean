import SizeRequest.Text.Digit
import SizeRequest.Yaml.Token

namespace SizeRequest.Yaml

def anchorEnds : List Char := ['?', ':', ',', ']', '\x7d', '%', '@', '`']

def anchorName (c : Cursor) : Scan (List Char) :=
  let c := c.skip 1
  let name := c.run isName
  let c := c.skipRun isName
  let ends := c.spaceAt 0 || (c.peek?.map anchorEnds.contains).getD false
  if !name.isEmpty && ends then .ok (name, c) else c.fail .invalidAnchor

/-- Reads an exclamation mark, name characters, and a second mark, if there is one. -/
def tagHandle (c : Cursor) : Scan (List Char) :=
  if !c.sees '!' then c.fail .invalidTag
  else
    let name := '!' :: (c.skip 1).run isName
    let c := (c.skip 1).skipRun isName
    if c.sees '!' then .ok (name ++ ['!'], c.skip 1) else .ok (name, c)

def isEnclosed (handle : List Char) : Bool := 2 ≤ handle.length && handle.getLast? == some '!'

def encodedSize (byte : Nat) : Nat :=
  if byte < 0x80 then 1
  else if byte < 0xC0 then 0
  else if byte < 0xE0 then 2
  else if byte < 0xF0 then 3
  else if byte < 0xF8 then 4
  else 0

def escapedByte (c : Cursor) : Scan Nat :=
  let digits := (c.rest.drop 1).take 2
  match Text.ofDigits? 16 digits with
  | some n => if c.sees '%' && digits.length == 2 then .ok (n, c.skip 3) else c.fail .invalidTag
  | none => c.fail .invalidTag

def escapedTail : (count : Nat) → Cursor → Scan (List Char)
  | 0, c => .ok ([], c)
  | count + 1, c =>
    match escapedByte c with
    | .error fault => .error fault
    | .ok (n, next) =>
      if n < 0x80 || 0xC0 ≤ n then c.fail .invalidTag
      else
        match escapedTail count next with
        | .error fault => .error fault
        | .ok (cs, c) => .ok (Char.ofNat n :: cs, c)

def escapedCharacter (c : Cursor) : Scan (List Char) :=
  match escapedByte c with
  | .error fault => .error fault
  | .ok (n, next) =>
    if encodedSize n == 0 then c.fail .invalidTag
    else
      match escapedTail (encodedSize n - 1) next with
      | .error fault => .error fault
      | .ok (cs, c) => .ok (Char.ofNat n :: cs, c)

/-- The characters of tags; commas and square brackets only where nothing else is meant by
them. -/
def isTagChar (isVerbatim : Bool) (c : Char) : Bool :=
  isName c || ";/?:@&=+$.%!~*'()".toList.contains c
    || (isVerbatim && (c == ',' || c == '[' || c == ']'))

def tagCharsWithin (isVerbatim : Bool) : (budget : Nat) → Cursor → Scan (List Char)
  | 0, c => .ok ([], c)
  | budget + 1, c =>
    match c.peek? with
    | none => .ok ([], c)
    | some x =>
      if !isTagChar isVerbatim x then .ok ([], c)
      else
        let read : Scan (List Char) := if x == '%' then escapedCharacter c else .ok ([x], c.skip 1)
        match read with
        | .error fault => .error fault
        | .ok (cs, c) =>
          match tagCharsWithin isVerbatim budget c with
          | .error fault => .error fault
          | .ok (more, c) => .ok (cs ++ more, c)

def tagChars (isVerbatim : Bool) (c : Cursor) : Scan (List Char) :=
  tagCharsWithin isVerbatim (c.rest.length + 1) c

def someTagChars (isVerbatim : Bool) (c : Cursor) : Scan (List Char) :=
  match tagChars isVerbatim c with
  | .error fault => .error fault
  | .ok ([], c) => c.fail .invalidTag
  | .ok (cs, c) => .ok (cs, c)

/-- Reads a tag: in angle brackets, after a handle, or after an exclamation mark. -/
def tagParts (c : Cursor) : Scan (List Char × List Char) :=
  if c.rest[1]? == some '<' then
    match someTagChars true (c.skip 2) with
    | .error fault => .error fault
    | .ok (suffix, c) => if c.sees '>' then .ok (([], suffix), c.skip 1) else c.fail .invalidTag
  else
    match tagHandle c with
    | .error fault => .error fault
    | .ok (handle, c) =>
      if isEnclosed handle then
        match someTagChars false c with
        | .error fault => .error fault
        | .ok (suffix, c) => .ok ((handle, suffix), c)
      else
        match tagChars false c with
        | .error fault => .error fault
        | .ok (more, c) =>
          match handle.drop 1 ++ more with
          | [] => .ok (([], ['!']), c)
          | suffix => .ok ((['!'], suffix), c)

def tag (inFlow : Bool) (c : Cursor) : Scan (List Char × List Char) :=
  match tagParts c with
  | .error fault => .error fault
  | .ok (parts, c) =>
    if (inFlow && c.sees ',') || c.spaceAt 0 then .ok (parts, c) else c.fail .invalidTag

def versionNumber (c : Cursor) : Scan Nat :=
  let digits := c.run Char.isDigit
  if digits.isEmpty || 9 < digits.length then c.fail .invalidDirective
  else .ok (Text.ofDigits 10 digits, c.skipRun Char.isDigit)

/-- Reads what stands after the name of a version directive: two numbers and a point between
them. The versions 1.1 and 1.2 are known. -/
def versionDirective (c : Cursor) : Scan TokenKind :=
  match versionNumber (c.skipRun isBlank) with
  | .error fault => .error fault
  | .ok (major, c) =>
    if !c.sees '.' then c.fail .invalidDirective
    else
      match versionNumber (c.skip 1) with
      | .error fault => .error fault
      | .ok (minor, c) => .ok (.version (major == 1 && (minor == 1 || minor == 2)), c)

def tagDirective (c : Cursor) : Scan TokenKind :=
  match tagHandle (c.skipRun isBlank) with
  | .error fault => .error fault
  | .ok (handle, c) =>
    if handle != ['!'] && !isEnclosed handle then c.fail .invalidDirective
    else if !(c.peek?.map isBlank).getD false then c.fail .invalidDirective
    else
      match someTagChars true (c.skipRun isBlank) with
      | .error fault => .error fault
      | .ok (start, c) =>
        if c.spaceAt 0 then .ok (.tagHandle handle start, c) else c.fail .invalidDirective

def directive (c : Cursor) : Scan TokenKind :=
  let c := c.skip 1
  let name := c.run isName
  let after := c.skipRun isName
  let read : Scan TokenKind :=
    if !after.spaceAt 0 then after.fail .invalidDirective
    else if name == ['Y', 'A', 'M', 'L'] then versionDirective after
    else if name == ['T', 'A', 'G'] then tagDirective after
    else c.fail .invalidDirective
  match read with
  | .error fault => .error fault
  | .ok (kind, c) =>
    let c := c.skipComment
    if c.atLineEnd then .ok (kind, c.skipLineEnd) else c.fail .invalidDirective

end SizeRequest.Yaml
