import SizeRequest.Toml.Fault

namespace SizeRequest.Toml

def isControl (c : Char) : Bool := (c.toNat < 0x20 && c != '\t') || c == '\x7f'

def isBlank (c : Char) : Bool := c == ' ' || c == '\t'

def afterNewline? : List Char → Option (List Char)
  | '\n' :: rest => some rest
  | '\r' :: '\n' :: rest => some rest
  | _ => none

def numberedEscape (size : Nat) : Reader Char := fun s =>
  match Text.ofDigits? 16 (s.take size) with
  | none => failAt .invalidEscape s
  | some n =>
    if (s.take size).length < size then failAt .invalidEscape s
    else if n.isValidChar then .ok (Char.ofNat n, s.drop size)
    else failAt .noCharacter s

def escape : Reader Char
  | 'b' :: rest => .ok ('\x08', rest)
  | 't' :: rest => .ok ('\t', rest)
  | 'n' :: rest => .ok ('\n', rest)
  | 'f' :: rest => .ok ('\x0c', rest)
  | 'r' :: rest => .ok ('\r', rest)
  | 'e' :: rest => .ok ('\x1b', rest)
  | '"' :: rest => .ok ('"', rest)
  | '\\' :: rest => .ok ('\\', rest)
  | 'x' :: rest => numberedEscape 2 rest
  | 'u' :: rest => numberedEscape 4 rest
  | 'U' :: rest => numberedEscape 8 rest
  | rest => failAt .invalidEscape rest

def prepend (c : Char) (read : Except Fault (List Char × List Char)) :
    Except Fault (List Char × List Char) :=
  match read with
  | .error fault => .error fault
  | .ok (cs, rest) => .ok (c :: cs, rest)

def lineWithin (quote : Char) : (budget : Nat) → Reader (List Char)
  | 0, s => failAt .unclosedString s
  | _ + 1, [] => failAt .unclosedString []
  | budget + 1, c :: rest =>
    if c == quote then .ok ([], rest)
    else if c == '\\' && quote == '"' then
      match escape rest with
      | .error fault => .error fault
      | .ok (c, rest) => prepend c (lineWithin quote budget rest)
    else if isControl c then failAt .controlCharacter (c :: rest)
    else prepend c (lineWithin quote budget rest)

/-- What follows the blanks and line ends after a backslash at the end of a line; none if the
backslash is not at the end of its line. -/
def afterContinuation? (s : List Char) : Option (List Char) :=
  (afterNewline? (s.dropWhile isBlank)).map
    (·.dropWhile fun c => isBlank c || c == '\n' || c == '\r')

def linesWithin (quote : Char) : (budget : Nat) → Reader (List Char)
  | 0, s => failAt .unclosedString s
  | _ + 1, [] => failAt .unclosedString []
  | budget + 1, c :: rest =>
    if (c :: rest).take 3 == [quote, quote, quote] then
      let more := ((rest.drop 2).take 2).takeWhile (· == quote)
      .ok (more, rest.drop (2 + more.length))
    else if c == '\\' && quote == '"' then
      match afterContinuation? rest with
      | some rest => linesWithin quote budget rest
      | none =>
        match escape rest with
        | .error fault => .error fault
        | .ok (c, rest) => prepend c (linesWithin quote budget rest)
    else
      match afterNewline? (c :: rest) with
      | some after =>
        if c == '\r' then prepend '\r' (prepend '\n' (linesWithin quote budget after))
        else prepend '\n' (linesWithin quote budget after)
      | none =>
        if isControl c then failAt .controlCharacter (c :: rest)
        else prepend c (linesWithin quote budget rest)

def lineString (quote : Char) : Reader String := fun s =>
  match lineWithin quote (s.length + 1) s with
  | .error fault => .error fault
  | .ok (cs, rest) => .ok (String.ofList cs, rest)

/-- The text of a string, read from after the first quote. A line end right after three opening
quotes does not count. -/
def string (quote : Char) : Reader String := fun s =>
  if s.take 2 == [quote, quote] then
    let s := (afterNewline? (s.drop 2)).getD (s.drop 2)
    match linesWithin quote (s.length + 1) s with
    | .error fault => .error fault
    | .ok (cs, rest) => .ok (String.ofList cs, rest)
  else lineString quote s

end SizeRequest.Toml
