import SizeRequest.Json.Fault

namespace SizeRequest.Json

def isBlank (c : Char) : Bool := c == ' ' || c == '\n' || c == '\t' || c == '\r'

def skipBlanks (s : List Char) : List Char := s.dropWhile isBlank

def fourDigits : Reader Nat
  | a :: b :: c :: d :: rest =>
    match Text.digitValue? a, Text.digitValue? b, Text.digitValue? c, Text.digitValue? d with
    | some a, some b, some c, some d => .ok (((a * 16 + b) * 16 + c) * 16 + d, rest)
    | _, _, _, _ =>
      .error (.malformed .invalidEscape (Text.byteCount (a :: b :: c :: d :: rest) - 4))
  | short =>
    if Text.byteCount short < 4 then .error (.malformed .endInString 0)
    else .error (.malformed .invalidEscape (Text.byteCount short - 4))

/-- The character of an escape by number, read from after the `u`. A character outside the basic
plane takes two escapes. -/
def numberedEscape : Reader Char := fun s =>
  match fourDigits s with
  | .error fault => .error fault
  | .ok (n, rest) =>
    if 0xDC00 ≤ n && n ≤ 0xDFFF then failAt .loneSurrogate rest
    else if n < 0xD800 || 0xDBFF < n then .ok (Char.ofNat n, rest)
    else
      match rest with
      | [] => failAt .endInString rest
      | '\\' :: after =>
        match after with
        | [] => failAt .endInString after
        | 'u' :: after =>
          match fourDigits after with
          | .error fault => .error fault
          | .ok (low, rest) =>
            if low < 0xDC00 || 0xDFFF < low then failAt .loneSurrogate rest
            else .ok (Char.ofNat ((n - 0xD800) * 1024 + (low - 0xDC00) + 0x10000), rest)
        | _ => failPast .hexEscapeEnds after
      | _ => failPast .hexEscapeEnds rest

def escape : Reader Char
  | [] => failAt .endInString []
  | 'u' :: rest => numberedEscape rest
  | '"' :: rest => .ok ('"', rest)
  | '\\' :: rest => .ok ('\\', rest)
  | '/' :: rest => .ok ('/', rest)
  | 'b' :: rest => .ok ('\x08', rest)
  | 'f' :: rest => .ok ('\x0c', rest)
  | 'n' :: rest => .ok ('\n', rest)
  | 'r' :: rest => .ok ('\r', rest)
  | 't' :: rest => .ok ('\t', rest)
  | c :: rest => failPast .invalidEscape (c :: rest)

def charactersWithin : (budget : Nat) → Reader (List Char)
  | 0, s => failAt .endInString s
  | _ + 1, [] => failAt .endInString []
  | _ + 1, '"' :: rest => .ok ([], rest)
  | budget + 1, '\\' :: rest =>
    match escape rest with
    | .error fault => .error fault
    | .ok (c, rest) =>
      match charactersWithin budget rest with
      | .error fault => .error fault
      | .ok (cs, rest) => .ok (c :: cs, rest)
  | budget + 1, c :: rest =>
    if c.toNat < 0x20 then failAt .controlCharacter rest
    else
      match charactersWithin budget rest with
      | .error fault => .error fault
      | .ok (cs, rest) => .ok (c :: cs, rest)

def stringBody : Reader String := fun s =>
  match charactersWithin (s.length + 1) s with
  | .error fault => .error fault
  | .ok (cs, rest) => .ok (String.ofList cs, rest)

end SizeRequest.Json
