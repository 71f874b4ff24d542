namespace SizeRequest.Text

inductive ControlState
  | outside
  | escape
  | control
  | string

/-- A text without control sequences and without control characters that are not white space. -/
def plainFrom : ControlState → List Char → List Char
  | _, [] => []
  | state, c :: rest =>
    if c == '\x1b' then plainFrom .escape rest
    else
      match state with
      | .outside =>
        let hidden := (c.toNat < 0x20 && c != '\t' && c != '\n' && c != '\x0c' && c != '\r')
          || c == '\x7f'
        if hidden then plainFrom .outside rest else c :: plainFrom .outside rest
      | .escape =>
        if c == '[' then plainFrom .control rest
        else if c == ']' || c == 'P' || c == 'X' || c == '^' || c == '_' then
          plainFrom .string rest
        else if c.toNat < 0x30 then plainFrom .escape rest
        else plainFrom .outside rest
      | .control =>
        if (0x40 ≤ c.toNat && c.toNat ≤ 0x7e) || c == '\x18' || c == '\x1a' then
          plainFrom .outside rest
        else plainFrom .control rest
      | .string =>
        if c == '\x07' || c == '\x18' || c == '\x1a' then plainFrom .outside rest
        else plainFrom .string rest

def plain (s : String) : String := String.ofList (plainFrom .outside s.toList)

end SizeRequest.Text
