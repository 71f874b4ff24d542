import SizeRequest.Log.Event

namespace SizeRequest

/-- A directive: it fits the events whose target starts with the given one and that have the given
fields, and lets those through whose rank is at most `limit`. -/
structure Directive where
  target : Option String
  fields : List String
  limit : Nat
deriving DecidableEq

namespace Directive

def limitOf? (text : String) : Option Nat :=
  let digits := match text.toList with
    | '+' :: rest => rest
    | cs => cs
  if !digits.isEmpty && digits.all Char.isDigit then
    let n := digits.foldl (fun n c => 10 * n + (c.toNat - 48)) 0
    if n ≤ 5 then some n else none
  else if text.isEmpty then some Level.error.rank
  else
    match text.toLower with
    | "off" => some 0
    | name => (Level.values.find? (·.name == name)).map Level.rank

inductive State
  | start
  | levelOrTarget (read : List Char)
  | span (read : List Char)
  | field (read : List Char)
  | fieldsEnd
  | afterSpan
  | level (read : List Char)

/-- A directive text as it is read: what was found, and whether it names a span or the value of a
field, which no event of this log has. -/
structure Draft where
  target : Option String := none
  spanNamed : Bool := false
  valueNamed : Bool := false
  fields : List String := []

inductive Fault
  | form
  | level
deriving DecidableEq

def Fault.message : Fault → String
  | form => "invalid filter directive"
  | level =>
    "error parsing level filter: expected one of \"off\", \"error\", \"warn\", \"info\", "
      ++ "\"debug\", \"trace\", or a number 0-5"

def Draft.addField (draft : Draft) (read : List Char) : Except Fault Draft :=
  let read := read.reverse
  if read.isEmpty then .error .form
  else
    .ok { draft with
      fields := draft.fields ++ [String.ofList (read.takeWhile (· != '='))]
      valueNamed := draft.valueNamed || read.contains '=' }

/-- Reads a directive text character by character. Of each pair the first character tells where a
part ends, and the second one belongs to the part; `tail` belongs to a part that is open at the
end. -/
def readFrom (tail : List Char) (draft : Draft) :
    State → List (Char × Char) → Except Fault (Draft × Nat)
  | .start, [] => .error .form
  | .levelOrTarget read, [] =>
    let text := String.ofList (read.reverse ++ tail)
    match limitOf? text with
    | some limit => .ok (draft, limit)
    | none => .ok ({ draft with target := some text }, Level.trace.rank)
  | .level read, [] =>
    let text := String.ofList (read.reverse ++ tail)
    if text.isEmpty then .ok (draft, Level.trace.rank)
    else
      match limitOf? text with
      | some limit => .ok (draft, limit)
      | none => .error .level
  | .afterSpan, [] => .ok (draft, Level.trace.rank)
  | .span _, [] => .error .form
  | .field _, [] => .error .form
  | .fieldsEnd, [] => .error .form
  | .start, (c, kept) :: rest =>
    if c == '[' then readFrom tail draft (.span []) rest
    else if c == '-' || c == ':' || c == '_' || c.isAlphanum || 0x80 ≤ c.toNat then
      readFrom tail draft (.levelOrTarget [kept]) rest
    else .error .form
  | .levelOrTarget read, (c, kept) :: rest =>
    let named := { draft with target := some (String.ofList read.reverse) }
    if c == '=' then readFrom tail named (.level []) rest
    else if c == '[' then readFrom tail named (.span []) rest
    else readFrom tail draft (.levelOrTarget (kept :: read)) rest
  | .span read, (c, kept) :: rest =>
    if c == ']' then readFrom tail { draft with spanNamed := true } .afterSpan rest
    else if c == '\x7b' then
      readFrom tail { draft with spanNamed := !read.isEmpty } (.field []) rest
    else readFrom tail draft (.span (kept :: read)) rest
  | .field read, (c, kept) :: rest =>
    if c == '\x7d' then
      match draft.addField read with
      | .ok draft => readFrom tail draft .fieldsEnd rest
      | .error fault => .error fault
    else readFrom tail draft (.field (kept :: read)) rest
  | .fieldsEnd, (c, _) :: rest =>
    if c == ']' then readFrom tail draft .afterSpan rest else .error .form
  | .afterSpan, (c, _) :: rest =>
    if c == '=' then readFrom tail draft (.level []) rest else .error .form
  | .level read, (_, kept) :: rest => readFrom tail draft (.level (kept :: read)) rest

inductive Parsed
  | forEvents (directive : Directive)
  | forSpans
deriving DecidableEq

/-- The directive that a text writes. Where its parts end is told by the text without the white
space at its ends, but they are cut out of the whole text, so white space in front of a directive
moves every cut. -/
def parse (text : List Char) : Except Fault Parsed :=
  let shown := Text.trim text
  let read := readFrom (text.drop shown.length) {} .start (shown.zip text)
  read.map fun (draft, limit) =>
    if draft.spanNamed || draft.valueNamed then .forSpans
    else .forEvents ⟨draft.target, draft.fields, limit⟩

def fits (d : Directive) (e : Event) : Bool :=
  (match d.target with
    | none => true
    | some target => target.toList.isPrefixOf e.target.toList)
    && d.fields.all fun field => field == "message" || (e.fields.map (·.1)).contains field

def weight (d : Directive) : Nat × Nat :=
  ((d.target.map fun t => t.utf8ByteSize + 1).getD 0, d.fields.length)

def atLeast (d other : Directive) : Bool :=
  other.weight.1 < d.weight.1
    || (other.weight.1 == d.weight.1 && other.weight.2 ≤ d.weight.2)

def deciding? (directives : List Directive) (e : Event) : Option Directive :=
  directives.foldl
    (fun best d =>
      if !d.fits e then best
      else
        match best with
        | none => some d
        | some other => if d.atLeast other then some d else best)
    none

end Directive

namespace LogFilter

def pieces (text : String) : List (List Char) :=
  (text.toList.splitOn ',').filter (!·.isEmpty)

/-- The directives of a text; pieces that write none are left out. Without any directive the given
level counts for all events. -/
def directives (text : String) (level : Level) : List Directive :=
  match (pieces text).filterMap fun piece => (Directive.parse piece).toOption with
  | [] => [⟨none, [], level.rank⟩]
  | parsed => parsed.filterMap fun
    | .forEvents d => some d
    | .forSpans => none

def complaints (text : String) : String :=
  String.join ((pieces text).map fun piece =>
    match Directive.parse piece with
    | .ok _ => ""
    | .error fault => s!"ignoring `{String.ofList piece}`: {fault.message}\n")

def allows (directives : List Directive) (e : Event) : Bool :=
  match Directive.deciding? directives e with
  | none => false
  | some d => e.level.rank ≤ d.limit

def lines (text : String) (level : Level) (events : List Event) : String :=
  String.join ((events.filter (allows (directives text level))).map fun e => e.line ++ "\n")

end LogFilter

end SizeRequest
