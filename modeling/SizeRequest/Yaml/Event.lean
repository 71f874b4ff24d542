import SizeRequest.Yaml.Token.Stream

namespace SizeRequest.Yaml

structure Scalar where
  text : String
  style : Style
  tag : Option String := none
deriving DecidableEq

inductive Happening
  | documentStart
  | documentEnd
  | streamEnd
  | alias (name : String)
  | scalar (anchor : Option String) (s : Scalar)
  | sequenceStart (anchor : Option String)
  | sequenceEnd
  | mappingStart (anchor : Option String)
  | mappingEnd
deriving DecidableEq

structure Event where
  happening : Happening
  point : Point
deriving DecidableEq

/-- What is expected next. The flag of some of them says whether it is the first of its kind. -/
inductive Expectation
  | document (isFirst : Bool)
  | content
  | node
  | documentEnd
  | blockEntry
  | indentlessEntry
  | blockKey
  | blockValue
  | flowEntry (isFirst : Bool)
  | flowPairKey
  | flowPairValue
  | flowPairEnd
  | flowKey (isFirst : Bool)
  | flowValue
  | flowNoValue
  | nothing
deriving DecidableEq

/-- Events in the making: the tokens to come, what is expected next and after that, and what the
handles of tags stand for. -/
structure Outline where
  tokens : List Token
  expected : Expectation
  later : List Expectation := []
  handles : List (List Char × List Char) := []

inductive NoEvent
  | malformed (cause : Malformation) (point : Point)
  | noMoreTokens

abbrev Step := Except NoEvent (Event × Outline)

namespace Outline

def standardHandles : List (List Char × List Char) :=
  [(['!'], ['!']), (['!', '!'], "tag:yaml.org,2002:".toList)]

def withToken {α : Type} (o : Outline) (f : Token → List Token → Except NoEvent α) :
    Except NoEvent α :=
  match o.tokens with
  | [] => .error .noMoreTokens
  | t :: rest => f t rest

def fail {α : Type} (t : Token) (cause : Malformation) : Except NoEvent α :=
  .error (.malformed cause t.start)

def give (o : Outline) (happening : Happening) (point : Point) (expected : Expectation) : Step :=
  .ok (⟨happening, point⟩, { o with expected := expected })

def giveLast (o : Outline) (happening : Happening) (point : Point) : Step :=
  match o.later with
  | expected :: later => .ok (⟨happening, point⟩, { o with expected := expected, later := later })
  | [] => .ok (⟨happening, point⟩, { o with expected := .nothing })

def omitted : Happening := .scalar none ⟨"", .plain, none⟩

def resolveTag (o : Outline) (t : Token) (handle suffix : List Char) :
    Except NoEvent (List Char) :=
  if handle.isEmpty then .ok suffix
  else
    match o.handles.lookup handle with
    | some start => .ok (start ++ suffix)
    | none => fail t .undefinedTag

structure Properties where
  anchor : Option (List Char) := none
  tag : Option (Token × List Char × List Char) := none

def anchorFrom : List Token → Option (List Char) × List Token
  | ⟨.anchor name, _⟩ :: rest => (some name, rest)
  | tokens => (none, tokens)

def tagFrom : List Token → Option (Token × List Char × List Char) × List Token
  | ⟨.tag handle suffix, p⟩ :: rest => (some (⟨.tag handle suffix, p⟩, handle, suffix), rest)
  | tokens => (none, tokens)

def properties (tokens : List Token) : Properties × List Token :=
  let (anchor, rest) := anchorFrom tokens
  let (tag, rest) := tagFrom rest
  if anchor.isSome then (⟨anchor, tag⟩, rest)
  else
    let (anchor, rest) := anchorFrom rest
    (⟨anchor, tag⟩, rest)

/-- The event of a scalar. The tag of a single exclamation mark says nothing. -/
def scalarEvent (anchor : Option String) (tag : Option (List Char)) (text : List Char)
    (style : Style) : Happening :=
  let tag := if tag == some ['!'] then none else tag
  .scalar anchor ⟨String.ofList text, style, tag.map String.ofList⟩

def valueAt (o : Outline) (inBlock mayLackIndent : Bool) (start : Point)
    (anchor : Option String) (tag : Option (List Char)) (hasProperties : Bool) : Step :=
  o.withToken fun t rest =>
    let next := { o with tokens := rest }
    match t.kind with
    | .scalar text style => next.giveLast (scalarEvent anchor tag text style) start
    | .flowSequenceStart => next.give (.sequenceStart anchor) start (.flowEntry true)
    | .flowMappingStart => next.give (.mappingStart anchor) start (.flowKey true)
    | kind =>
      if mayLackIndent && kind == .blockEntry then
        o.give (.sequenceStart anchor) start .indentlessEntry
      else if inBlock && kind == .blockSequenceStart then
        next.give (.sequenceStart anchor) start .blockEntry
      else if inBlock && kind == .blockMappingStart then
        next.give (.mappingStart anchor) start .blockKey
      else if hasProperties then
        o.giveLast (.scalar anchor ⟨"", .plain, tag.map String.ofList⟩) start
      else fail t .contentExpected

def value (o : Outline) (inBlock mayLackIndent : Bool) : Step :=
  o.withToken fun t rest =>
    match t.kind with
    | .alias name => { o with tokens := rest }.giveLast (.alias (String.ofList name)) t.start
    | _ =>
      let (p, rest) := properties o.tokens
      let o := { o with tokens := rest }
      let anchor := p.anchor.map String.ofList
      match p.tag with
      | none => o.valueAt inBlock mayLackIndent t.start anchor none p.anchor.isSome
      | some (sign, handle, suffix) =>
        match rest with
        | [] => .error .noMoreTokens
        | _ =>
          match o.resolveTag sign handle suffix with
          | .error fault => .error fault
          | .ok tag => o.valueAt inBlock mayLackIndent t.start anchor (some tag) true

def valueThen (o : Outline) (inBlock mayLackIndent : Bool) (expected : Expectation) : Step :=
  { o with later := expected :: o.later }.value inBlock mayLackIndent

def directives : (hasVersion : Bool) → List (List Char × List Char) → List Token →
    Except NoEvent (List (List Char × List Char) × List Token)
  | _, _, [] => .error .noMoreTokens
  | hasVersion, handles, t :: rest =>
    match t.kind with
    | .version isKnown =>
      if hasVersion || !isKnown then fail t .invalidDirective
      else directives true handles rest
    | .tagHandle handle start =>
      if (handles.lookup handle).isSome then fail t .invalidDirective
      else directives hasVersion (handles ++ [(handle, start)]) rest
    | _ => .ok (handles ++ standardHandles, t :: rest)

def endsDocument (kind : TokenKind) : Bool :=
  match kind with
  | .version _ => true
  | .tagHandle _ _ => true
  | .documentStart => true
  | .documentEnd => true
  | .streamEnd => true
  | _ => false

def document (o : Outline) (isFirst : Bool) : Step :=
  let tokens := if isFirst then o.tokens else o.tokens.dropWhile (·.kind == .documentEnd)
  let inside := { o with later := Expectation.documentEnd :: o.later }
  match tokens with
  | [] => .error .noMoreTokens
  | t :: rest =>
    let isBare := isFirst && (!endsDocument t.kind || t.kind == .documentEnd)
    if isBare then { inside with handles := standardHandles }.give .documentStart t.start .node
    else if t.kind == .streamEnd then { o with tokens := rest }.give .streamEnd t.start .nothing
    else
      match directives false [] tokens with
      | .error fault => .error fault
      | .ok (_, []) => .error .noMoreTokens
      | .ok (handles, marker :: rest) =>
        if marker.kind == .documentStart then
          { inside with tokens := rest, handles := handles }.give .documentStart t.start .content
        else fail marker .documentStartExpected

/-- An entry behind its sign: a value, or none at all if a token follows that may not start one.
What is left out is placed at `point`, or else at that token. -/
def entry (o : Outline) (point : Option Point) (stops : List TokenKind)
    (inBlock mayLackIndent : Bool) (expected : Expectation) : Step :=
  o.withToken fun t _ =>
    if stops.contains t.kind then o.give omitted (point.getD t.start) expected
    else o.valueThen inBlock mayLackIndent expected

def flowItem (o : Outline) : Step :=
  o.withToken fun t rest =>
    let after := { o with tokens := rest }
    if t.kind == .key then after.give (.mappingStart none) t.start .flowPairKey
    else if t.kind == .flowSequenceEnd then after.giveLast .sequenceEnd t.start
    else o.valueThen false false (.flowEntry false)

def flowMember (o : Outline) : Step :=
  o.withToken fun t rest =>
    let after := { o with tokens := rest }
    if t.kind == .key then
      after.entry none [.value, .flowEntry, .flowMappingEnd] false false .flowValue
    else if t.kind == .flowMappingEnd then after.giveLast .mappingEnd t.start
    else o.valueThen false false .flowNoValue

def next (o : Outline) : Step :=
  o.withToken fun t rest =>
    let after := { o with tokens := rest }
    match o.expected with
    | .document isFirst => o.document isFirst
    | .content => if endsDocument t.kind then o.giveLast omitted t.start else o.value true false
    | .node => o.value true false
    | .documentEnd =>
      let o := if t.kind == .documentEnd then after else o
      let o := { o with handles := [] }
      o.give .documentEnd t.start (.document false)
    | .blockEntry =>
      if t.kind == .blockEntry then
        after.entry t.start.next [.blockEntry, .blockEnd] true false .blockEntry
      else if t.kind == .blockEnd then after.giveLast .sequenceEnd t.start
      else fail t .entryExpected
    | .indentlessEntry =>
      if t.kind == .blockEntry then
        after.entry t.start.next [.blockEntry, .key, .value, .blockEnd] true false
          .indentlessEntry
      else o.giveLast .sequenceEnd t.start
    | .blockKey =>
      if t.kind == .key then
        after.entry t.start.next [.key, .value, .blockEnd] true true .blockValue
      else if t.kind == .blockEnd then after.giveLast .mappingEnd t.start
      else fail t .keyExpected
    | .blockValue =>
      if t.kind == .value then
        after.entry t.start.next [.key, .value, .blockEnd] true true .blockKey
      else o.give omitted t.start .blockKey
    | .flowEntry isFirst =>
      if t.kind == .flowSequenceEnd then after.giveLast .sequenceEnd t.start
      else if isFirst then o.flowItem
      else if t.kind == .flowEntry then after.flowItem
      else fail t .listCommaExpected
    | .flowPairKey =>
      if [.value, .flowEntry, .flowSequenceEnd].contains t.kind then
        after.give omitted t.start.next .flowPairValue
      else o.valueThen false false .flowPairValue
    | .flowPairValue =>
      if t.kind == .value then
        after.entry none [.flowEntry, .flowSequenceEnd] false false .flowPairEnd
      else o.give omitted t.start .flowPairEnd
    | .flowPairEnd => o.give .mappingEnd t.start (.flowEntry false)
    | .flowKey isFirst =>
      if t.kind == .flowMappingEnd then after.giveLast .mappingEnd t.start
      else if isFirst then o.flowMember
      else if t.kind == .flowEntry then after.flowMember
      else fail t .mapCommaExpected
    | .flowValue =>
      if t.kind == .value then
        after.entry none [.flowEntry, .flowMappingEnd] false false (.flowKey false)
      else o.give omitted t.start (.flowKey false)
    | .flowNoValue => o.give omitted t.start (.flowKey false)
    | .nothing => .error .noMoreTokens

end Outline

def eventsWithin : (budget : Nat) → Outline → List Event × Option (Malformation × Point)
  | 0, _ => ([], none)
  | budget + 1, o =>
    match o.next with
    | .error .noMoreTokens => ([], none)
    | .error (.malformed cause point) => ([], some (cause, point))
    | .ok (e, o) =>
      let (more, fault) := eventsWithin budget o
      (e :: more, fault)

/-- The events of a text, up to its end or to a malformation of its tokens or their order. -/
def events (text : List Char) : List Event × Option Fault :=
  let (tokens, scanFault) := tokens text
  match eventsWithin (8 * tokens.length + 8) { tokens := tokens, expected := .document true } with
  | (events, some (cause, point)) => (events, some (.malformed cause point))
  | (events, none) => (events, scanFault)

end SizeRequest.Yaml
