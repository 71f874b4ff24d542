import SizeRequest.DeviceSpec.DataFault

namespace SizeRequest.Yaml

structure Point where
  line : Nat := 0
  column : Nat := 0
deriving DecidableEq, Inhabited

namespace Point

def next (p : Point) : Point := { p with column := p.column + 1 }

/-- The wording of a place behind a message; the very start of a text is not mentioned. -/
def suffix (p : Point) : String :=
  if p == {} then "" else s!" at line {p.line + 1} column {p.column + 1}"

end Point

/-- Where in a device spec a value belongs: at the root, in a member, or at a place of the list in
a member. The key of a member is not known when it is not written out. -/
inductive Path
  | root
  | member (key : Option String)
  | item (key : Option String) (index : Nat)
deriving DecidableEq

namespace Path

def intro : Path → String
  | root => ""
  | member key => key.getD "?" ++ ": "
  | item key index => key.getD "?" ++ s!"[{index}]: "

end Path

inductive Malformation
  | controlCharacter
  | noToken
  | keyWithoutColon
  | entryMisplaced
  | keyMisplaced
  | valueMisplaced
  | tab
  | invalidDirective
  | invalidAnchor
  | invalidTag
  | undefinedTag
  | invalidBlockHeader
  | invalidEscape
  | unclosedString
  | documentInString
  | colonInFlow
  | documentStartExpected
  | contentExpected
  | entryExpected
  | keyExpected
  | listCommaExpected
  | mapCommaExpected
deriving DecidableEq

namespace Malformation

def message : Malformation → String
  | controlCharacter => "control characters are not allowed"
  | noToken => "found character that cannot start any token"
  | keyWithoutColon => "could not find expected ':'"
  | entryMisplaced => "block sequence entries are not allowed in this context"
  | keyMisplaced => "mapping keys are not allowed in this context"
  | valueMisplaced => "mapping values are not allowed in this context"
  | tab => "found a tab character where an indentation space is expected"
  | invalidDirective => "found an invalid directive"
  | invalidAnchor => "did not find expected alphabetic or numeric character"
  | invalidTag => "did not find expected tag"
  | undefinedTag => "found undefined tag handle"
  | invalidBlockHeader => "did not find expected comment or line break"
  | invalidEscape => "found an invalid escape"
  | unclosedString => "found unexpected end of stream"
  | documentInString => "found unexpected document indicator"
  | colonInFlow => "found unexpected ':'"
  | documentStartExpected => "did not find expected <document start>"
  | contentExpected => "did not find expected node content"
  | entryExpected => "did not find expected '-' indicator"
  | keyExpected => "did not find expected key"
  | listCommaExpected => "did not find expected ',' or ']'"
  | mapCommaExpected => "did not find expected ',' or '\x7d'"

end Malformation

inductive Fault
  | malformed (cause : Malformation) (point : Point)
  | unknownAnchor (point : Point)
  | data (cause : DataFault) (path : Path) (point : Point)
  | severalDocuments
deriving DecidableEq

namespace Fault

def message : Fault → String
  | malformed cause point => cause.message ++ point.suffix
  | unknownAnchor point => "unknown anchor" ++ point.suffix
  | data cause path point => path.intro ++ cause.message ++ point.suffix
  | severalDocuments => "deserializing from YAML containing more than one document is not supported"

end Fault

end SizeRequest.Yaml
