import SizeRequest.Yaml.Cursor

namespace SizeRequest.Yaml

inductive Style
  | plain
  | singleQuoted
  | doubleQuoted
  | literal
  | folded
deriving DecidableEq

inductive TokenKind
  | version (isKnown : Bool)
  | tagHandle (handle : List Char) (start : List Char)
  | documentStart
  | documentEnd
  | blockSequenceStart
  | blockMappingStart
  | blockEnd
  | flowSequenceStart
  | flowSequenceEnd
  | flowMappingStart
  | flowMappingEnd
  | blockEntry
  | flowEntry
  | key
  | value
  | alias (name : List Char)
  | anchor (name : List Char)
  | tag (handle : List Char) (suffix : List Char)
  | scalar (text : List Char) (style : Style)
  | streamEnd
deriving DecidableEq

structure Token where
  kind : TokenKind
  start : Point
deriving DecidableEq

end SizeRequest.Yaml
