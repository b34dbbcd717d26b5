import SuiteOutline.Document.Mark

/-!
# Tokens

The tokens of a document. Besides the written signs there are tokens for what indentation says:
where a block collection starts and ends, and where a key stands that no sign announces.
-/

namespace SuiteOutline.Document

/-- A sequence of octets; percent escapes in a tag may spell octets that are no text. -/
abbrev Octets := List UInt8

def octets (text : String) : Octets :=
  text.toUTF8.toList

def textOf? (spelled : Octets) : Option String :=
  String.fromUTF8? ⟨spelled.toArray⟩

inductive ScalarStyle where
  | plain
  | singleQuoted
  | doubleQuoted
  | literal
  | folded
  deriving DecidableEq

inductive Token where
  | streamStart
  | streamEnd
  | versionDirective (major minor : Nat)
  | tagDirective (handle : String) (opening : Octets)
  | documentStart
  | documentEnd
  | blockSequenceStart
  | blockMappingStart
  | blockEnd
  | flowSequenceStart
  | flowSequenceEnd
  | flowMappingStart
  | flowMappingEnd
  | blockEntry
  | flowEntry
  | key
  | value
  | alias (name : String)
  | anchor (name : String)
  | tag (handle : String) (suffix : Octets)
  | scalar (text : String) (style : ScalarStyle)
  deriving DecidableEq

structure Placed where
  token : Token
  start : Mark
  stop : Mark

end SuiteOutline.Document
