/-!
# Tokens of a YAML text

* `ScalarStyle` : how a scalar is written;
* `Token` : the marks and names of a text; block structure has tokens of its own.
-/

namespace Conformance.Yaml

/-- How a scalar is written. -/
inductive ScalarStyle where
  /-- Without quotes. -/
  | plain
  /-- Between single quotes. -/
  | single
  /-- Between double quotes. -/
  | double
  /-- As a block that keeps its lines. -/
  | literal
  /-- As a block that joins its lines. -/
  | folded
  deriving DecidableEq, Repr

/-- A token. -/
inductive Token where
  | streamEnd
  | version (major minor : Nat)
  /-- A directive that gives a tag handle a meaning. -/
  | tagDirective (handle start : String)
  /-- The mark `---`. -/
  | documentStart
  /-- The mark `...`. -/
  | documentEnd
  /-- A deeper column starts a block sequence. -/
  | blockSequenceStart
  /-- A deeper column starts a block mapping. -/
  | blockMappingStart
  /-- A shallower column ends a block. -/
  | blockEnd
  /-- An opening bracket. -/
  | flowSequenceStart
  /-- A closing bracket. -/
  | flowSequenceEnd
  /-- An opening brace. -/
  | flowMappingStart
  /-- A closing brace. -/
  | flowMappingEnd
  /-- The mark of an item in a block. -/
  | blockEntry
  /-- A comma in brackets or braces. -/
  | flowEntry
  | key
  | value
  /-- A reference to an anchor. -/
  | alias (name : String)
  /-- A name for the node that follows. -/
  | anchor (name : String)
  /-- A type for the node that follows. -/
  | tag (handle suffix : String)
  | scalar (value : String) (style : ScalarStyle)
  deriving DecidableEq, Repr

end Conformance.Yaml
