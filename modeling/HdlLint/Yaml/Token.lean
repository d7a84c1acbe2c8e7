/-!
# Tokens of a document

The tokens into which the text of a document is cut. Indentation shows as tokens of its
own: a block begins with its kind and ends with `blockEnd`.
-/

namespace HdlLint.Yaml

/-- The tag written before a node: a shorthand for its beginning, if it has one, and the
rest. -/
structure TagText where
  handle : Option String
  suffix : String
  deriving Repr, DecidableEq

/-- A token. -/
inductive Token where
  | versionDirective (major : Nat)
  | tagDirective (handle start : String)
  | otherDirective
  | documentStart
  | documentEnd
  | blockSequence
  | blockMapping
  | blockEnd
  | flowSequence
  | flowSequenceEnd
  | flowMapping
  | flowMappingEnd
  | blockEntry
  | flowEntry
  | key
  | value
  | alias (name : String)
  | anchor (name : String)
  | tag (t : TagText)
  | scalar (text : String) (plain : Bool)
  deriving Repr, DecidableEq

end HdlLint.Yaml
