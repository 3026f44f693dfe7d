/-!
# YAML tokens

A YAML text is a sequence of tokens. The tokens of block collections are implied by
indentation, and the token in front of a key is often known only once its colon is seen.
-/

namespace NodeForms

namespace Yaml

inductive Directive where
  | version (major : Nat)
  | tag (handle expansion : String)
  | other
deriving DecidableEq, Repr

/-- A token. -/
inductive Token where
  | directive (content : Directive)
  | documentStart
  | documentEnd
  | blockSequence
  | blockMapping
  | blockEnd
  | flowSequence
  | flowSequenceEnd
  | flowMapping
  | flowMappingEnd
  | blockEntry
  | flowEntry
  | key
  | value
  | alias (name : String)
  | anchor (name : String)
  /-- A tag, by the handle in front of it if there is one. -/
  | tag (handle : Option String) (suffix : String)
  | scalar (content : String) (plain : Bool)
deriving DecidableEq, Repr

end Yaml

end NodeForms
