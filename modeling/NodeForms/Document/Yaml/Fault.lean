/-!
# Faults of YAML texts

Most faults make a text no YAML at all. A few concern values alone: a tag that calls for a
number, a word or a moment on a text that is none, an escape beyond the last character,
and a value that needs itself.
-/

namespace NodeForms

namespace Yaml

/-- What is wrong with a YAML text. -/
inductive Fault where
  | malformed
  | unreadableNumber
  | emptyNumber
  | numberTooLarge
  | unknownWord
  /-- A text that has to be a day or a moment is none. -/
  | unreadableMoment
  | impossibleMoment
  | momentInMapping
  | impossibleCharacter
  | selfContaining
deriving DecidableEq, Repr, Inhabited

end Yaml

end NodeForms
