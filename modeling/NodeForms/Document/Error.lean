import NodeForms.Document.Fault

/-!
# Errors of documents and settings

An error says what is wrong and, if the text came from a file, in which one.
-/

namespace NodeForms

def messageIn (heading : String) (path : Option String) (bare : String) : String :=
  match path with
  | none => heading ++ ": " ++ bare
  | some place => heading ++ " in " ++ place ++ ": " ++ bare

/-- A document that cannot be given a meaning. -/
structure DocumentError where
  fault : DocumentFault
  path : Option String := none
deriving DecidableEq, Repr

namespace DocumentError

def heading : String := "Document error"

def message (error : DocumentError) : String :=
  messageIn heading error.path error.fault.message

end DocumentError

end NodeForms
