import NodeForms.CommandLine.Command
import NodeForms.Document.Data
import NodeForms.Document.Yaml.Fault
import NodeForms.Terminal.Markup
import NodeForms.Terminal.Table

/-!
# What a run relies on

Reading arguments and YAML, and showing texts and tables on a screen, are the business of other
libraries. A run of the program takes what they do as a parameter, together with the limit on the
digits of the integers that it converts. Messages are marked up: tags in square brackets say how
their parts are shown.
-/

namespace NodeForms

/-- Why a text cannot be put out. -/
inductive OutputFault where
  | style (fault : Markup.Fault)
  | encoding
deriving DecidableEq, Repr

/-- What a run relies on. -/
structure Surroundings where
  readArguments : List String → Except Refusal Command
  readYaml : String → Except Yaml.Fault Data
  /-- What a text leaves on the screen that is put out as it is, with a line end after it. -/
  echo : String → Except OutputFault String
  print : String → Except OutputFault String
  /-- What a table leaves on the screen; its title and its cells are marked up. -/
  printTable : Table → Except OutputFault String
  /-- The most digits of an integer that is read from a text or written to one, if there is a
  limit. -/
  digitLimit : Option Nat

def styled (style text : String) : String := "[" ++ style ++ "]" ++ text ++ "[/" ++ style ++ "]"

def writtenNotice (path : String) : String := styled "green" "Tree written to" ++ " " ++ path

namespace Surroundings

/-- What the other libraries say of themselves, as far as a run relies on it: a text without
escape characters is put out as it is, and a notice is shown if no bracket in it opens a tag but
those of the notice itself. -/
structure IsDocumented (surroundings : Surroundings) : Prop where
  echo_eq : ∀ text : String, '\x1b' ∉ text.toList → surroundings.echo text = .ok (text ++ "\n")
  print_isOk : ∀ path : String, '[' ∉ path.toList →
    ∃ shown, surroundings.print (writtenNotice path) = .ok shown

end Surroundings

end NodeForms
