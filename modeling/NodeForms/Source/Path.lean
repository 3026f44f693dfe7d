/-!
# Paths

A path in a message is written in its plain form: one slash between parts, no part that
stands for the directory itself. A part that leads to the parent directory stays, since
what it names depends on links.
-/

namespace NodeForms

/-- What a path starts with: two slashes are kept apart from one, more count as one. -/
def pathRoot : List Char → List Char
  | '/' :: '/' :: '/' :: _ => ['/']
  | '/' :: '/' :: _ => ['/', '/']
  | '/' :: _ => ['/']
  | _ => []

def pathParts (path : String) : List String :=
  ((path.toList.splitOn '/').map String.ofList).filter fun part => part != "" && part != "."

def plainPath (path : String) : String :=
  let plain := String.ofList (pathRoot path.toList) ++ "/".intercalate (pathParts path)
  if plain = "" then "." else plain

end NodeForms
