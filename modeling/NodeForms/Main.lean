import NodeForms.CommandLine.Run
import NodeForms.CommandLine.Standard

/-!
# The program

The command line: it looks at the files and the variable that a run may ask for, runs, and
writes what the run leaves.
-/

namespace NodeForms

def pathTo (place : List String) : String :=
  match place with
  | "/" :: parts => "/" ++ "/".intercalate parts
  | "//" :: parts => "//" ++ "/".intercalate parts
  | parts => "/".intercalate parts

def placesThrough (path : String) : List (List String) :=
  ((placeOf path).foldl (fun (places : List (List String)) part =>
    Files.step (places.headD []) part :: places) []).reverse

def entryAtPlace (place : List String) : IO (Option FileEntry) := do
  try
    let content ← IO.FS.readBinFile (pathTo place)
    return some (.file content)
  catch error =>
    match error with
    | .inappropriateType _ 21 _ => return some .directory
    | _ => return none

/-- What stands at the places that paths lead through. -/
def filesAt (paths : List String) : IO Files := do
  let entries ← (paths.flatMap placesThrough).mapM fun place => do
    let entry ← entryAtPlace place
    return entry.map fun entry => (place, entry)
  return ⟨entries.filterMap id⟩

def pathsOf (arguments : List String) : List String :=
  match Surroundings.standard.readArguments arguments with
  | .ok (.dump request) => request.paths
  | _ => []

def crashText : Crash → String
  | .settings _ => "The settings cannot be used.\n"
  | .load _ => "The document cannot be used.\n"
  | .work _ => "A node holds a payload that its kind has no use for.\n"
  | .form (.unwritable shown) => Sexp.unwritableMessage shown ++ "\n"
  | .form .tooManyDigits => "An integer of the tree has too many digits.\n"
  | .file fault => "The tree cannot be written: " ++ fault.reason ++ "\n"
  | .output .encoding => "A character of the tree has no encoding.\n"
  | .output (.style (.unopened tag)) => "A message closes a style that is not open: " ++ tag ++ "\n"
  | .output (.style (.unreadable parameter)) =>
      "A message says what a click does, but cannot be understood: " ++ parameter ++ "\n"
  | .output (.style (.missingLevel description)) =>
      "A colour in a message lacks a level: " ++ description ++ "\n"

end NodeForms

open NodeForms in
/-- Run the program on the arguments of the command line. -/
def main (arguments : List String) : IO UInt32 := do
  let files ← filesAt (pathsOf arguments)
  let flag ← IO.getEnv Settings.flagName
  let environment : Environment := flag.toList.map fun value => (Settings.flagName, value)
  let left := runProgram .standard files environment arguments
  if let some (path, text) := left.written then IO.FS.writeFile path text
  for record in left.records do
    IO.eprintln (record.level.word ++ " " ++ record.message)
  IO.print left.stdout
  IO.eprint left.stderr
  if let some crash := left.crash then IO.eprint (crashText crash)
  return UInt32.ofNat left.code
