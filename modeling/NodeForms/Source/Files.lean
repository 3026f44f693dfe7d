import NodeForms.Source.Path

/-!
# Files

What a program sees of the files around it: a snapshot that says what stands at each place.
A place is the list of the parts that lead to it. A directory need not be listed when
something in it is. Looking a path up follows it part by part, so that a path through a
file is told apart from a path to nothing.
-/

namespace NodeForms

/-- Why a file cannot be opened. -/
inductive FileFault where
  | missing
  | directory
  | notDirectory
deriving DecidableEq, Repr, Inhabited

def FileFault.reason : FileFault → String
  | .missing => "No such file or directory"
  | .directory => "Is a directory"
  | .notDirectory => "Not a directory"

inductive ReadFault where
  | file (fault : FileFault)
  | noText
deriving DecidableEq, Repr, Inhabited

inductive FileEntry where
  | file (content : ByteArray)
  | directory

/-- A snapshot of files: what stands at each listed place. -/
structure Files where
  entries : List (List String × FileEntry) := []

def unifiedLines : List Char → List Char
  | '\r' :: '\n' :: rest => '\n' :: unifiedLines rest
  | '\r' :: rest => '\n' :: unifiedLines rest
  | c :: rest => c :: unifiedLines rest
  | [] => []

def placeOf (path : String) : List String :=
  match pathRoot path.toList with
  | [] => pathParts path
  | root => String.ofList root :: pathParts path

namespace Files

def step (place : List String) (part : String) : List String :=
  if part = ".." ∧ place.getLast?.any (fun last => last != "..") then
    if place = ["/"] ∨ place = ["//"] then place else place.dropLast
  else place ++ [part]

/-- Whether a place is a directory without being listed: the place where the program
stands, those above it, and the roots. -/
def isKnownDirectory (place : List String) : Bool :=
  place.all (fun part => part == "..") || place == ["/"] || place == ["//"]

def entryAt? (files : Files) (place : List String) : Option FileEntry :=
  match files.entries.find? fun entry => entry.1 == place with
  | some (_, entry) => some entry
  | none =>
      if isKnownDirectory place || files.entries.any fun entry => place.isPrefixOf entry.1 then
        some .directory
      else none

/-- What stands at the end of the parts that lead on from a place, with its own place. -/
def follow (files : Files) (place : List String) :
    List String → Except FileFault (List String × FileEntry)
  | [] =>
      match files.entryAt? place with
      | some entry => .ok (place, entry)
      | none => .error .missing
  | part :: parts =>
      match files.entryAt? place with
      | some .directory => follow files (step place part) parts
      | some (.file _) => .error .notDirectory
      | none => .error .missing

def look (files : Files) (path : String) : Except FileFault FileEntry :=
  (follow files [] (placeOf path)).map Prod.snd

def contains (files : Files) (path : String) : Bool := (files.look path).isOk

def read (files : Files) (path : String) : Except FileFault ByteArray :=
  match files.look path with
  | .ok (.file content) => .ok content
  | .ok .directory => .error .directory
  | .error fault => .error fault

def readText (files : Files) (path : String) : Except ReadFault String :=
  match files.read path with
  | .error fault => .error (.file fault)
  | .ok content =>
      match String.fromUTF8? content with
      | some text => .ok (String.ofList (unifiedLines text.toList))
      | none => .error .noText

def target (files : Files) (path : String) : Except FileFault (List String) :=
  let parts := placeOf path
  match follow files [] parts.dropLast, parts.getLast? with
  | .error fault, _ => .error fault
  | .ok (_, .file _), _ => .error .notDirectory
  | .ok _, none => .error .directory
  | .ok (place, .directory), some part =>
      let place := step place part
      match files.entryAt? place with
      | some .directory => .error .directory
      | _ => .ok place

/-- The files after a text is written to a path. -/
def write (files : Files) (path content : String) : Except FileFault Files :=
  (files.target path).map fun place =>
    ⟨(place, .file content.toUTF8) :: files.entries⟩

def ofList (entries : List (String × FileEntry)) : Files :=
  ⟨entries.map fun (path, entry) => (placeOf path, entry)⟩

end Files

end NodeForms
