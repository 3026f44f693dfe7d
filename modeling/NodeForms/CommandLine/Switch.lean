import NodeForms.Text.Quoted
import NodeForms.Text.Similar

/-!
# Switches

The arguments of a command are switches and operands. A switch has a long name and may
have a short one of one letter; it takes no value, or it takes the text after an equals
sign or else the next argument, whatever that looks like. Short switches may share one
argument, in which the value of the last one may follow its letter. After two dashes
there are only operands.

An argument that starts with a dash is looked up as a long name first; if it starts with
one dash only, it is read as short switches when there is no such name.
-/

namespace NodeForms

inductive Effect (α : Type) where
  | plain (given : α)
  | valued (give : String → α)

structure Switch (α : Type) where
  long : String
  short : Option Char := none
  effect : Effect α

/-- Why arguments cannot be read. -/
inductive SwitchFault where
  | unknown (name : String) (similar : List String)
  | valueMissing (name : String)
  | valueUnexpected (name : String)
deriving DecidableEq, Repr

namespace SwitchFault

def hint : List String → String
  | [] => ""
  | [name] => " Did you mean " ++ name ++ "?"
  | names => " (Possible options: " ++ ", ".intercalate (sortedTexts names) ++ ")"

def message : SwitchFault → String
  | .unknown name similar => "No such option: " ++ name ++ hint similar
  | .valueMissing name => "Option " ++ quoted name ++ " requires an argument."
  | .valueUnexpected name => "Option " ++ quoted name ++ " does not take a value."

end SwitchFault

structure Reading (α : Type) where
  given : List α := []
  /-- The name of a last switch whose value is the next argument, and what it gives. -/
  awaited : Option (String × (String → α)) := none

structure Arguments (α : Type) where
  given : List α := []
  operands : List String := []

namespace Switch

variable {α : Type}

def withLong? (switches : List (Switch α)) (name : String) : Option (Switch α) :=
  switches.find? fun switch => switch.long == name

def withShort? (switches : List (Switch α)) (letter : Char) : Option (Switch α) :=
  switches.find? fun switch => switch.short == some letter

def readShort (switches : List (Switch α)) : List Char → Except SwitchFault (Reading α)
  | [] => .ok {}
  | letter :: rest =>
      let name := String.ofList ['-', letter]
      match withShort? switches letter with
      | none => .error (.unknown name [])
      | some ⟨_, _, .plain given⟩ =>
          (readShort switches rest).map fun reading =>
            { reading with given := given :: reading.given }
      | some ⟨_, _, .valued give⟩ =>
          if rest.isEmpty then .ok { awaited := some (name, give) }
          else .ok { given := [give (String.ofList rest)] }

/-- Read an argument as a long name, which a value may follow after an equals sign. -/
def readLong (switches : List (Switch α)) (chars : List Char) : Except SwitchFault (Reading α) :=
  let name := String.ofList (chars.takeWhile (· != '='))
  let value? : Option String :=
    match chars.dropWhile (· != '=') with
    | _ :: value => some (String.ofList value)
    | [] => none
  match withLong? switches name, value? with
  | none, _ => .error (.unknown name (similarWords (switches.map Switch.long) name))
  | some ⟨_, _, .plain given⟩, none => .ok { given := [given] }
  | some ⟨_, _, .plain _⟩, some _ => .error (.valueUnexpected name)
  | some ⟨_, _, .valued give⟩, some value => .ok { given := [give value] }
  | some ⟨_, _, .valued give⟩, none => .ok { awaited := some (name, give) }

/-- Read an argument that starts with a dash. -/
def read (switches : List (Switch α)) (chars : List Char) : Except SwitchFault (Reading α) :=
  match readLong switches chars, chars with
  | .error (.unknown name similar), '-' :: '-' :: _ => .error (.unknown name similar)
  | .error (.unknown ..), _ :: letters => readShort switches letters
  | result, _ => result

def isSwitch : List Char → Bool
  | '-' :: _ :: _ => true
  | _ => false

/-- Read arguments. Where switches and operands are not mixed, the first operand ends the
switches. -/
def readAll (switches : List (Switch α)) (mixed : Bool) :
    List String → Except SwitchFault (Arguments α)
  | [] => .ok {}
  | argument :: rest =>
      if argument = "--" then .ok { operands := rest }
      else if isSwitch argument.toList then
        match read switches argument.toList with
        | .error fault => .error fault
        | .ok ⟨given, none⟩ =>
            (readAll switches mixed rest).map fun others =>
              { others with given := given ++ others.given }
        | .ok ⟨given, some (name, give)⟩ =>
            match rest with
            | [] => .error (.valueMissing name)
            | value :: rest =>
                (readAll switches mixed rest).map fun others =>
                  { others with given := given ++ give value :: others.given }
      else if mixed then
        (readAll switches mixed rest).map fun others =>
          { others with operands := argument :: others.operands }
      else .ok { operands := argument :: rest }

end Switch

end NodeForms
