import NodeForms.Node.Basic
import NodeForms.Registry.Place
import NodeForms.Text.Quoted

/-!
# Types of the host

A type of the host is a class or a module with the methods defined directly on it. A
method stands for its body; defining one that is there already replaces the body and keeps
the place. A type without a name is told apart from every other by a serial number.
-/

namespace NodeForms

/-- A class or module of the host. -/
@[ext]
structure HostType where
  name : String
  serial : Nat
  superclass : Option String := none
  isModule : Bool := false
  /-- The bodies of its methods by name, in the order they were first defined. -/
  methods : List (String × Value) := []
  distinct : (methods.map Prod.fst).Nodup := by first | exact List.nodup_nil | simp

instance : Inhabited HostType := ⟨{ name := "", serial := 0 }⟩

def anonymousName (serial : Nat) : String := "UnnamedClass_" ++ naturalText serial

namespace HostType

def displayName (type : HostType) : String :=
  if type.name = "" then anonymousName type.serial else type.name

def superclassName (type : HostType) : String :=
  match type.superclass with
  | none => "nil"
  | some name => if name = "" then "nil" else name

/-- Add a method, or replace the one that has its name in its place. -/
def define (type : HostType) (name : String) (body : Value) : HostType :=
  { type with
    methods := placeBy Prod.fst (name, body) type.methods
    distinct := nodup_placeBy type.distinct }

def method? (type : HostType) (name : String) : Option Value :=
  match type.methods.find? fun entry => entry.1 == name with
  | none => none
  | some (_, body) => if body.isNull then none else some body

/-- The names of the methods, in the order they were first defined. -/
def methodNames (type : HostType) : List String := type.methods.map Prod.fst

theorem nodup_methodNames (type : HostType) : type.methodNames.Nodup := type.distinct

def sort (type : HostType) : String := if type.isModule then "module" else "class"

def display (type : HostType) : String :=
  "TypeInfo(" ++ type.sort ++ " " ++ type.displayName ++ ", "
    ++ naturalText type.methods.length ++ " method(s))"

end HostType

end NodeForms
