import NodeForms.Batch.Run
import NodeForms.Registry.HostType
import NodeForms.Serialize.Machine

/-!
# Forms of methods and types

A method becomes `(defn NAME FORMS...)`, a class `(class NAME SUPERCLASS (defn ...) ...)`
and a module `(module NAME (defn ...) ...)`, the methods in the order of their names. A
method that a type does not have is `(nil)`.
-/

namespace NodeForms

def methodTree : Value → Value
  | .node body => if body.kind = .known .method then body.u2 else .node body
  | payload => payload

namespace HostType

def methodOptions (options : SerializeOptions) (type : HostType) (name : String) :
    SerializeOptions :=
  { options with typeName := some type.displayName, methodName := some name }

def missingRecord (type : HostType) (name : String) : LogRecord :=
  ⟨.debug, .batch, "No method " ++ type.displayName ++ "#" ++ name⟩

def turnRecord (type : HostType) (name : String) : LogRecord :=
  ⟨.debug, .batch, "tree_for_method(" ++ type.displayName ++ ", " ++ name ++ ")"⟩

def bodyForms (options : SerializeOptions) (type : HostType) (name : String) (body : Value) :
    Run (List Sexp) :=
  let options := methodOptions options type name
  let outcome := serializePayload options (methodTree body)
  ⟨outcome.records, outcome.diagnostics options.context, outcome.result⟩

def methodForm (options : SerializeOptions) (type : HostType) (name : String) : Run Sexp :=
  match type.method? name with
  | none => (Run.done (.seq [.nil])).noting (type.missingRecord name)
  | some body =>
      (type.bodyForms options name body).map fun forms =>
        .seq (.atom "defn" :: .atom name :: forms)

/-- What the form of a type starts with. -/
def header (type : HostType) : List Sexp :=
  if type.isModule then [.atom "module", .atom type.displayName]
  else [.atom "class", .atom type.displayName, .atom type.superclassName]

def sortedMethodNames (type : HostType) : List String := sortedTexts type.methodNames

def form (options : SerializeOptions) (type : HostType) : Run Sexp :=
  (Run.each (fun name => (type.methodForm options name).noting (type.turnRecord name))
    type.sortedMethodNames).map fun methods => .seq (type.header ++ methods)

/-- Whether a surrogate is named in the body of a method. -/
def namesSurrogate (options : SerializeOptions) (type : HostType) (name : String) : Bool :=
  match type.method? name with
  | none => false
  | some body =>
      (serializePayload (methodOptions options type name) (methodTree body)).visited.any
        Node.namesSurrogate

end HostType

/-- The forms of types, up to the first failure. -/
def typeForms (options : SerializeOptions) (types : List HostType) : Run (List Sexp) :=
  Run.each (HostType.form options) types

end NodeForms
