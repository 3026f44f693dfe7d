import NodeForms.Document.Yaml.Tag

/-!
# The graph of a YAML text

A text stands for a graph of tagged vertices: scalars, sequences and mappings. An alias
leads to the vertex with its anchor, so a vertex can be reached on several ways, and even
from itself.
-/

namespace NodeForms

namespace Yaml

abbrev VertexId := Nat

abbrev Member := VertexId × VertexId

/-- What a vertex holds. -/
inductive Content where
  | text (content : String)
  | items (items : List VertexId)
  | members (members : List Member)
deriving Repr, Inhabited

structure Vertex where
  tag : Tag
  content : Content
deriving Repr, Inhabited

/-- A graph, its vertices in the order in which they start in the text. -/
structure Graph where
  vertices : Array Vertex := #[]
deriving Repr, Inhabited

namespace Graph

def size (graph : Graph) : Nat := graph.vertices.size

def vertex (graph : Graph) (id : VertexId) : Vertex := graph.vertices[id]?.getD ⟨.null, .text ""⟩

def tag (graph : Graph) (id : VertexId) : Tag := (graph.vertex id).tag

def content (graph : Graph) (id : VertexId) : Content := (graph.vertex id).content

def members (graph : Graph) (id : VertexId) : List Member :=
  match graph.content id with
  | .members members => members
  | _ => []

/-- Add a vertex; its place is the former size. -/
def add (graph : Graph) (vertex : Vertex) : Graph := ⟨graph.vertices.push vertex⟩

def setContent (graph : Graph) (id : VertexId) (content : Content) : Graph :=
  ⟨graph.vertices.modify id fun vertex => { vertex with content }⟩

def setTag (graph : Graph) (id : VertexId) (tag : Tag) : Graph :=
  ⟨graph.vertices.modify id fun vertex => { vertex with tag }⟩

end Graph

end Yaml

end NodeForms
