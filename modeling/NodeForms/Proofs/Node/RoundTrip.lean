import NodeForms.Proofs.Node.ReadBack
import NodeForms.Proofs.Node.Reading

/-!
# Writing what was read

A node that was read can be written, and what is written reads back as the same node, since each
step of reading gives what reads back.
-/

namespace NodeForms

namespace Node

theorem readsBack_keptByReading : KeptByReading (fun _ => True) ReadsBack Value.ReadsBack where
  item _ _ _ := trivial
  member _ _ _ := trivial
  content _ := trivial
  absent _ := .null
  flat _ isFlat found := .ofFlat isFlat found
  labelled _ readsBack := readsBack.labelled _
  child forNode readsBack := .node forNode readsBack
  children readBack := .nodes readBack
  closure owner ofParams ofBody := .closure owner ofParams ofBody
  node kindReads readBack fits := readsBack_of_slots kindReads readBack fits

theorem readsBack_of_decode (content : Data) (node : Node) (found : decode content = .ok node) :
    node.ReadsBack :=
  readsBack_keptByReading.of_decode content trivial node found

/-- A node that was read can be written, and what is written reads back as the same node: the
same kind, payloads, line and file at every depth. -/
theorem exists_encode_of_decode (content : Data) (node : Node) (read : decode content = .ok node) :
    ∃ written, node.encode = .ok written ∧ decode written = .ok node :=
  readsBack_of_decode content node read

/-- A scope in mixed letters with a short table, and in it a symbol without a line. -/
def scopeDocument : Data :=
  .map [(.text "kind", .text "Scope"), (.text "table", .list [.text "total"]),
    (.text "line", .int 7),
    (.text "body", .map [(.text "kind", .int 58), (.text "lit", .map [(.text "sym", .text "up")])])]

theorem exists_encode_scopeDocument :
    let literal : Node := ⟨.known .lit, .symbol "up", .null, .null, 0, none⟩
    let scope : Node := ⟨.known .scope, .table ⟨["", "_", "~", "total"]⟩, .null, .node literal, 7,
      none⟩
    decode scopeDocument = .ok scope ∧
      ∃ written, scope.encode = .ok written ∧ decode written = .ok scope := by
  intro literal scope
  have read : decode scopeDocument = .ok scope := rfl
  exact ⟨read, exists_encode_of_decode scopeDocument scope read⟩

end Node

end NodeForms
