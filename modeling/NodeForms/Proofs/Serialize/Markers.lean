import NodeForms.Proofs.Serialize.MarkerAgreement
import NodeForms.Proofs.Serialize.MarkerLists

/-!
# Line markers

Line markers add to a form and change nothing else. Two runs that differ only in whether
markers are written make the same visits; and where no slot holds a ready form with a marker
list in it, leaving the markers out of one gives the forms of the other.
-/

namespace NodeForms

/-- Line markers add to the forms and change nothing else. With and without them the same
nodes are visited, the same diagnostics left and the same failures met, and what is left of
the forms without their marker lists is the same. Where no slot holds a ready form with a
marker list in it, leaving out the marker lists gives the forms without markers, and the lists
left out are the markers of the line nodes visited, in order. -/
theorem serialize_markers (options : SerializeOptions) (root : Option Node) :
    let marked := serialize options.marking root
    let plain := serialize options.plain root
    marked.visited = plain.visited ∧
      marked.diagnostics options.context = plain.diagnostics options.context ∧
      (∀ reason, marked.result = .error reason ↔ plain.result = .error reason) ∧
      marked.result.map Sexp.itemsWithoutMarkers =
        plain.result.map Sexp.itemsWithoutMarkers ∧
      ((∀ node ∈ root, node.holdsNoMarkers = true) →
        plain.result = marked.result.map Sexp.itemsWithoutMarkers ∧
          ∀ forms, marked.result = .ok forms →
            Sexp.itemsMarkers forms = lineMarkers marked.visited) := by
  intro marked plain
  have markedWalk : marked = (walkTree options.marking root).outcome :=
    serialize_eq_outcome options.marking rfl root
  have plainWalk : plain = (walkTree options.plain root).outcome :=
    serialize_eq_outcome options.plain rfl root
  have agree := walkTree_agreesUpToMarkers options root
  rw [markedWalk, plainWalk]
  refine ⟨agree.visited, ?_, ?_, agree.result, ?_⟩
  · exact congrArg (fun visited => (Outcome.mk visited (.ok [])).diagnostics options.context)
      agree.visited
  · intro reason
    rcases agree.cases_result with
      ⟨same, markedFails, plainFails⟩ | ⟨_, _, markedOk, plainOk, _⟩
    · simp only [Walk.outcome, markedFails, plainFails]
    · simp [Walk.outcome, markedOk, plainOk]
  · intro holds
    refine ⟨?_, walkTree_marksLines options.marking root holds⟩
    have unmarked := walkTree_marksLines options.plain root holds
    rcases agree.cases_result with
      ⟨reason, markedFails, plainFails⟩ | ⟨forms, others, markedOk, plainOk, same⟩
    · simp only [Walk.outcome, markedFails, plainFails]
      rfl
    · have kept := Sexp.itemsWithoutMarkers_eq_self others (unmarked others plainOk)
      simp only [Walk.outcome, markedOk, plainOk, Except.map, same, kept]

/-- A marked block with a marked statement in it; the inner line has no source name. -/
def markedBlock : Node :=
  let statement : Node := ⟨.known .selfRef, .null, .null, .null, 4, none⟩
  let line : Node := ⟨.known .newline, .null, .null, .node statement, 4, none⟩
  let block : Node := ⟨.known .block, .tuple [.node line], .null, .null, 3, some "a.rb"⟩
  ⟨.known .newline, .null, .null, .node block, 3, some "a.rb"⟩

theorem serialize_markers_markedBlock :
    (∀ node ∈ some markedBlock, node.holdsNoMarkers = true) ∧
      (serialize (SerializeOptions.marking {}) (some markedBlock)).result =
        .ok [.seq [.atom "newline", .int 3, .text "a.rb"],
          .seq [.atom "block", .seq [.atom "newline", .int 4, .text ""], .seq [.atom "self"]]] ∧
      (serialize (SerializeOptions.plain {}) (some markedBlock)).result =
        (serialize (SerializeOptions.marking {}) (some markedBlock)).result.map
          Sexp.itemsWithoutMarkers := by
  have holds : ∀ node ∈ some markedBlock, node.holdsNoMarkers = true := by
    rintro node ⟨⟩
    rfl
  exact ⟨holds, by cbv, ((serialize_markers {} (some markedBlock)).2.2.2.2 holds).1⟩

def readyMarker : Node := ⟨.known .splat, .form (.seq [.atom "newline"]), .null, .null, 0, none⟩

/-- A ready form is written as it is, markers or not, so leaving out every list with the
marker's tag takes it away as well. -/
theorem readyMarker_ne :
    (serialize (SerializeOptions.plain {}) (some readyMarker)).result ≠
      (serialize (SerializeOptions.marking {}) (some readyMarker)).result.map
        Sexp.itemsWithoutMarkers := by
  have plain : (serialize (SerializeOptions.plain {}) (some readyMarker)).result =
      .ok [.seq [.atom "splat", .seq [.atom "newline"]]] := by cbv
  have marked : (serialize (SerializeOptions.marking {}) (some readyMarker)).result =
      .ok [.seq [.atom "splat", .seq [.atom "newline"]]] := by cbv
  have left : Sexp.itemsWithoutMarkers [.seq [.atom "splat", .seq [.atom "newline"]]] =
      [.seq [.atom "splat"]] := by decide
  rw [plain, marked, Except.map, left]
  simp

end NodeForms
