import NodeForms.Serialize.Machine

/-!
# Forms without line markers

A line marker is a list headed by a tag of its own, and such lists can be left out of a form
at every depth. What is left and what is left out are told by the parts of a form: the
markers in a list with another tag are those of its items.
-/

namespace NodeForms

namespace Sexp

/-- Whether a form is a list headed by the tag of line markers. -/
def isMarker (form : Sexp) : Bool := form.head? == some (.atom KnownKind.newline.tag)

mutual
def withoutMarkers : Sexp → List Sexp
  | .seq items =>
      if (seq items).isMarker then [] else [.seq (itemsWithoutMarkers items)]
  | form => [form]
/-- Forms without the marker lists among them and in them. -/
def itemsWithoutMarkers : List Sexp → List Sexp
  | [] => []
  | item :: items => withoutMarkers item ++ itemsWithoutMarkers items
end

mutual
/-- The marker lists that are left out of a form, in reading order. -/
def markers : Sexp → List Sexp
  | .seq items => if (seq items).isMarker then [.seq items] else itemsMarkers items
  | _ => []
def itemsMarkers : List Sexp → List Sexp
  | [] => []
  | item :: items => markers item ++ itemsMarkers items
end

theorem itemsWithoutMarkers_append (first second : List Sexp) :
    itemsWithoutMarkers (first ++ second) =
      itemsWithoutMarkers first ++ itemsWithoutMarkers second := by
  induction first with
  | nil => rfl
  | cons item items inductionHypothesis =>
      simp only [List.cons_append, itemsWithoutMarkers, inductionHypothesis, List.append_assoc]

theorem itemsMarkers_append (first second : List Sexp) :
    itemsMarkers (first ++ second) = itemsMarkers first ++ itemsMarkers second := by
  induction first with
  | nil => rfl
  | cons item items inductionHypothesis =>
      simp only [List.cons_append, itemsMarkers, inductionHypothesis, List.append_assoc]

theorem itemsMarkers_eq_nil {items : List Sexp} :
    itemsMarkers items = [] ↔ ∀ item ∈ items, item.markers = [] := by
  induction items with
  | nil => simp [itemsMarkers]
  | cons item items inductionHypothesis =>
      simp [itemsMarkers, inductionHypothesis]

mutual
theorem withoutMarkers_eq_self :
    (form : Sexp) → form.markers = [] → form.withoutMarkers = [form]
  | .atom _, _ | .int _, _ | .text _, _ | .foreign _, _ => by rw [withoutMarkers]; rintro _ ⟨⟩
  | .seq items, unmarked => by
      rw [markers] at unmarked
      rw [withoutMarkers]
      split at unmarked
      · cases unmarked
      · rename_i noMarker
        rw [if_neg noMarker, itemsWithoutMarkers_eq_self items unmarked]
theorem itemsWithoutMarkers_eq_self :
    (items : List Sexp) → itemsMarkers items = [] → itemsWithoutMarkers items = items
  | [], _ => rfl
  | item :: items, unmarked => by
      rw [itemsMarkers, List.append_eq_nil_iff] at unmarked
      rw [itemsWithoutMarkers, withoutMarkers_eq_self item unmarked.1,
        itemsWithoutMarkers_eq_self items unmarked.2, List.singleton_append]
end

theorem itemsMarkers_enclosed {tag : String} (other : tag ≠ KnownKind.newline.tag)
    (forms : List Sexp) : itemsMarkers [.seq (.atom tag :: forms)] = itemsMarkers forms := by
  have noMarker : ¬(seq (.atom tag :: forms)).isMarker = true := by
    simpa [isMarker, head?, items] using other
  simp [itemsMarkers, markers, noMarker]

theorem itemsWithoutMarkers_enclosed (tag : String) (forms : List Sexp) :
    itemsWithoutMarkers [.seq (.atom tag :: forms)] =
      if tag = KnownKind.newline.tag then []
      else [.seq (.atom tag :: itemsWithoutMarkers forms)] := by
  by_cases isTag : tag = KnownKind.newline.tag
  · simp [itemsWithoutMarkers, withoutMarkers, isMarker, head?, items, isTag]
  · simp [itemsWithoutMarkers, withoutMarkers, isMarker, head?, items, isTag]

theorem markers_of_isSeq {form : Sexp} (isFlat : form.isSeq = false) : form.markers = [] := by
  cases form with
  | seq items => cases isFlat
  | _ => rw [markers]; rintro _ ⟨⟩

theorem itemsMarkers_lineMarker (node : Node) :
    itemsMarkers [lineMarker node] = [lineMarker node] := rfl

end Sexp

end NodeForms
