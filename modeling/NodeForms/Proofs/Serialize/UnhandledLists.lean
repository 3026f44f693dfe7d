import NodeForms.Proofs.Serialize.ReadyForms
import NodeForms.Proofs.Serialize.Simulation

/-!
# The unhandled lists of a walk

A node without a rule is written as a list with its number, and a diagnostic with that number is
left. As long as no slot holds a ready form with such a list in it, the numbers in the forms of a
walk are those of its diagnostics, in order: every other list is headed by the tag of a kind with
a rule, or it is a line marker.
-/

namespace NodeForms

namespace Sexp

/-- The number in a list that stands for a node without a rule. -/
def unhandledNumber? : Sexp → Option Int
  | .seq [.atom tag, .int number] => if tag = "unhandled" then some number else none
  | _ => none

mutual
/-- The numbers in the lists for nodes without a rule, at every depth, in reading order. -/
def unhandledNumbers : Sexp → List Int
  | .seq items => (seq items).unhandledNumber?.toList ++ itemsUnhandledNumbers items
  | _ => []
/-- The numbers in such lists among forms and in them. -/
def itemsUnhandledNumbers : List Sexp → List Int
  | [] => []
  | item :: items => unhandledNumbers item ++ itemsUnhandledNumbers items
end

theorem itemsUnhandledNumbers_append (first second : List Sexp) :
    itemsUnhandledNumbers (first ++ second) =
      itemsUnhandledNumbers first ++ itemsUnhandledNumbers second := by
  induction first with
  | nil => rfl
  | cons item items inductionHypothesis =>
      simp only [List.cons_append, itemsUnhandledNumbers, inductionHypothesis,
        List.append_assoc]

theorem itemsUnhandledNumbers_singleton (form : Sexp) :
    itemsUnhandledNumbers [form] = form.unhandledNumbers := by
  rw [itemsUnhandledNumbers, itemsUnhandledNumbers, List.append_nil]

theorem itemsUnhandledNumbers_eq_nil {items : List Sexp} :
    itemsUnhandledNumbers items = [] ↔ ∀ item ∈ items, item.unhandledNumbers = [] := by
  induction items with
  | nil => simp [itemsUnhandledNumbers]
  | cons item items inductionHypothesis =>
      simp [itemsUnhandledNumbers, inductionHypothesis]

theorem unhandledNumbers_of_isSeq {form : Sexp} (isFlat : form.isSeq = false) :
    form.unhandledNumbers = [] := by
  cases form with
  | seq items => cases isFlat
  | _ => rw [unhandledNumbers]; rintro _ ⟨⟩

theorem unhandledNumbers_items {forms : List Sexp} (free : (seq forms).unhandledNumbers = []) :
    ∀ form ∈ forms, form.unhandledNumbers = [] := by
  rw [unhandledNumbers, List.append_eq_nil_iff] at free
  exact itemsUnhandledNumbers_eq_nil.mp free.2

theorem unhandledNumbers_enclosed {tag : String} (other : tag ≠ "unhandled")
    (forms : List Sexp) :
    (seq (.atom tag :: forms)).unhandledNumbers = itemsUnhandledNumbers forms := by
  have noNumber : (seq (.atom tag :: forms)).unhandledNumber? = none := by
    unfold unhandledNumber?
    split
    · rename_i head number shape
      obtain ⟨rfl, -⟩ : tag = head ∧ forms = [.int number] := by simpa using shape
      exact if_neg other
    · rfl
  have noHead : (atom tag).unhandledNumbers = [] := unhandledNumbers_of_isSeq rfl
  rw [unhandledNumbers, itemsUnhandledNumbers, noNumber, noHead]
  rfl

theorem unhandledNumbers_lineMarker (node : Node) : (lineMarker node).unhandledNumbers = [] := by
  rw [lineMarker, unhandledNumbers_enclosed (by decide)]
  rfl

theorem unhandledNumbers_unhandledForm (node : Node) :
    (unhandledForm node).unhandledNumbers = [node.kind.id] := rfl

end Sexp

theorem KnownKind.tag_ne_unhandled (kind : KnownKind) : kind.tag ≠ "unhandled" := by
  cases kind <;> decide

theorem Node.tag_ne_unhandled {node : Node} {locals : Locals}
    {found : Except RuleFault (List Part)} (hasRule : node.parts? locals = some found) :
    node.tag ≠ "unhandled" := by
  obtain ⟨rule, hasRule, -⟩ := Option.map_eq_some_iff.mp hasRule
  unfold Node.tag
  cases kindEq : node.kind with
  | known kind => exact kind.tag_ne_unhandled
  | _ => rw [kindEq] at hasRule; cases hasRule

def Walk.ListsUnhandled (walk : Walk) : Prop :=
  ∀ forms, walk.result = .ok forms →
    Sexp.itemsUnhandledNumbers forms = walk.findings.map Diagnostic.kindNumber

namespace Walk.ListsUnhandled

variable {first second : Walk}

theorem failed (reason : Failure) : (Walk.failed reason).ListsUnhandled := by
  intro forms ok
  cases ok

theorem done {forms : List Sexp} (free : Sexp.itemsUnhandledNumbers forms = []) :
    (Walk.done forms).ListsUnhandled := by
  intro others ok
  obtain rfl := Except.ok.inj ok
  exact free

theorem unhandled (context : ErrorContext) (node : Node) :
    Walk.ListsUnhandled
      ⟨[node], [Diagnostic.unhandled context node], .ok [unhandledForm node]⟩ := by
  intro forms ok
  obtain rfl := Except.ok.inj ok
  rw [Sexp.itemsUnhandledNumbers_singleton, Sexp.unhandledNumbers_unhandledForm]
  rfl

theorem andThen (ofFirst : first.ListsUnhandled) (ofSecond : second.ListsUnhandled) :
    (first.andThen second).ListsUnhandled := by
  cases result : first.result with
  | error reason => rwa [Walk.andThen_of_error result]
  | ok forms =>
      rw [Walk.andThen_of_ok result]
      intro all ok
      obtain ⟨others, later, rfl⟩ := map_eq_ok.mp ok
      rw [Sexp.itemsUnhandledNumbers_append, ofFirst forms result, ofSecond others later,
        List.map_append]

theorem enclosed {tag : String} (other : tag ≠ "unhandled") (of : first.ListsUnhandled) :
    (first.enclosed tag).ListsUnhandled := by
  intro all ok
  obtain ⟨forms, inner, rfl⟩ := map_eq_ok.mp ok
  rw [Sexp.itemsUnhandledNumbers_singleton, Sexp.unhandledNumbers_enclosed other]
  exact of forms inner

end Walk.ListsUnhandled

/-- Where no slot holds an unhandled list, the numbers in the unhandled lists of a tree are those
of the diagnostics, in order. -/
theorem walkTree_listsUnhandled (options : SerializeOptions) (root : Option Node)
    (free : ∀ node ∈ root, ∀ form ∈ node.readyForms, form.unhandledNumbers = []) :
    (walkTree options root).ListsUnhandled := by
  have inherits : Value.IsInherited fun payload =>
      ∀ form ∈ payload.readyForms, form.unhandledNumbers = [] :=
    Value.isInherited_readyForms fun _ => Sexp.unhandledNumbers_items
  cases root with
  | none => exact .done rfl
  | some root =>
      refine (walk_all_drawn options inherits Walk.ListsUnhandled ?nothing ?value .failed ?marker
        ?unhandled ?visit ?parts ?group ?andThen).1 0 .absent root ?drawn
      case nothing => exact .done rfl
      case value =>
        intro form origin
        refine .done ?_
        rw [Sexp.itemsUnhandledNumbers_singleton]
        rcases origin with flat | free
        · exact Sexp.unhandledNumbers_of_isSeq flat
        · exact free form (by simp [Value.readyForms])
      case marker =>
        intro node walk _ of
        have unmarked : Sexp.itemsUnhandledNumbers
            (if options.markers then [lineMarker node] else []) = [] := by
          split
          · rw [Sexp.itemsUnhandledNumbers_singleton, Sexp.unhandledNumbers_lineMarker]
          · rfl
        exact .andThen (.done unmarked) of
      case unhandled =>
        intro node locals _ _
        exact .unhandled options.context node
      case visit =>
        intro node locals found walk _ _ of
        exact of
      case parts =>
        intro node locals found walk _ hasRule of
        exact .enclosed (Node.tag_ne_unhandled hasRule) of
      case group =>
        intro walk of
        exact .enclosed (by decide) of
      case andThen =>
        intro first second ofFirst ofSecond
        exact .andThen ofFirst ofSecond
      case drawn =>
        rw [Value.readyForms]
        exact free root rfl

end NodeForms
