import NodeForms.Proofs.Batch.Isolation
import NodeForms.Proofs.Registry.RoundTrip
import NodeForms.Proofs.Serialize.Headed
import NodeForms.Proofs.Sexp.Layout

/-!
# Forms that can be written

Every list in the form of a graph of well-typed nodes has a head, and everything else is a leaf. A
leaf may lack the number that it should have, but it is written all the same. So the forms of
methods and types that were read from a document are written in every layout.
-/

namespace NodeForms

namespace Sexp

/-- A leaf, or a list of such forms. -/
inductive IsWritable : Sexp → Prop
  | leaf {form : Sexp} (isLeaf : form.isLeaf = true) : IsWritable form
  | seq {items : List Sexp} (inside : ∀ item ∈ items, item.IsWritable) : IsWritable (.seq items)

namespace IsWritable

variable {form : Sexp}

theorem isClear (writable : form.IsWritable) : form.IsClear := by
  induction writable with
  | @leaf form isLeaf =>
      intro scalar isScalar
      cases form with
      | seq items => cases isLeaf
      | foreign what =>
          obtain rfl := List.mem_singleton.mp isScalar
          cases what with
          | noInteger plain => exact ⟨rfl, rfl⟩
          | _ => cases isLeaf
      | _ =>
          obtain rfl := List.mem_singleton.mp isScalar
          exact ⟨rfl, rfl⟩
  | seq _ inductionHypothesis =>
      intro scalar isScalar
      obtain ⟨item, isItem, inside⟩ := exists_mem_of_mem_itemScalars isScalar
      exact inductionHypothesis item isItem scalar inside

theorem atom (name : String) : (Sexp.atom name).IsWritable := .leaf rfl

theorem of_headed {markers : Bool} {graph : List Node} (headed : form.Headed markers graph) :
    form.IsWritable := by
  induction headed with
  | tagged _ _ inductionHypothesis =>
      refine .seq (List.forall_mem_cons.mpr ⟨.atom _, fun element isElement => ?_⟩)
      cases isLeaf : element.isLeaf with
      | true => exact .leaf isLeaf
      | false => exact inductionHypothesis element isElement isLeaf
  | unhandled =>
      refine .seq (List.forall_mem_cons.mpr ⟨.atom _, List.forall_mem_singleton.mpr (.leaf rfl)⟩)
  | marker =>
      exact .seq (List.forall_mem_cons.mpr ⟨.atom _, List.forall_mem_cons.mpr
        ⟨.leaf rfl, List.forall_mem_singleton.mpr (.leaf rfl)⟩⟩)

end IsWritable

end Sexp

theorem serialize_isWritable {options : SerializeOptions} (held : options.closures = .held)
    {root : Option Node} (checked : ∀ node ∈ root, ∀ inner ∈ node.nodes, inner.check = .ok ())
    {forms : List Sexp} (ok : (serialize options root).result = .ok forms) :
    ∀ form ∈ forms, form.IsWritable := by
  rw [serialize_eq_outcome options held] at ok
  cases root with
  | none =>
      obtain rfl := Except.ok.inj ok
      simp
  | some root =>
      intro form isForm
      exact .of_headed ((walk_headed options (checked root rfl)).1 0 .absent root nofun
        (fun _ isInner => isInner) forms ok form isForm)

theorem serializePayload_isWritable {options : SerializeOptions} (held : options.closures = .held)
    {payload : Value} (checked : ∀ node ∈ payload.nodes, node.check = .ok ()) {forms : List Sexp}
    (ok : (serializePayload options payload).result = .ok forms) :
    ∀ form ∈ forms, form.IsWritable := by
  rcases serializePayload_cases options payload with ⟨root, rfl, same⟩ | same | same
  · have ofRoot : ∀ node ∈ some root, ∀ inner ∈ node.nodes, inner.check = .ok () := by
      rintro _ ⟨⟩
      exact checked
    exact serialize_isWritable held ofRoot (same ▸ ok)
  · exact serialize_isWritable held (by simp) (same ▸ ok)
  · rw [same] at ok
    cases ok

theorem mem_nodes_of_methodTree {body inner : Node}
    (isInner : inner ∈ (methodTree (.node body)).nodes) : inner ∈ body.nodes := by
  rw [methodTree] at isInner
  split at isInner
  · exact Node.mem_nodes.mpr (.inr ⟨.second, isInner⟩)
  · exact isInner

theorem Node.ReadsBack.checked {body : Node} (readsBack : body.ReadsBack) :
    ∀ inner ∈ body.nodes, inner.check = .ok () := by
  obtain ⟨content, -, read⟩ := readsBack
  exact fun inner isInner =>
    (regular_keptByReading.of_decode content trivial body read inner isInner).fits

namespace HostType

theorem mem_methods_of_method? {type : HostType} {name : String} {body : Value}
    (found : type.method? name = some body) : ∃ entry ∈ type.methods, entry.2 = body := by
  unfold method? at found
  split at found
  · cases found
  · rename_i entryName entryBody isEntry
    split at found
    · cases found
    · exact ⟨_, List.mem_of_find?_eq_some isEntry, Option.some.inj found⟩

namespace IsRead

variable {options : SerializeOptions} {type : HostType} {form : Sexp}

theorem methodForm_isWritable (isRead : type.IsRead) (held : options.closures = .held)
    {name : String} (ok : (type.methodForm options name).result = .ok form) : form.IsWritable := by
  cases found : type.method? name with
  | none =>
      rw [methodForm, found] at ok
      obtain rfl := Except.ok.inj ok
      exact .seq (List.forall_mem_singleton.mpr (.atom _))
  | some body =>
      obtain ⟨entry, isEntry, rfl⟩ := mem_methods_of_method? found
      obtain ⟨body, isBody, readsBack⟩ := isRead.bodies entry isEntry
      rw [methodForm_result found, isBody] at ok
      obtain ⟨forms, made, rfl⟩ := map_eq_ok.mp ok
      have heldInside : (methodOptions options type name).closures = .held := held
      have inside : ∀ form ∈ forms, form.IsWritable :=
        serializePayload_isWritable heldInside
          (fun node isNode => readsBack.checked node (mem_nodes_of_methodTree isNode)) made
      exact .seq (List.forall_mem_cons.mpr ⟨.atom _, List.forall_mem_cons.mpr ⟨.atom _, inside⟩⟩)

theorem form_isWritable (isRead : type.IsRead) (held : options.closures = .held)
    (ok : (type.form options).result = .ok form) : form.IsWritable := by
  rcases type.form_cases options with ⟨methods, made, related, -⟩ | ⟨_, _, _, _, -, -, -, failed, -⟩
  · obtain rfl := Except.ok.inj (made.symm.trans ok)
    refine .seq (List.forall_mem_append.mpr ⟨?_, ?_⟩)
    · unfold header
      split <;> simp [Sexp.IsWritable.atom]
    · intro method isMethod
      obtain ⟨name, -, formed⟩ := exists_left_of_forall₂ related isMethod
      exact isRead.methodForm_isWritable held formed
  · rw [failed] at ok
    cases ok

end IsRead

end HostType

end NodeForms
