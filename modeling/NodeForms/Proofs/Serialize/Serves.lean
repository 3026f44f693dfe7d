import NodeForms.Proofs.Serialize.WellTyped

/-!
# The rules serve what was read

A node that was read from a document holds in each slot what the layout of its kind expects,
or nothing. The nodes that were read are a supply of well-typed nodes, so on such a node a rule
gives parts that can be walked, with forms that can be written, or an error that says what is
wrong with the tree. Two kinds are left out: their rules make a form of an integer that the slot
need not hold.
-/

namespace NodeForms

/-- A part whose forms can be written and whose nodes are sound. -/
inductive Part.Sound : Part → Prop
  | value {form : Sexp} (complete : form.isComplete = true) : Part.Sound (.value form)
  | node {child : Node} (sound : child.Sound) : Part.Sound (.node child)
  | under {child : Value} (isSite : child.IsSite) (locals : Locals) :
      Part.Sound (.scoped child locals)
  | group {members : List Part} (tag : String) (sound : ∀ member ∈ members, member.Sound) :
      Part.Sound (.group tag members)

def Part.AllSound (parts : List Part) : Prop := ∀ part ∈ parts, part.Sound

section

variable {node : Node} {expected : Expected}

theorem Node.Sound.checked (sound : node.Sound) : node.check = .ok () := by
  obtain ⟨checked, -, -, -⟩ := sound
  exact checked

theorem Node.Sound.first (sound : node.Sound) (expects : node.kind.layout.Expects .first expected) :
    node.u1.Fits expected := sound.fits expects

theorem Node.Sound.second (sound : node.Sound)
    (expects : node.kind.layout.Expects .second expected) : node.u2.Fits expected :=
  sound.fits expects

theorem Node.Sound.third (sound : node.Sound) (expects : node.kind.layout.Expects .third expected) :
    node.u3.Fits expected := sound.fits expects

end

theorem Sexp.isComplete_of_isPlain {form : Sexp} (plain : form.isPlain = true) :
    form.isComplete = true := by
  cases form with
  | seq | foreign => cases plain
  | _ => rfl

/-- What was read is a supply of well-typed nodes. -/
theorem supply_sound : Supply (fun form => form.isComplete = true) Node.Sound Value.Sound
    Value.IsSite where
  leaf := Sexp.isComplete_of_isPlain
  checked sound := sound.checked
  slots position sound := sound.slots_sound position
  node sound := by
    cases sound with
    | node sound => exact sound
  nodes {children} sound := by
    generalize isList : Value.ofNodes children = payload at sound
    cases sound with
    | @nodes others sound =>
        have same : children = others := List.map_injective_iff.mpr (fun _ _ => Value.node.inj)
          (Value.tuple.inj isList)
        exact same ▸ sound
    | _ => cases isList
  closure sound := by
    cases sound with
    | closure owner ofParams ofBody =>
        exact ⟨Value.isSite_ofNode? ofParams, Value.isSite_ofNode? ofBody⟩
  side {payload} sound place := by
    rcases place with isEmpty | holds
    · cases sound with
      | null => exact .inl rfl
      | data present => simp [Value.isNull, present] at isEmpty
      | _ => cases isEmpty
    · exact .inr holds

theorem Part.Made.sound : {part : Part} →
    part.Made (fun form => form.isComplete = true) Node.Sound Value.IsSite → part.Sound
  | _, .value complete => .value complete
  | _, .node good => .node good
  | _, .under side locals => .under side locals
  | _, .group made => .group _ fun member isMember => (made member isMember).sound

namespace Rule

theorem elements_nodes {payload : Value} {children : List Node}
    (holds : payload.HoldsNodes children) : elements payload = .ok (children.map .node) := by
  rcases holds with rfl | ⟨rfl, rfl⟩
  · cases children with
    | nil => rfl
    | cons child children => rfl
  · rfl

/-- The rule gives sound parts, or an error of the tree, for every sound node with the layout. -/
def Serves (rule : Rule) (layout : Layout) : Prop :=
  ∀ (locals : Locals) (node : Node), locals ≠ .unusable → node.kind.layout = layout → node.Sound →
    Yields Part.AllSound (rule ⟨locals, ClosureAccess.held.resolve⟩ node)

end Rule

theorem KnownKind.rule?_serves {kind : KnownKind} {rule : Rule} (found : kind.rule? = some rule)
    (noMatch : kind ≠ .nthRef) (noSpecial : kind ≠ .backRef) : rule.Serves kind.layout := by
  intro locals node usable isLayout sound
  have made := rule?_makes found noMatch noSpecial supply_sound locals node usable isLayout sound
  exact made.mono fun parts allMade part member => (allMade part member).sound

end NodeForms
