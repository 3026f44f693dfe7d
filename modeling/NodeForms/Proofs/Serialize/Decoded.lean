import NodeForms.Proofs.Serialize.Serves
import NodeForms.Proofs.Serialize.Simulation
import NodeForms.Proofs.Sexp.Acceptance
import NodeForms.Proofs.Sexp.RoundTrip

/-!
# Serializing what was read

A tree that was read from a document serializes to forms that can be written and read back, or
to an error of the tree, with two exceptions: the slot of a special match need not name a
character, and the slot of a numbered match need not hold a number. A walk over such a tree is
followed place by place, and both exceptions are told by the nodes that it visits.
-/

namespace NodeForms

/-- A special match names a character by its code point. -/
def Node.NamesCharacter (node : Node) : Prop :=
  node.kind = .known .backRef →
    ∃ code : Int, node.u2 = .data (.scalar (.int code)) ∧ 0 ≤ code ∧ code ≤ 0x10FFFF

def Node.HasNumber (node : Node) : Prop :=
  node.kind = .known .nthRef → ∃ number : Int, node.u2 = .data (.scalar (.int number))

def Failure.IsReported (failure : Failure) : Prop := ∃ error, failure = .error error

namespace Rule

/-- A code point is the number of a character, up to the last one. -/
theorem characterOf_yields_iff {payload : Value} (fits : payload.Fits .integer) :
    Yields (fun _ => True) (characterOf payload) ↔
      ∃ code : Int, payload = .data (.scalar (.int code)) ∧ 0 ≤ code ∧ code ≤ 0x10FFFF := by
  have refused (cause : PayloadFault) :
      ¬ Yields (fun _ : Char => True) (.error (.payload cause)) := fun isReported =>
    isReported cause rfl
  rcases fits.integer with rfl | ⟨code, rfl⟩
  · constructor
    · exact fun yields => absurd yields (refused .noInteger)
    · rintro ⟨code, ⟨⟩, -⟩
  · unfold characterOf
    simp only [bind, Except.bind]
    constructor
    · intro yields
      refine ⟨code, rfl, ?_⟩
      split at yields
      · exact absurd yields (refused .codePointTooLarge)
      · split at yields
        · exact absurd yields (refused .noCodePoint)
        · omega
    · rintro ⟨same, named, low, high⟩
      cases named
      rw [if_neg (by omega), if_neg (by omega)]
      split
      · exact .ok trivial
      · exact .ok trivial

theorem isComplete_numberForm_iff (payload : Value) :
    (numberForm payload).isComplete = true ↔
      ∃ number : Int, payload = .data (.scalar (.int number)) := by
  unfold numberForm
  split
  · simp [Sexp.isComplete]
  · rename_i noNumber
    simp only [Sexp.isComplete, Bool.false_eq_true, false_iff]
    rintro ⟨number, rfl⟩
    exact noNumber number rfl

end Rule

namespace Node.Sound

variable {node : Node} {around : Locals}

/-- The parts of a sound node are sound, and its rule fails with an error of the tree, unless
it is one of the two matches. -/
theorem parts?_yields (sound : node.Sound) (usable : around ≠ .unusable)
    (noMatch : node.kind ≠ .known .nthRef) (noSpecial : node.kind ≠ .known .backRef)
    {found : Except RuleFault (List Part)} (isFound : node.parts? around = some found) :
    Yields Part.AllSound found := by
  obtain ⟨kind, rule, isKind, hasRule, rfl⟩ := exists_rule_of_parts? isFound
  have serves : rule.Serves kind.layout :=
    KnownKind.rule?_serves hasRule (fun same => noMatch (same ▸ isKind))
      fun same => noSpecial (same ▸ isKind)
  exact serves around node usable (congrArg Kind.layout isKind) sound

end Node.Sound

namespace Walk

/-- A walk that fails with an error of the tree unless a special match names no character, and
that gives forms that can be written unless a numbered match has no number. -/
structure IsFaithful (walk : Walk) : Prop where
  reported : (∀ failure, walk.result = .error failure → failure.IsReported) ↔
    ∀ node ∈ walk.visited, node.NamesCharacter
  complete : ∀ forms, walk.result = .ok forms →
    (Sexp.itemsComplete forms = true ↔ ∀ node ∈ walk.visited, node.HasNumber)

end Walk

theorem Sexp.itemsComplete_append (first second : List Sexp) :
    itemsComplete (first ++ second) = (itemsComplete first && itemsComplete second) := by
  induction first with
  | nil => rfl
  | cons item items ih => rw [List.cons_append, itemsComplete, itemsComplete, ih, Bool.and_assoc]

namespace Walk.IsFaithful

variable {node : Node} {first second walk : Walk}

theorem done {forms : List Sexp} (complete : Sexp.itemsComplete forms = true) :
    (Walk.done forms).IsFaithful := by
  constructor
  · simp [Walk.done]
  · rintro _ ⟨⟩
    simp [Walk.done, complete]

theorem failed {reason : Failure} (isReported : reason.IsReported) :
    (Walk.failed reason).IsFaithful := by
  constructor
  · simp [Walk.failed, isReported]
  · rintro _ ⟨⟩

theorem andThen (ofFirst : first.IsFaithful) (ofSecond : second.IsFaithful) :
    (first.andThen second).IsFaithful := by
  cases result : first.result with
  | error reason => rwa [Walk.andThen_of_error result]
  | ok forms =>
      rw [Walk.andThen_of_ok result]
      have named := ofFirst.reported.mp (by simp [result])
      have numbered := ofFirst.complete forms result
      constructor
      · simp only [List.forall_mem_append]
        rw [and_iff_right named, ← ofSecond.reported]
        cases second.result <;> simp [Except.map]
      · intro all found
        obtain ⟨others, ok, rfl⟩ := map_eq_ok.mp found
        rw [Sexp.itemsComplete_append, Bool.and_eq_true, numbered, ofSecond.complete others ok,
          List.forall_mem_append]

theorem enclosed (tag : String) (of : walk.IsFaithful) : (Walk.enclosed tag walk).IsFaithful := by
  constructor
  · refine Iff.trans ?_ of.reported
    unfold Walk.enclosed
    cases walk.result <;> simp [Except.map]
  · intro forms found
    obtain ⟨inner, ok, rfl⟩ := map_eq_ok.mp found
    refine Iff.trans ?_ (of.complete inner ok)
    simp [Sexp.itemsComplete, Sexp.isComplete]

theorem after (named : node.NamesCharacter) (numbered : node.HasNumber) (of : walk.IsFaithful) :
    (Walk.after node walk).IsFaithful := by
  constructor
  · exact of.reported.trans (by simp [Walk.after, named])
  · intro forms ok
    exact (of.complete forms ok).trans (by simp [Walk.after, numbered])

theorem after_plain (noMatch : node.kind ≠ .known .nthRef) (noSpecial : node.kind ≠ .known .backRef)
    (of : walk.IsFaithful) : (Walk.after node walk).IsFaithful :=
  after (fun isSpecial => absurd isSpecial noSpecial) (fun isMatch => absurd isMatch noMatch) of

end Walk.IsFaithful

theorem SerializeOptions.exhausted_isReported {options : SerializeOptions} {seen : Nat}
    (spent : options.isSpent seen = true) (node : Node) :
    (options.exhausted node).IsReported := by
  unfold exhausted
  unfold isSpent at spent
  cases limited : options.limit with
  | none => rw [limited] at spent; cases spent
  | some limit => exact ⟨_, rfl⟩

theorem SerializeOptions.ruleFailure_isReported_iff (options : SerializeOptions) (node : Node)
    (fault : RuleFault) : (options.ruleFailure node fault).IsReported ↔ fault.IsReported := by
  cases fault with
  | payload cause =>
      simp [ruleFailure, RuleFault.toFailure, Failure.IsReported, RuleFault.IsReported]
  | _ => simp [ruleFailure, RuleFault.toFailure, Failure.IsReported, RuleFault.IsReported]

section

variable {options : SerializeOptions} {seen : Nat} {locals : Locals} {node : Node}

theorem Node.parts?_special (node : Node) (isSpecial : node.kind = .known .backRef) :
    node.parts? locals = some (Rule.specialMatch ⟨locals, ClosureAccess.held.resolve⟩ node) := by
  rw [parts?, isSpecial]
  rfl

theorem walkNode_specialMatch (allowed : ¬options.isSpent seen = true)
    (isSpecial : node.kind = .known .backRef) {character : Char}
    (spelled : Rule.characterOf node.u2 = .ok character) :
    walkNode options seen locals node =
      ⟨[node], [], .ok [.seq [.atom node.tag, .atom (String.singleton character)]]⟩ := by
  have noMarker : ¬node.kind = .known .newline := by rw [isSpecial]; decide
  have found : node.parts? locals =
      some (.ok [.value (.atom (String.singleton character))]) := by
    rw [node.parts?_special isSpecial, Rule.specialMatch, spelled]
    rfl
  rw [walkNode_parts allowed noMarker found, walkParts_cons, walkPart_value, walkParts_nil]
  rfl

/-- A special match is faithful: it fails as its slot says, or leaves the name of a character. -/
theorem walkNode_isFaithful_special (allowed : ¬options.isSpent seen = true) (sound : node.Sound)
    (isSpecial : node.kind = .known .backRef) :
    (walkNode options seen locals node).IsFaithful := by
  have noMarker : ¬node.kind = .known .newline := by rw [isSpecial]; decide
  have noMatch : node.kind ≠ .known .nthRef := by rw [isSpecial]; decide
  have fits : node.u2.Fits .integer := sound.second (by rw [isSpecial]; decide)
  have named : node.NamesCharacter ↔ Yields (fun _ => True) (Rule.characterOf node.u2) := by
    rw [Rule.characterOf_yields_iff fits]
    exact ⟨fun named => named isSpecial, fun named _ => named⟩
  cases spelled : Rule.characterOf node.u2 with
  | ok character =>
      rw [spelled] at named
      rw [walkNode_specialMatch allowed isSpecial spelled]
      constructor
      · simp [named, Yields]
      · rintro _ ⟨⟩
        simp [Node.HasNumber, noMatch, Sexp.itemsComplete, Sexp.isComplete]
  | error fault =>
      rw [spelled] at named
      have refused : node.parts? locals = some (.error fault) := by
        rw [node.parts?_special isSpecial, Rule.specialMatch, spelled]
        rfl
      rw [walkNode_fault allowed noMarker refused]
      constructor
      · simp [Walk.after, Walk.failed, options.ruleFailure_isReported_iff, named, Yields]
      · rintro _ ⟨⟩

theorem walkNode_numberedMatch (allowed : ¬options.isSpent seen = true)
    (isMatch : node.kind = .known .nthRef) :
    walkNode options seen locals node =
      ⟨[node], [], .ok [.seq [.atom node.tag, Rule.numberForm node.u2]]⟩ := by
  have noMarker : ¬node.kind = .known .newline := by rw [isMatch]; decide
  have found : node.parts? locals = some (.ok [.value (Rule.numberForm node.u2)]) := by
    rw [Node.parts?, isMatch]
    rfl
  rw [walkNode_parts allowed noMarker found, walkParts_cons, walkPart_value, walkParts_nil]
  rfl

theorem walkNode_isFaithful_match (allowed : ¬options.isSpent seen = true)
    (isMatch : node.kind = .known .nthRef) : (walkNode options seen locals node).IsFaithful := by
  have noSpecial : node.kind ≠ .known .backRef := by rw [isMatch]; decide
  have numbered : node.HasNumber ↔ (Rule.numberForm node.u2).isComplete = true := by
    rw [Rule.isComplete_numberForm_iff]
    exact ⟨fun numbered => numbered isMatch, fun numbered _ => numbered⟩
  rw [walkNode_numberedMatch allowed isMatch]
  constructor
  · simp [Node.NamesCharacter, noSpecial]
  · rintro _ ⟨⟩
    simp [numbered, Sexp.itemsComplete, Sexp.isComplete]

end

/-- A walk over sound places is faithful, as long as no scope has put an unusable table in
force. -/
theorem walk_isFaithful (options : SerializeOptions) :
    (∀ seen locals node, locals ≠ .unusable → node.Sound →
      (walkNode options seen locals node).IsFaithful) ∧
    (∀ seen locals parts, locals ≠ .unusable → Part.AllSound parts →
      (walkParts options seen locals parts).IsFaithful) ∧
    (∀ seen locals part, locals ≠ .unusable → part.Sound →
      (walkPart options seen locals part).IsFaithful) ∧
    ∀ seen locals payload, locals ≠ .unusable → payload.IsSite →
      (walkSlot options seen locals payload).IsFaithful := by
  -- Two kinds read a number from a slot that decoding lets be empty; they are set apart wherever a
  -- rule is applied.
  apply walk_induction options
  case spent =>
    intro seen locals node spent _ _
    rw [walkNode_spent spent]
    exact .failed (options.exhausted_isReported spent node)
  case marker =>
    intro seen locals node allowed isMarker ih usable sound
    have following : node.u3.Fits .node := sound.third (by rw [isMarker]; decide)
    rw [walkNode_marker allowed isMarker]
    refine .after_plain (by simp [isMarker]) (by simp [isMarker])
      (.andThen (.done ?_) (ih usable following.isSite))
    split <;> rfl
  case unhandled =>
    intro seen locals node allowed noMarker noRule _ _
    have noMatch : node.kind ≠ .known .nthRef := by
      intro isMatch
      rw [Node.parts?, isMatch] at noRule
      cases noRule
    have noSpecial : node.kind ≠ .known .backRef := by
      intro isSpecial
      rw [Node.parts?, isSpecial] at noRule
      cases noRule
    have visit : (Walk.after node (.done [unhandledForm node])).IsFaithful :=
      .after_plain noMatch noSpecial (.done rfl)
    rw [walkNode_unhandled allowed noMarker noRule]
    exact ⟨visit.reported, visit.complete⟩
  case fault =>
    intro seen locals node allowed noMarker fault refused usable sound
    by_cases isSpecial : node.kind = .known .backRef
    · exact walkNode_isFaithful_special allowed sound isSpecial
    by_cases isMatch : node.kind = .known .nthRef
    · exact walkNode_isFaithful_match allowed isMatch
    have isReported : fault.IsReported := sound.parts?_yields usable isMatch isSpecial refused
    rw [walkNode_fault allowed noMarker refused]
    exact .after_plain isMatch isSpecial
      (.failed ((options.ruleFailure_isReported_iff node fault).mpr isReported))
  case parts =>
    intro seen locals node allowed noMarker parts found ih usable sound
    by_cases isSpecial : node.kind = .known .backRef
    · exact walkNode_isFaithful_special allowed sound isSpecial
    by_cases isMatch : node.kind = .known .nthRef
    · exact walkNode_isFaithful_match allowed isMatch
    have allSound : Part.AllSound parts := sound.parts?_yields usable isMatch isSpecial found
    rw [walkNode_parts allowed noMarker found]
    exact .after_plain isMatch isSpecial
      (.enclosed _ (ih (node.tableInside_ne_unusable sound.checked usable) allSound))
  case nil =>
    intro seen locals _ _
    rw [walkParts_nil]
    exact .done rfl
  case cons =>
    intro seen locals part rest ofPart ofRest usable allSound
    obtain ⟨first, others⟩ := List.forall_mem_cons.mp allSound
    rw [walkParts_cons]
    exact .andThen (ofPart usable first) (ofRest usable others)
  case value =>
    intro seen locals form _ sound
    cases sound with
    | value complete =>
        rw [walkPart_value]
        exact .done (by simp [Sexp.itemsComplete, complete])
  case node =>
    intro seen locals child ih usable sound
    cases sound with
    | node isSound =>
        rw [walkPart_node]
        exact ih usable isSound
  case absent =>
    intro seen locals child inner isEmpty _ _
    rw [walkPart_absent inner isEmpty]
    exact .done rfl
  case under =>
    intro seen locals child inner isFilled ih usable sound
    cases sound with
    | under isSite =>
        rw [walkPart_scoped inner isFilled]
        exact ih usable isSite
  case group =>
    intro seen locals tag members ih usable sound
    cases sound with
    | group _ allSound =>
        rw [walkPart_group]
        exact .enclosed tag (ih usable allSound)
  case held =>
    intro seen locals child ih usable isSite
    rw [walkSlot_node]
    rcases isSite with absent | ⟨_, ⟨⟩, isSound⟩
    · cases absent
    · exact ih usable isSound
  case empty =>
    intro seen locals payload noNode isEmpty _ _
    rw [walkSlot_empty noNode isEmpty]
    exact .done rfl
  case misplaced =>
    intro seen locals payload noNode isFilled _ isSite
    rcases isSite with rfl | ⟨child, rfl, -⟩
    · exact absurd rfl isFilled
    · exact (noNode child rfl).elim

theorem walkTree_isFaithful {content : Data} {root : Node} (read : Node.decode content = .ok root)
    (options : SerializeOptions) : (walkTree options (some root)).IsFaithful :=
  (walk_isFaithful options).1 0 .absent root nofun (Node.sound_of_decode content root read)

/-- A tree that was read from a document serializes to forms or to an error of the tree exactly
if every special match visited names a character; else the run ends in another failure. -/
theorem serialize_isReported_iff (content : Data) (root : Node)
    (read : Node.decode content = .ok root) (options : SerializeOptions) :
    let run := serialize { options with closures := .held } (some root)
    (∀ failure, run.result = .error failure → ∃ error, failure = .error error) ↔
      ∀ node ∈ run.visited, node.kind = .known .backRef →
        ∃ code : Int, node.u2 = .data (.scalar (.int code)) ∧ 0 ≤ code ∧ code ≤ 0x10FFFF := by
  intro run
  have same : run = (walkTree { options with closures := .held } (some root)).outcome :=
    serialize_eq_outcome _ rfl (some root)
  rw [same]
  exact (walkTree_isFaithful read _).reported

/-- The document of a match that says what it has for a number, if anything. -/
def matchDocument (tag : String) (number : Option Int) : Data :=
  .map ((.text "kind", .text tag) :: number.toList.map fun nth => (.text "nth", .int nth))

/-- The node of such a document. -/
def matchNode (kind : KnownKind) (number : Option Int) : Node :=
  ⟨.known kind, .null, number.elim .null fun nth => .data (.int nth), .null, 0, none⟩

/-- The special match of an ampersand. -/
theorem serialize_isReported_ampersand :
    Node.decode (matchDocument "back_ref" (some 38)) = .ok (matchNode .backRef (some 38)) ∧
      ∀ failure, (serialize {} (some (matchNode .backRef (some 38)))).result = .error failure →
        ∃ error, failure = .error error := by
  have read : Node.decode (matchDocument "back_ref" (some 38)) =
      .ok (matchNode .backRef (some 38)) := rfl
  have visited : (serialize {} (some (matchNode .backRef (some 38)))).visited =
      [matchNode .backRef (some 38)] := by
    rw [serialize_eq_outcome {} rfl, walkTree, walkNode_specialMatch (by decide) rfl rfl]
    rfl
  refine ⟨read, (serialize_isReported_iff _ _ read {}).mpr fun node isVisited _ => ?_⟩
  obtain rfl : node = matchNode .backRef (some 38) := by simpa [visited] using isVisited
  exact ⟨38, rfl, by decide, by decide⟩

/-- A special match without a number is read, and its run ends in no error of the tree. -/
theorem serialize_unreported_special :
    Node.decode (matchDocument "back_ref" none) = .ok (matchNode .backRef none) ∧
      (serialize {} (some (matchNode .backRef none))).result = .error (.payload .noInteger) :=
  ⟨rfl, by cbv⟩

/-- The forms of a tree that was read from a document are well typed exactly if every numbered
match visited has a number. Then, and only then, they are written in every layout as a text
that reads back as the same forms. -/
theorem serialize_read_back_iff (content : Data) (root : Node)
    (read : Node.decode content = .ok root) (options : SerializeOptions) (forms : List Sexp) :
    let run := serialize { options with closures := .held } (some root)
    let numbered := ∀ node ∈ run.visited, node.kind = .known .nthRef →
      ∃ number : Int, node.u2 = .data (.scalar (.int number))
    run.result = .ok forms →
      ((Sexp.seq forms).isComplete = true ↔ numbered) ∧
        ((∀ layout : Option Sexp.LayoutOptions, ∃ text,
          (Sexp.seq forms).write layout = .ok text ∧ Sexp.read text = .ok (.seq forms)) ↔
            numbered) := by
  intro run numbered made
  have same : run = (walkTree { options with closures := .held } (some root)).outcome :=
    serialize_eq_outcome _ rfl (some root)
  have complete : (Sexp.seq forms).isComplete = true ↔ numbered := by
    rw [same] at made
    simp only [numbered, same, Sexp.isComplete]
    exact (walkTree_isFaithful read _).complete forms made
  refine ⟨complete, ?_⟩
  rw [← complete]
  constructor
  · intro readBack
    obtain ⟨text, -, found⟩ := readBack none
    exact Sexp.isComplete_of_read found
  · intro isComplete layout
    exact ⟨(Sexp.seq forms).render layout, Sexp.write_of_isComplete isComplete layout,
      Sexp.read_of_spelled (Sexp.spelled_render isComplete layout)⟩

/-- The first numbered match reads back, however it is laid out. -/
theorem serialize_read_back_first :
    Node.decode (matchDocument "nth_ref" (some 1)) = .ok (matchNode .nthRef (some 1)) ∧
      (serialize {} (some (matchNode .nthRef (some 1)))).result =
        .ok [.seq [.atom "nth_ref", .int 1]] ∧
      ∀ layout : Option Sexp.LayoutOptions, ∃ text,
        (Sexp.seq [.seq [.atom "nth_ref", .int 1]]).write layout = .ok text ∧
          Sexp.read text = .ok (.seq [.seq [.atom "nth_ref", .int 1]]) := by
  have read : Node.decode (matchDocument "nth_ref" (some 1)) = .ok (matchNode .nthRef (some 1)) :=
    rfl
  have made : (serialize {} (some (matchNode .nthRef (some 1)))).result =
      .ok [.seq [.atom "nth_ref", .int 1]] := by cbv
  have visited : (serialize {} (some (matchNode .nthRef (some 1)))).visited =
      [matchNode .nthRef (some 1)] := by cbv
  refine ⟨read, made, (serialize_read_back_iff _ _ read {} _ made).2.mpr ?_⟩
  intro node isVisited _
  obtain rfl : node = matchNode .nthRef (some 1) := by simpa [visited] using isVisited
  exact ⟨1, rfl⟩

/-- A numbered match without a number leaves something in its form that is no integer. The text
of the form reads back with a name in its place. -/
theorem serialize_numberless_match :
    let forms : List Sexp := [.seq [.atom "nth_ref", .foreign (.noInteger "None")]]
    Node.decode (matchDocument "nth_ref" none) = .ok (matchNode .nthRef none) ∧
      (serialize {} (some (matchNode .nthRef none))).result = .ok forms ∧
      (Sexp.seq forms).isComplete = false ∧
      (Sexp.seq forms).write none = .ok "((nth_ref None))" ∧
      Sexp.read "((nth_ref None))" = .ok (.seq [.seq [.atom "nth_ref", .atom "None"]]) := by
  have made : (serialize {} (some (matchNode .nthRef none))).result =
      .ok [.seq [.atom "nth_ref", .foreign (.noInteger "None")]] := by
    rw [serialize_eq_outcome {} rfl, walkTree, walkNode_numberedMatch (by decide) rfl]
    rfl
  have written : (Sexp.seq [.seq [.atom "nth_ref", .foreign (.noInteger "None")]]).write none =
      .ok "((nth_ref None))" := by
    refine congrArg Except.ok ?_
    rw [Sexp.render, Sexp.compact_eq_flatText]
    decide
  -- The name in the place of the number is written the same.
  have sameText : (Sexp.seq [.seq [.atom "nth_ref", .atom "None"]]).render none =
      "((nth_ref None))" := by
    rw [Sexp.render, Sexp.compact_eq_flatText]
    decide
  have found : Sexp.read "((nth_ref None))" =
      .ok (.seq [.seq [.atom "nth_ref", .atom "None"]]) :=
    sameText ▸ Sexp.read_of_spelled (Sexp.spelled_render rfl none)
  exact ⟨rfl, made, rfl, written, found⟩

end NodeForms
