import NodeForms.Proofs.Sexp.Verdict
import NodeForms.Sexp.Marks

/-!
# Tokens as marks

A token of a text stands for one mark of a flat form: a parenthesis, or a value that is no
list. The reader moves on from mark to mark, and the marks behind it can be told from its
state, so a text that splits is read as a value exactly when its tokens stand for the marks of
that value.
-/

namespace NodeForms

namespace Sexp

def IsDigits (chars : List Char) : Prop := chars ≠ [] ∧ ∀ c ∈ chars, c.isDigit = true

/-- The mark that a token stands for. -/
inductive Denotes : Token → Mark → Prop
  | opening : Denotes .opening .opening
  | closing : Denotes .closing .closing
  | quotedAtom {body content : List Char} (spells : Spells body content) :
      Denotes (.quotedAtom body) (.leaf (.atom (String.ofList content)))
  | quotedText {body content : List Char} (spells : Spells body content) :
      Denotes (.quotedText body) (.leaf (.text (String.ofList content)))
  | natural {digits : List Char} (isNumber : IsDigits digits) :
      Denotes (.bare digits) (.leaf (.int (naturalOfDigits digits)))
  | negative {digits : List Char} (isNumber : IsDigits digits) :
      Denotes (.bare ('-' :: digits)) (.leaf (.int (-(naturalOfDigits digits : Int))))
  | atom {run : List Char} (noNatural : ¬ IsDigits run)
      (noNegative : ∀ digits, run = '-' :: digits → ¬ IsDigits digits) :
      Denotes (.bare run) (.leaf (.atom (String.ofList run)))

theorem all_isDigit_iff {chars : List Char} :
    (!chars.isEmpty && chars.all Char.isDigit) = true ↔ IsDigits chars := by
  simp [IsDigits]

theorem isIntegerRun_eq_true_iff {run : List Char} :
    isIntegerRun run = true ↔ IsDigits run ∨ ∃ digits, run = '-' :: digits ∧ IsDigits digits := by
  unfold isIntegerRun
  split
  · rename_i digits
    rw [all_isDigit_iff]
    constructor
    · exact fun isNumber => .inr ⟨digits, rfl, isNumber⟩
    · rintro (signed | ⟨others, same, isNumber⟩)
      · exact absurd (signed.2 '-' (by simp)) (by decide)
      · cases same
        exact isNumber
  · rename_i unsigned
    rw [all_isDigit_iff]
    constructor
    · exact .inl
    · rintro (isNumber | ⟨digits, signed, -⟩)
      · exact isNumber
      · exact (unsigned digits signed).elim

theorem denotes_bare_iff {run : List Char} {mark : Mark} :
    Denotes (.bare run) mark ↔ mark = .leaf (ofBareRun run) := by
  have integerOf (digits : List Char) (isNumber : IsDigits digits) :
      integerOfRun digits = naturalOfDigits digits := by
    rw [integerOfRun.eq_2 digits]
    rintro rest rfl
    exact absurd (isNumber.2 '-' (by simp)) (by decide)
  constructor
  · intro denotes
    cases denotes with
    | natural isNumber =>
        rw [ofBareRun, if_pos (isIntegerRun_eq_true_iff.mpr (.inl isNumber)),
          integerOf run isNumber]
    | @negative digits isNumber =>
        rw [ofBareRun, if_pos (isIntegerRun_eq_true_iff.mpr (.inr ⟨digits, rfl, isNumber⟩)),
          integerOfRun]
    | atom noNatural noNegative =>
        have noInteger : ¬ isIntegerRun run = true := by
          intro integer
          rcases isIntegerRun_eq_true_iff.mp integer with isNumber | ⟨digits, signed, isNumber⟩
          · exact noNatural isNumber
          · exact noNegative digits signed isNumber
        rw [ofBareRun, if_neg noInteger]
  · rintro rfl
    by_cases integer : isIntegerRun run = true
    · rw [ofBareRun, if_pos integer]
      rcases isIntegerRun_eq_true_iff.mp integer with isNumber | ⟨digits, rfl, isNumber⟩
      · rw [integerOf run isNumber]
        exact .natural isNumber
      · exact .negative isNumber
    · rw [ofBareRun, if_neg integer]
      exact .atom (fun isNumber => integer (isIntegerRun_eq_true_iff.mpr (.inl isNumber)))
        fun digits signed isNumber =>
          integer (isIntegerRun_eq_true_iff.mpr (.inr ⟨digits, signed, isNumber⟩))

/-- A single mark stands for a value that is no list, and for nothing foreign. -/
theorem Denotes.leaf {token : Token} {value : Sexp} (denotes : Denotes token (.leaf value)) :
    value.isSeq = false ∧ value.isComplete = true := by
  cases denotes <;> exact ⟨rfl, rfl⟩

theorem exists_denotes {tokens : List Token} {marks : List Mark}
    (denotes : List.Forall₂ Denotes tokens marks) {mark : Mark} (member : mark ∈ marks) :
    ∃ token, Denotes token mark := by
  induction denotes with
  | nil => cases member
  | cons first _ ih =>
      rcases List.mem_cons.mp member with rfl | later
      · exact ⟨_, first⟩
      · exact ih later

namespace ReadState

/-- How a mark moves the state on. -/
inductive Reads : ReadState → Mark → ReadState → Prop
  | opening (state : ReadState) :
      Reads state .opening { state with openLists := [] :: state.openLists }
  | closing {outer : ReadState} (accepts : outer.Accepts) (items : List Sexp) :
      Reads { outer with openLists := items.reverse :: outer.openLists } .closing
        (outer.put (.seq items))
  | leaf {state : ReadState} (accepts : state.Accepts) (value : Sexp) :
      Reads state (.leaf value) (state.put value)

/-- How marks in a row move the state on. -/
inductive ReadsAll : ReadState → List Mark → ReadState → Prop
  | nil (state : ReadState) : ReadsAll state [] state
  | cons {state next last : ReadState} {mark : Mark} {marks : List Mark}
      (reads : Reads state mark next) (rest : ReadsAll next marks last) :
      ReadsAll state (mark :: marks) last

theorem add_eq_ok_iff {state next : ReadState} {offset : Nat} {value : Sexp} :
    state.add offset value = .ok next ↔ state.Accepts ∧ next = state.put value := by
  by_cases accepts : state.Accepts
  · simp [add_eq_put accepts, accepts, eq_comm]
  · obtain ⟨openLists, result⟩ := state
    simp only [Accepts, not_or, not_not] at accepts
    obtain ⟨rfl, filled⟩ := accepts
    cases result with
    | none => exact absurd rfl filled
    | some result => simp [add, Accepts]

theorem reads_leaf_iff {state next : ReadState} {value : Sexp} :
    Reads state (.leaf value) next ↔ state.Accepts ∧ next = state.put value := by
  constructor
  · rintro ⟨⟩
    exact ⟨‹_›, rfl⟩
  · rintro ⟨accepts, rfl⟩
    exact .leaf accepts value

/-- A token that a text starts with is accepted exactly as the mark it stands for. -/
theorem accept_eq_ok_iff {chars after : List Char} {token : Token}
    (starts : Starts chars token after) {state next : ReadState} (offset : Nat) :
    state.accept offset token = .ok next ↔ ∃ mark, Denotes token mark ∧ Reads state mark next := by
  cases starts with
  | opening =>
      constructor
      · rintro ⟨⟩
        exact ⟨.opening, .opening, .opening state⟩
      · rintro ⟨mark, denotes, reads⟩
        cases denotes
        cases reads
        rfl
  | closing =>
      constructor
      · intro accepted
        obtain ⟨openLists, result⟩ := state
        cases openLists with
        | nil => cases accepted
        | cons innermost outer =>
            obtain ⟨accepts, rfl⟩ := add_eq_ok_iff.mp accepted
            -- The innermost list is kept with its latest element first.
            have reads := Reads.closing accepts innermost.reverse
            rw [List.reverse_reverse] at reads
            exact ⟨.closing, .closing, reads⟩
      · rintro ⟨mark, denotes, reads⟩
        cases denotes
        cases reads with
        | closing accepts items => simp [accept, add_eq_put accepts]
  | quotedAtom isBody =>
      rw [accept, bind_eq_ok]
      constructor
      · rintro ⟨content, unquoted, added⟩
        exact ⟨_, .quotedAtom ((unquote_eq_ok_iff isBody).mp unquoted),
          reads_leaf_iff.mpr (add_eq_ok_iff.mp added)⟩
      · rintro ⟨mark, denotes, reads⟩
        cases denotes with
        | quotedAtom spells =>
            exact ⟨_, (unquote_eq_ok_iff isBody).mpr spells,
              add_eq_ok_iff.mpr (reads_leaf_iff.mp reads)⟩
  | quotedText isBody =>
      rw [accept, bind_eq_ok]
      constructor
      · rintro ⟨content, unquoted, added⟩
        exact ⟨_, .quotedText ((unquote_eq_ok_iff isBody).mp unquoted),
          reads_leaf_iff.mpr (add_eq_ok_iff.mp added)⟩
      · rintro ⟨mark, denotes, reads⟩
        cases denotes with
        | quotedText spells =>
            exact ⟨_, (unquote_eq_ok_iff isBody).mpr spells,
              add_eq_ok_iff.mpr (reads_leaf_iff.mp reads)⟩
  | bare => simp [accept, add_eq_ok_iff, denotes_bare_iff, reads_leaf_iff]

/-- The tokens of a text are taken exactly as the marks they stand for. -/
theorem takeAll_eq_ok_iff {chars : List Char} {tokens : List Token} (splits : Splits chars tokens)
    {state last : ReadState} :
    state.takeAll tokens = .ok last ↔
      ∃ marks, List.Forall₂ Denotes tokens marks ∧ ReadsAll state marks last := by
  induction splits generalizing state with
  | nil =>
      constructor
      · rintro ⟨⟩
        exact ⟨[], .nil, .nil _⟩
      · rintro ⟨marks, denotes, reads⟩
        cases denotes
        cases reads
        rfl
  | blanks _ _ _ ih => exact ih
  | token starts _ ih =>
      rw [takeAll_cons, bind_eq_ok]
      constructor
      · rintro ⟨next, accepted, taken⟩
        obtain ⟨mark, denotes, reads⟩ :=
          (accept_eq_ok_iff starts 0).mp (outcome_eq_ok_iff.mp accepted)
        obtain ⟨marks, others, readsOthers⟩ := ih.mp taken
        exact ⟨mark :: marks, .cons denotes others, .cons reads readsOthers⟩
      · rintro ⟨marks, denotes, reads⟩
        cases denotes with
        | cons denotes others =>
            cases reads with
            | cons reads readsOthers =>
                have accepted := (accept_eq_ok_iff starts 0).mpr ⟨_, denotes, reads⟩
                exact ⟨_, outcome_eq_ok_iff.mpr accepted, ih.mpr ⟨_, others, readsOthers⟩⟩

end ReadState

mutual
theorem marksOnto_eq : (value : Sexp) → ∀ after : List Mark,
    value.marksOnto after = value.marks ++ after
  | .atom _, _ | .int _, _ | .text _, _ | .foreign _, _ => rfl
  | .seq items, after => by
      simp [marks, marksOnto, itemMarksOnto_eq items]
theorem itemMarksOnto_eq : (items : List Sexp) → ∀ after : List Mark,
    itemMarksOnto items after = items.flatMap marks ++ after
  | [], _ => rfl
  | item :: items, after => by
      simp [itemMarksOnto, marksOnto_eq item, itemMarksOnto_eq items]
end

@[simp] theorem marks_seq (items : List Sexp) :
    (Sexp.seq items).marks = .opening :: (items.flatMap marks ++ [.closing]) := by
  rw [marks, marksOnto, itemMarksOnto_eq]

theorem marks_of_isSeq {value : Sexp} (noSeq : value.isSeq = false) :
    value.marks = [.leaf value] := by
  cases value <;> simp_all [marks, marksOnto, isSeq]

namespace ReadState

/-- The marks behind a state: those of the finished value, then those of each open list, the
outermost first. -/
def laidOut (state : ReadState) : List Mark :=
  (state.result.map marks).getD [] ++
    state.openLists.reverse.flatMap fun items => .opening :: items.reverse.flatMap marks

theorem laidOut_put {state : ReadState} (accepts : state.Accepts) (value : Sexp) :
    (state.put value).laidOut = state.laidOut ++ value.marks := by
  obtain ⟨openLists, result⟩ := state
  cases openLists with
  | nil =>
      obtain rfl : result = none := accepts.resolve_left (by simp)
      simp [put, laidOut]
  | cons innermost outer => simp [put, laidOut]

theorem Reads.laidOut_eq {state next : ReadState} {mark : Mark} (reads : Reads state mark next)
    (single : ∀ value, mark = .leaf value → value.isSeq = false) :
    next.laidOut = state.laidOut ++ [mark] := by
  cases reads with
  | opening => simp [laidOut]
  | closing accepts items =>
      rw [laidOut_put accepts]
      simp [laidOut]
  | leaf accepts value => rw [laidOut_put accepts, marks_of_isSeq (single value rfl)]

theorem ReadsAll.laidOut_eq {state last : ReadState} {marks : List Mark}
    (reads : ReadsAll state marks last)
    (single : ∀ value, Mark.leaf value ∈ marks → value.isSeq = false) :
    last.laidOut = state.laidOut ++ marks := by
  induction reads with
  | nil => simp
  | @cons state next last mark marks reads rest ih =>
      rw [ih fun value member => single value (by simp [member]),
        reads.laidOut_eq fun value same => single value (by simp [same])]
      simp

theorem ReadsAll.append {state middle last : ReadState} {firsts seconds : List Mark}
    (reads : ReadsAll state firsts middle) (rest : ReadsAll middle seconds last) :
    ReadsAll state (firsts ++ seconds) last := by
  induction reads with
  | nil => exact rest
  | cons first _ ih => exact .cons first (ih rest)

theorem ReadsAll.of_leaf {state : ReadState} (accepts : state.Accepts) {value : Sexp}
    (noSeq : value.isSeq = false) : ReadsAll state value.marks (state.put value) := by
  rw [marks_of_isSeq noSeq]
  exact .cons (.leaf accepts value) (.nil _)

mutual
theorem readsAll_marks : (value : Sexp) → ∀ state : ReadState, state.Accepts →
    ReadsAll state value.marks (state.put value)
  | .atom _, _, accepts | .int _, _, accepts | .text _, _, accepts | .foreign _, _, accepts =>
      .of_leaf accepts rfl
  | .seq items, state, accepts => by
      have elements := readsAll_items items [] state.openLists state.result
      rw [List.append_nil] at elements
      rw [marks_seq]
      exact .cons (.opening state) (elements.append (.cons (.closing accepts items) (.nil _)))
theorem readsAll_items : (items : List Sexp) → ∀ (innermost : List Sexp)
    (outer : List (List Sexp)) (result : Option Sexp),
    ReadsAll ⟨innermost :: outer, result⟩ (items.flatMap marks)
      ⟨(items.reverse ++ innermost) :: outer, result⟩
  | [], _, _, _ => .nil _
  | item :: items, innermost, outer, result => by
      have first := readsAll_marks item ⟨innermost :: outer, result⟩ (.inl (by simp))
      have others := readsAll_items items (item :: innermost) outer result
      rw [List.flatMap_cons, List.reverse_cons, List.append_assoc]
      exact first.append others
end

theorem verdict_nil_eq_ok_iff {state : ReadState} {value : Sexp} :
    state.verdict [] = .ok value ↔ state = { result := some value } := by
  obtain ⟨openLists, result⟩ := state
  rw [verdict, readFrom_nil]
  cases openLists <;> cases result <;> simp [finish]

/-- The marks of a text that splits bring the reader to a value exactly if they are the marks
of that value. -/
theorem readsAll_iff {tokens : List Token} {marks : List Mark}
    (denotes : List.Forall₂ Denotes tokens marks) {value : Sexp} :
    ReadsAll {} marks { result := some value } ↔ marks = value.marks := by
  have single : ∀ leaf, Mark.leaf leaf ∈ marks → leaf.isSeq = false := by
    intro leaf member
    obtain ⟨token, isLeaf⟩ := exists_denotes denotes member
    exact isLeaf.leaf.1
  constructor
  · intro reads
    have laid := reads.laidOut_eq single
    simpa [laidOut, eq_comm] using laid
  · rintro rfl
    exact readsAll_marks value {} (.inr rfl)

/-- A text that splits is read as a value exactly if its tokens stand for the marks of that
value. -/
theorem verdict_eq_ok_iff {chars : List Char} {tokens : List Token} (splits : Splits chars tokens)
    {value : Sexp} :
    verdict {} chars = .ok value ↔ List.Forall₂ Denotes tokens value.marks := by
  rw [verdict_splits splits, bind_eq_ok]
  constructor
  · rintro ⟨last, tookAll, settled⟩
    obtain rfl := verdict_nil_eq_ok_iff.mp settled
    obtain ⟨marks, denotes, reads⟩ := (takeAll_eq_ok_iff splits).mp tookAll
    rwa [(readsAll_iff denotes).mp reads] at denotes
  · intro denotes
    have reads := (readsAll_iff denotes).mpr rfl
    exact ⟨_, (takeAll_eq_ok_iff splits).mpr ⟨_, denotes, reads⟩, verdict_nil_eq_ok_iff.mpr rfl⟩

end ReadState

/-- A text is read as a value exactly if it splits into tokens that stand for the marks of the
value. -/
theorem read_eq_ok_iff {text : String} {value : Sexp} :
    read text = .ok value ↔
      ∃ tokens, Splits text.toList tokens ∧ List.Forall₂ Denotes tokens value.marks := by
  have judged : read text = .ok value ↔ ReadState.verdict {} text.toList = .ok value :=
    outcome_eq_ok_iff.symm
  constructor
  · intro found
    obtain ⟨tokens, splits⟩ := exists_splits found
    exact ⟨tokens, splits, (ReadState.verdict_eq_ok_iff splits).mp (judged.mp found)⟩
  · rintro ⟨tokens, splits, denotes⟩
    exact judged.mpr ((ReadState.verdict_eq_ok_iff splits).mpr denotes)

mutual
theorem isComplete_of_marks : (value : Sexp) →
    (∀ leaf, Mark.leaf leaf ∈ value.marks → leaf.isComplete = true) → value.isComplete = true
  | .atom _, _ | .int _, _ | .text _, _ => rfl
  | .foreign what, leaves => leaves (.foreign what) (by simp [marks, marksOnto])
  | .seq items, leaves => by
      rw [isComplete]
      exact itemsComplete_of_marks items fun leaf member => leaves leaf (by simp [member])
theorem itemsComplete_of_marks : (items : List Sexp) →
    (∀ leaf, Mark.leaf leaf ∈ items.flatMap marks → leaf.isComplete = true) →
      itemsComplete items = true
  | [], _ => rfl
  | item :: items, leaves => by
      rw [itemsComplete, Bool.and_eq_true]
      exact ⟨isComplete_of_marks item fun leaf member => leaves leaf (by simp [member]),
        itemsComplete_of_marks items fun leaf member => leaves leaf (by
          rw [List.flatMap_cons]
          exact List.mem_append_right _ member)⟩
end

theorem isComplete_of_read {text : String} {value : Sexp} (found : read text = .ok value) :
    value.isComplete = true := by
  obtain ⟨tokens, -, denotes⟩ := read_eq_ok_iff.mp found
  refine isComplete_of_marks value fun leaf member => ?_
  obtain ⟨token, isLeaf⟩ := exists_denotes denotes member
  exact isLeaf.leaf.2

end Sexp

end NodeForms
