import NodeForms.Sexp.Printer

/-!
# Written texts by recursion

The printer keeps a stack of what is left to write. Here the texts it writes are described
by recursion over the value instead, and each stack is shown to write, one after the other,
what the recursion gives for its pieces. The recursion is what further statements about
written texts go by.
-/

namespace NodeForms

namespace Sexp

mutual
def flatText : Sexp → String
  | .seq items => "(" ++ flatItems items ++ ")"
  | scalar => scalarText scalar
/-- The compact texts of elements with single spaces between them. -/
def flatItems : List Sexp → String
  | [] => ""
  | item :: items => flatText item ++ flatRest items
/-- The compact texts of elements, each after a space. -/
def flatRest : List Sexp → String
  | [] => ""
  | item :: items => " " ++ (flatText item ++ flatRest items)
end

theorem flatText_scalar {value : Sexp} (noSeq : ∀ items, value = .seq items → False) :
    flatText value = scalarText value := by
  cases value with
  | seq items => exact (noSeq items rfl).elim
  | _ => rfl

/-- The text of one piece of a stack. -/
def Piece.text : Piece → String
  | .word ready => ready
  | .value form => flatText form

def stackText : List Piece → String
  | [] => ""
  | piece :: pieces => piece.text ++ stackText pieces

theorem stackText_append (first second : List Piece) :
    stackText (first ++ second) = stackText first ++ stackText second := by
  induction first with
  | nil => simp [stackText]
  | cons piece pieces ih => simp [stackText, ih, String.append_assoc]

theorem stackText_spacedItems (items : List Sexp) :
    stackText (spacedItems items) = flatRest items := by
  induction items with
  | nil => rfl
  | cons item items ih =>
      simp only [spacedItems, List.flatMap_cons, stackText_append] at ih ⊢
      rw [ih]
      simp [stackText, Piece.text, flatRest, String.append_assoc]

theorem stackText_openedSeq (items : List Sexp) :
    stackText (openedSeq items) = flatText (.seq items) := by
  cases items with
  | nil => rfl
  | cons item items =>
      simp [openedSeq, stackText, stackText_append, stackText_spacedItems, Piece.text, flatText,
        flatItems, String.append_assoc]

theorem writeCompact_eq (out : String) (pieces : List Piece) :
    writeCompact out pieces = out ++ stackText pieces := by
  induction out, pieces using writeCompact.induct with
  | case1 out => simp [writeCompact, stackText]
  | case2 out ready rest ih =>
      rw [writeCompact, ih, stackText, Piece.text, String.append_assoc]
  | case3 out items rest ih =>
      rw [writeCompact, ih, stackText_append, stackText_openedSeq, stackText, Piece.text]
  | case4 out scalar rest noSeq ih =>
      rw [writeCompact.eq_4 out scalar rest noSeq, ih, stackText, Piece.text,
        flatText_scalar noSeq, String.append_assoc]

theorem compact_eq_flatText (value : Sexp) : value.compact = flatText value := by
  simp [compact, writeCompact_eq, stackText, Piece.text]

theorem compact_scalar {value : Sexp} (noSeq : value.isSeq = false) :
    value.compact = scalarText value := by
  rw [compact_eq_flatText]
  refine flatText_scalar fun items same => ?_
  simp [same, isSeq] at noSeq

theorem flatRest_eq_intercalate (item : Sexp) (items : List Sexp) :
    flatText item ++ flatRest items = " ".intercalate ((item :: items).map compact) := by
  induction items generalizing item with
  | nil => simp [flatRest, compact_eq_flatText]
  | cons next items ih =>
      rw [flatRest, ih next]
      simp [String.intercalate_cons_cons, compact_eq_flatText, String.append_assoc]

theorem compact_seq (items : List Sexp) :
    compact (.seq items) = "(" ++ " ".intercalate (items.map compact) ++ ")" := by
  rw [compact_eq_flatText, flatText]
  cases items with
  | nil => rfl
  | cons item items => rw [flatItems, flatRest_eq_intercalate]

theorem toList_flatText_cons (item : Sexp) (items : List Sexp) :
    (flatText (.seq (item :: items))).toList =
      '(' :: ((flatText item).toList ++ ((flatRest items).toList ++ [')'])) := by
  simp [flatText, flatItems]

theorem toList_flatRest_cons (item : Sexp) (items : List Sexp) :
    (flatRest (item :: items)).toList =
      " ".toList ++ ((flatText item).toList ++ (flatRest items).toList) := by
  simp [flatRest]

/-- Whether a value stays on one line at a level of nesting, going by its compact text. -/
def LayoutOptions.fitsLine (options : LayoutOptions) (value : Sexp) (level : Nat) : Bool :=
  decide (value.items.length < 2)
    || decide (level * options.indent + value.compact.length ≤ options.width)

mutual
/-- The pretty text of a value at a level of nesting: its compact text if it fits the line,
otherwise its first element after the parenthesis and the others on lines of their own, one
level deeper. -/
def laidOut (options : LayoutOptions) (level : Nat) : Sexp → String
  | .seq (item :: items) =>
      if options.fitsLine (.seq (item :: items)) level then compact (.seq (item :: items))
      else
        "(" ++ (laidOut options (level + 1) item ++ laidOutRest options (level + 1) items) ++ ")"
  | value => compact value
/-- The pretty texts of elements, each on a line of its own. -/
def laidOutRest (options : LayoutOptions) (level : Nat) : List Sexp → String
  | [] => ""
  | item :: items =>
      options.lineStart level ++ (laidOut options level item ++ laidOutRest options level items)
end

theorem laidOut_of_fitsLine {options : LayoutOptions} {value : Sexp} {level : Nat}
    (fits : options.fitsLine value level = true) :
    laidOut options level value = value.compact := by
  cases value with
  | seq items =>
      cases items with
      | nil => rfl
      | cons item items => rw [laidOut, if_pos fits]
  | _ => rfl

theorem laidOut_of_not_fitsLine {options : LayoutOptions} {item : Sexp} {items : List Sexp}
    {level : Nat} (breaks : ¬ options.fitsLine (.seq (item :: items)) level = true) :
    laidOut options level (.seq (item :: items)) =
      "(" ++ (laidOut options (level + 1) item ++ laidOutRest options (level + 1) items) ++
        ")" := by
  rw [laidOut, if_neg breaks]

theorem toList_laidOut_cons {options : LayoutOptions} {level : Nat} {item : Sexp}
    {items : List Sexp} (breaks : ¬ options.fitsLine (.seq (item :: items)) level = true) :
    (laidOut options level (.seq (item :: items))).toList =
      '(' :: ((laidOut options (level + 1) item).toList ++
        ((laidOutRest options (level + 1) items).toList ++ [')'])) := by
  rw [laidOut_of_not_fitsLine breaks]
  simp

theorem toList_laidOutRest_cons (options : LayoutOptions) (level : Nat) (item : Sexp)
    (items : List Sexp) :
    (laidOutRest options level (item :: items)).toList =
      (options.lineStart level).toList ++
        ((laidOut options level item).toList ++ (laidOutRest options level items).toList) := by
  simp [laidOutRest]

theorem digits_integerChars (value : Int) :
    (integerChars value).filter Char.isDigit = Nat.toDigits 10 value.natAbs := by
  have all (number : Nat) : (Nat.toDigits 10 number).filter Char.isDigit = Nat.toDigits 10 number :=
    List.filter_eq_self.mpr fun _ member =>
      Nat.isDigit_of_mem_toDigits (by decide) (by decide) member
  cases value with
  | ofNat number => exact all number
  | negSucc number =>
      rw [integerChars, List.filter_cons_of_neg (by decide), all]
      rfl

/-- No integer in a value has more digits than a limit. -/
def IntegersFit (limit : Option Nat) (value : Sexp) : Prop :=
  ∀ most ∈ limit, ∀ number : Int, .int number ∈ value.scalars →
    (Nat.toDigits 10 number.natAbs).length ≤ most

theorem integersFit_none (value : Sexp) : value.IntegersFit none := nofun

theorem integersFit_iff {limit : Option Nat} {value : Sexp} :
    value.IntegersFit limit ↔ ∀ number : Int, .int number ∈ value.scalars →
      exceedsDigits limit (integerChars number) = false := by
  cases limit with
  | none => simp [IntegersFit, exceedsDigits]
  | some most => simp [IntegersFit, exceedsDigits, digits_integerChars]

/-- A value in which nothing but the digits of an integer can keep the writer from its text. -/
def IsClear (value : Sexp) : Prop :=
  ∀ scalar ∈ value.scalars, scalar.writeFault? none = none ∧ scalar.measureFault? none = none

theorem faults_of_clear {scalar : Sexp}
    (clear : scalar.writeFault? none = none ∧ scalar.measureFault? none = none)
    (limit : Option Nat) :
    scalar.measureFault? limit = scalar.writeFault? limit ∧
      (scalar.writeFault? limit = none ∨ scalar.writeFault? limit = some .tooManyDigits) ∧
      (scalar.writeFault? limit = some .tooManyDigits ↔
        ∃ number, scalar = .int number ∧ exceedsDigits limit (integerChars number) = true) := by
  cases scalar with
  | int number =>
      refine ⟨rfl, ?_⟩
      cases exceeds : exceedsDigits limit (integerChars number) <;> simp [writeFault?, exceeds]
  | foreign what => cases what <;> simp_all [writeFault?, measureFault?]
  | _ => simp [writeFault?, measureFault?]

theorem exists_mem_of_mem_itemScalars {items : List Sexp} {scalar : Sexp}
    (isScalar : scalar ∈ itemScalars items) : ∃ item ∈ items, scalar ∈ item.scalars := by
  induction items with
  | nil => cases isScalar
  | cons item items ih =>
      rcases List.mem_append.mp isScalar with first | later
      · exact ⟨item, List.mem_cons_self, first⟩
      · obtain ⟨other, isItem, inside⟩ := ih later
        exact ⟨other, List.mem_cons_of_mem _ isItem, inside⟩

mutual
theorem mem_scalars_of_measured {scalar : Sexp} :
    (value : Sexp) → scalar ∈ value.measured → scalar ∈ value.scalars
  | .atom _, member | .int _, member | .text _, member | .foreign _, member => by
      simp [measured] at member
  | .seq items, member => by
      rw [measured, List.mem_append, List.mem_filter] at member
      rcases member with inner | ⟨isItem, noSeq⟩
      · exact mem_itemScalars_of_measured items inner
      · exact mem_itemScalars_of_mem items isItem (by simpa using noSeq)
theorem mem_itemScalars_of_measured {scalar : Sexp} :
    (items : List Sexp) → scalar ∈ itemsMeasured items → scalar ∈ itemScalars items
  | [], member => by simp [itemsMeasured] at member
  | item :: items, member => by
      rw [itemsMeasured, List.mem_append] at member
      rw [itemScalars, List.mem_append]
      exact member.symm.imp (mem_scalars_of_measured item) (mem_itemScalars_of_measured items)
theorem mem_itemScalars_of_mem {scalar : Sexp} : (items : List Sexp) → scalar ∈ items →
    scalar.isSeq = false → scalar ∈ itemScalars items
  | item :: items, member, noSeq => by
      rw [itemScalars, List.mem_append]
      rcases List.mem_cons.mp member with rfl | later
      · left
        cases scalar with
        | seq => cases noSeq
        | _ => simp [scalars]
      · exact .inr (mem_itemScalars_of_mem items later noSeq)
end

theorem findSome?_of_clear {scalars : List Sexp} {fault? : Sexp → Option WriteFault}
    (clear : ∀ scalar ∈ scalars, fault? scalar = none ∨ fault? scalar = some .tooManyDigits) :
    scalars.findSome? fault? = none ∨ scalars.findSome? fault? = some .tooManyDigits := by
  cases found : scalars.findSome? fault? with
  | none => exact .inl rfl
  | some fault =>
      obtain ⟨scalar, isScalar, fails⟩ := List.exists_of_findSome?_eq_some found
      rcases clear scalar isScalar with none | tooMany
      · rw [none] at fails
        cases fails
      · exact .inr (fails.symm.trans tooMany)

namespace IsClear

variable {value : Sexp}

theorem integersFit_iff_findSome? (clear : value.IsClear) {limit : Option Nat} :
    value.IntegersFit limit ↔ value.scalars.findSome? (writeFault? limit) = none := by
  rw [integersFit_iff, List.findSome?_eq_none_iff]
  constructor
  · intro fits scalar isScalar
    have faults := (faults_of_clear (clear scalar isScalar) limit).2
    refine faults.1.resolve_right fun fails => ?_
    obtain ⟨number, rfl, exceeds⟩ := faults.2.mp fails
    rw [fits number isScalar] at exceeds
    cases exceeds
  · intro written number isScalar
    have noFault := written _ isScalar
    cases exceeds : exceedsDigits limit (integerChars number) with
    | false => rfl
    | true => simp [writeFault?, exceeds] at noFault

/-- A clear value has no fault in any layout if its integers fit the limit, and else the one that
there are too many digits. -/
theorem firstFault?_eq (clear : value.IsClear) (limit : Option Nat)
    (layout : Option LayoutOptions) :
    (value.IntegersFit limit → value.firstFault? limit layout = none) ∧
      (¬value.IntegersFit limit → value.firstFault? limit layout = some .tooManyDigits) := by
  have written := findSome?_of_clear fun scalar isScalar =>
    (faults_of_clear (clear scalar isScalar) limit).2.1
  have measured {scalar : Sexp} (isMeasured : scalar ∈ value.measured) :=
    faults_of_clear (clear scalar (mem_scalars_of_measured value isMeasured)) limit
  rw [clear.integersFit_iff_findSome?]
  cases layout with
  | none => exact ⟨id, written.resolve_left⟩
  | some options =>
      dsimp only [firstFault?]
      constructor
      · intro noFault
        have noneMeasured : value.measured.findSome? (measureFault? limit) = none := by
          rw [List.findSome?_eq_none_iff] at noFault ⊢
          intro scalar isMeasured
          rw [(measured isMeasured).1]
          exact noFault scalar (mem_scalars_of_measured value isMeasured)
        rw [noneMeasured, noFault]
        rfl
      · intro someFault
        have clearMeasured : ∀ scalar ∈ value.measured, scalar.measureFault? limit = none ∨
            scalar.measureFault? limit = some .tooManyDigits := by
          intro scalar isMeasured
          rw [(measured isMeasured).1]
          exact (measured isMeasured).2.1
        rw [written.resolve_left someFault]
        rcases findSome?_of_clear clearMeasured with noFault | tooMany
        · rw [noFault]
          rfl
        · rw [tooMany]
          rfl

/-- A clear value is written in every layout if its integers fit the limit, and else it has too
many digits. -/
theorem writeWithin_eq (clear : value.IsClear) (limit : Option Nat)
    (layout : Option LayoutOptions) :
    (value.IntegersFit limit → value.writeWithin limit layout = .ok (value.render layout)) ∧
      (¬value.IntegersFit limit → value.writeWithin limit layout = .error .tooManyDigits) := by
  have faults := clear.firstFault?_eq limit layout
  constructor
  · intro fits
    rw [writeWithin, faults.1 fits]
  · intro tooMany
    rw [writeWithin, faults.2 tooMany]

theorem write_eq (clear : value.IsClear) (layout : Option LayoutOptions) :
    value.write layout = .ok (value.render layout) :=
  (clear.writeWithin_eq none layout).1 value.integersFit_none

end IsClear

mutual
theorem isComplete_of_mem_scalars {scalar : Sexp} :
    (value : Sexp) → value.isComplete = true → scalar ∈ value.scalars → scalar.isComplete = true
  | .atom _, _, member | .int _, _, member | .text _, _, member => by
      obtain rfl := List.mem_singleton.mp member
      rfl
  | .foreign _, complete, _ => by simp [isComplete] at complete
  | .seq items, complete, member => isComplete_of_mem_itemScalars items complete member
theorem isComplete_of_mem_itemScalars {scalar : Sexp} :
    (items : List Sexp) → itemsComplete items = true → scalar ∈ itemScalars items →
      scalar.isComplete = true
  | item :: items, complete, member => by
      rw [itemsComplete, Bool.and_eq_true] at complete
      rcases List.mem_append.mp member with first | later
      · exact isComplete_of_mem_scalars item complete.1 first
      · exact isComplete_of_mem_itemScalars items complete.2 later
end

theorem isClear_of_isComplete {value : Sexp} (complete : value.isComplete = true) :
    value.IsClear := by
  intro scalar isScalar
  have noForeign := isComplete_of_mem_scalars value complete isScalar
  cases scalar with
  | foreign what => cases noForeign
  | _ => exact ⟨rfl, rfl⟩

theorem write_of_isComplete {value : Sexp} (complete : value.isComplete = true)
    (layout : Option LayoutOptions) : value.write layout = .ok (value.render layout) :=
  (isClear_of_isComplete complete).write_eq layout

end Sexp

end NodeForms
