import NodeForms.Proofs.Sexp.RoundTrip

/-!
# Columns of written lists

Where a list stands in a text is said by the notation alone: a spelling of a value is made of
spellings of its elements, and it is made of them in one way only. So the columns at which
lists end are a property of the text, whatever writer it comes from. In the pretty form an
element stands no further to the right than its level of nesting asks for, which is what
makes the decision by level and width keep lists within the width.
-/

namespace NodeForms

namespace Sexp

/-- A list that stands in a text. -/
structure Stretch where
  around : List (List Sexp)
  items : List Sexp
  before : List Char
  body : List Char

namespace Stretch

/-- A stretch of a text, in that text with some more characters in front. -/
def behind (stretch : Stretch) (front : List Char) : Stretch :=
  { stretch with before := front ++ stretch.before }

def inside (stretch : Stretch) (list : List Sexp) : Stretch :=
  { stretch with around := list :: stretch.around }

end Stretch

mutual
/-- Where lists stand in a spelling of a value. -/
inductive Stands : Sexp → List Char → Stretch → Prop
  | whole {items : List Sexp} {chars : List Char} (spelled : Spelled (.seq items) chars) :
      Stands (.seq items) chars ⟨[], items, [], chars⟩
  | first {item : Sexp} {items : List Sexp} {chars others : List Char} {stretch : Stretch}
      (first : Spelled item chars) (rest : SpelledRest items others)
      (stands : Stands item chars stretch) :
      Stands (.seq (item :: items)) ('(' :: (chars ++ (others ++ [')'])))
        ((stretch.behind ['(']).inside (item :: items))
  | further {item : Sexp} {items : List Sexp} {chars others : List Char} {stretch : Stretch}
      (first : Spelled item chars) (rest : SpelledRest items others)
      (stands : StandsRest items others stretch) :
      Stands (.seq (item :: items)) ('(' :: (chars ++ (others ++ [')'])))
        ((stretch.behind ('(' :: chars)).inside (item :: items))
/-- Where lists stand in a spelling of the further elements of a list. -/
inductive StandsRest : List Sexp → List Char → Stretch → Prop
  | here {item : Sexp} {items : List Sexp} {gap chars others : List Char} {stretch : Stretch}
      (apart : IsGap gap) (first : Spelled item chars) (stands : Stands item chars stretch) :
      StandsRest (item :: items) (gap ++ (chars ++ others)) (stretch.behind gap)
  | further {item : Sexp} {items : List Sexp} {gap chars others : List Char} {stretch : Stretch}
      (apart : IsGap gap) (first : Spelled item chars) (stands : StandsRest items others stretch) :
      StandsRest (item :: items) (gap ++ (chars ++ others)) (stretch.behind (gap ++ chars))
end

mutual
theorem Stands.exists_after : {value : Sexp} → {chars : List Char} → {stretch : Stretch} →
    Stands value chars stretch → ∃ after, chars = stretch.before ++ (stretch.body ++ after)
  | _, _, _, .whole _ => ⟨[], by simp⟩
  | _, _, _, @Stands.first item items chars others stretch _ _ stands => by
      obtain ⟨after, split⟩ := stands.exists_after
      exact ⟨after ++ (others ++ [')']), by
        simp [Stretch.inside, Stretch.behind, split, List.append_assoc]⟩
  | _, _, _, @Stands.further item items chars others stretch _ _ stands => by
      obtain ⟨after, split⟩ := stands.exists_after
      exact ⟨after ++ [')'], by simp [Stretch.inside, Stretch.behind, split, List.append_assoc]⟩
theorem StandsRest.exists_after : {items : List Sexp} → {chars : List Char} →
    {stretch : Stretch} → StandsRest items chars stretch →
      ∃ after, chars = stretch.before ++ (stretch.body ++ after)
  | _, _, _, @StandsRest.here item items gap chars others stretch _ _ stands => by
      obtain ⟨after, split⟩ := stands.exists_after
      exact ⟨after ++ others, by simp [Stretch.behind, split, List.append_assoc]⟩
  | _, _, _, @StandsRest.further item items gap chars others stretch _ _ stands => by
      obtain ⟨after, split⟩ := stands.exists_after
      exact ⟨after, by simp [Stretch.behind, split, List.append_assoc]⟩
end

mutual
theorem Stands.spelled : {value : Sexp} → {chars : List Char} → {stretch : Stretch} →
    Stands value chars stretch → Spelled (.seq stretch.items) stretch.body
  | _, _, _, .whole spelled => spelled
  | _, _, _, .first _ _ stands => stands.spelled
  | _, _, _, .further _ _ stands => stands.spelled
theorem StandsRest.spelled : {items : List Sexp} → {chars : List Char} → {stretch : Stretch} →
    StandsRest items chars stretch → Spelled (.seq stretch.items) stretch.body
  | _, _, _, .here _ _ stands => stands.spelled
  | _, _, _, .further _ _ stands => stands.spelled
end

mutual
/-- The lists in a value, each before those in it. -/
def listsIn : Sexp → List (List Sexp)
  | .seq items => items :: itemListsIn items
  | _ => []
def itemListsIn : List Sexp → List (List Sexp)
  | [] => []
  | item :: items => listsIn item ++ itemListsIn items
end

mutual
theorem exists_stands : {value : Sexp} → {chars : List Char} → Spelled value chars →
    ∀ list ∈ value.listsIn, ∃ stretch, Stands value chars stretch ∧ stretch.items = list
  | value, _, .scalar noSeq _, list, member => by
      cases value with
      | seq items => simp [isSeq] at noSeq
      | _ => simp [listsIn] at member
  | _, _, .empty, list, member => by
      obtain rfl : list = [] := by simpa [listsIn, itemListsIn] using member
      exact ⟨_, .whole .empty, rfl⟩
  | _, _, .seq first rest, list, member => by
      rw [listsIn, itemListsIn, List.mem_cons, List.mem_append] at member
      obtain rfl | inFirst | inRest := member
      · exact ⟨_, .whole (.seq first rest), rfl⟩
      · obtain ⟨stretch, stands, rfl⟩ := exists_stands first list inFirst
        exact ⟨_, .first first rest stands, rfl⟩
      · obtain ⟨stretch, stands, rfl⟩ := exists_standsRest rest list inRest
        exact ⟨_, .further first rest stands, rfl⟩
theorem exists_standsRest : {items : List Sexp} → {chars : List Char} →
    SpelledRest items chars → ∀ list ∈ itemListsIn items,
      ∃ stretch, StandsRest items chars stretch ∧ stretch.items = list
  | _, _, .nil, list, member => by simp [itemListsIn] at member
  | _, _, .cons apart first rest, list, member => by
      rw [itemListsIn, List.mem_append] at member
      obtain inFirst | inRest := member
      · obtain ⟨stretch, stands, rfl⟩ := exists_stands first list inFirst
        exact ⟨_, .here apart first stands, rfl⟩
      · obtain ⟨stretch, stands, rfl⟩ := exists_standsRest rest list inRest
        exact ⟨_, .further apart first stands, rfl⟩
end

mutual
theorem Spelled.isComplete : {value : Sexp} → {chars : List Char} → Spelled value chars →
    value.isComplete = true
  | _, _, .scalar _ complete => complete
  | _, _, .empty => rfl
  | _, _, .seq first rest => by
      rw [Sexp.isComplete, itemsComplete, first.isComplete, rest.itemsComplete]
      rfl
theorem SpelledRest.itemsComplete : {items : List Sexp} → {chars : List Char} →
    SpelledRest items chars → Sexp.itemsComplete items = true
  | _, _, .nil => rfl
  | _, _, .cons _ first rest => by
      rw [Sexp.itemsComplete, first.isComplete, rest.itemsComplete]
      rfl
end

theorem Spelled.exists_first {value : Sexp} {chars : List Char} (spelled : Spelled value chars) :
    ∃ first rest, chars = first :: rest ∧ isBlank first = false := by
  cases spelled with
  | scalar noSeq complete =>
      obtain ⟨first, rest, same, noBlank, -⟩ := next?_scalarToken noSeq complete
      exact ⟨first, rest, (toList_scalarText noSeq complete).trans same, noBlank⟩
  | empty => exact ⟨'(', _, rfl, by decide⟩
  | seq first rest => exact ⟨'(', _, rfl, by decide⟩

theorem gap_unique {first second : Sexp} {gap gap' chars chars' after after' : List Char}
    (apart : IsGap gap) (apart' : IsGap gap') (spelled : Spelled first chars)
    (spelled' : Spelled second chars')
    (same : gap ++ (chars ++ after) = gap' ++ (chars' ++ after')) :
    gap = gap' ∧ chars ++ after = chars' ++ after' := by
  have taken {run : List Char} (isRun : IsGap run) {value : Sexp} {text : List Char}
      (follows : Spelled value text) (rest : List Char) :
      (run ++ (text ++ rest)).takeWhile isBlank = run := by
    obtain ⟨c, others, rfl, noBlank⟩ := follows.exists_first
    rw [List.takeWhile_append_of_pos isRun.2, List.cons_append,
      List.takeWhile_cons_of_neg (by simp [noBlank]), List.append_nil]
  obtain rfl : gap = gap' := by rw [← taken apart spelled after, same, taken apart' spelled']
  exact ⟨rfl, List.append_cancel_left same⟩

mutual
theorem spelled_unique : {value : Sexp} → {chars chars' after after' : List Char} →
    Spelled value chars → Spelled value chars' → chars ++ after = chars' ++ after' →
      chars = chars'
  | _, _, _, _, _, .scalar noSeq _, spelled', _ => by
      cases spelled' with
      | scalar _ _ => rfl
      | _ => simp [isSeq] at noSeq
  | _, _, _, _, _, .empty, spelled', _ => by
      cases spelled' with
      | scalar noSeq _ => simp [isSeq] at noSeq
      | empty => rfl
  | _, _, _, _, _, .seq first rest, spelled', same => by
      cases spelled' with
      | scalar noSeq _ => simp [isSeq] at noSeq
      | seq first' rest' =>
          simp only [List.cons_append, List.append_assoc, List.cons.injEq, true_and] at same
          obtain rfl := spelled_unique first first' same
          obtain rfl := spelledRest_unique rest rest' (List.append_cancel_left same)
          rfl
theorem spelledRest_unique : {items : List Sexp} → {chars chars' after after' : List Char} →
    SpelledRest items chars → SpelledRest items chars' → chars ++ after = chars' ++ after' →
      chars = chars'
  | _, _, _, _, _, .nil, rest', _ => by
      cases rest'
      rfl
  | _, _, _, _, _, .cons apart first rest, spelled', same => by
      cases spelled' with
      | cons apart' first' rest' =>
          simp only [List.append_assoc] at same
          obtain ⟨rfl, follows⟩ := gap_unique apart apart' first first' same
          obtain rfl := spelled_unique first first' follows
          obtain rfl := spelledRest_unique rest rest' (List.append_cancel_left follows)
          rfl
end

theorem seq_parts_unique {item : Sexp} {chars chars' others others' : List Char}
    (first : Spelled item chars) (first' : Spelled item chars')
    (same : '(' :: (chars ++ (others ++ [')'])) = '(' :: (chars' ++ (others' ++ [')']))) :
    chars = chars' ∧ others = others' := by
  have follows := (List.cons.inj same).2
  obtain rfl := spelled_unique first first' follows
  exact ⟨rfl, List.append_cancel_right (List.append_cancel_left follows)⟩

theorem rest_parts_unique {item : Sexp} {gap gap' chars chars' others others' : List Char}
    (apart : IsGap gap) (apart' : IsGap gap') (first : Spelled item chars)
    (first' : Spelled item chars') (same : gap ++ (chars ++ others) = gap' ++ (chars' ++ others')) :
    gap = gap' ∧ chars = chars' ∧ others = others' := by
  obtain ⟨rfl, follows⟩ := gap_unique apart apart' first first' same
  obtain rfl := spelled_unique first first' follows
  exact ⟨rfl, rfl, List.append_cancel_left follows⟩

/-- The column behind some characters: how many stand behind the last line end. -/
def column (chars : List Char) : Nat := (chars.reverse.takeWhile (· != '\n')).length

theorem column_append {front chars : List Char} (noBreak : '\n' ∉ chars) :
    column (front ++ chars) = column front + chars.length := by
  have all : ∀ c ∈ chars.reverse, (c != '\n') = true := by
    intro c member
    rw [bne_iff_ne]
    rintro rfl
    exact noBreak (List.mem_reverse.mp member)
  rw [column, column, List.reverse_append, List.takeWhile_append_of_pos all, List.length_append,
    List.length_reverse, Nat.add_comm]

theorem column_lineStart (front : List Char) (options : LayoutOptions) (level : Nat) :
    column (front ++ (options.lineStart level).toList) = (level * options.indent).toNat := by
  have noBreak : '\n' ∉ List.replicate (level * options.indent).toNat ' ' := by
    simp [List.mem_replicate]
  have split : front ++ (options.lineStart level).toList =
      (front ++ ['\n']) ++ List.replicate (level * options.indent).toNat ' ' := by
    simp [LayoutOptions.lineStart]
  rw [split, column_append noBreak, List.length_replicate]
  simp [column]

/-- The column at which a stretch ends, its closing parenthesis included. -/
def Stretch.endColumn (stretch : Stretch) : Nat := column (stretch.before ++ stretch.body)

theorem noBreak_of_bare {run : List Char} (bare : ∀ c ∈ run, isBareChar c = true) :
    '\n' ∉ run := by
  intro member
  exact absurd (bare _ member) (by decide)

theorem noBreak_quoteChars (chars : List Char) : '\n' ∉ quoteChars chars := by
  have escaped (c : Char) : '\n' ∉ escapeChar c := by
    unfold escapeChar
    split
    case h_6 c _ _ noBreak _ _ => simpa using Ne.symm noBreak
    all_goals decide
  simp [quoteChars, escaped]

theorem noBreak_scalarText {value : Sexp} (noSeq : value.isSeq = false)
    (complete : value.isComplete = true) : '\n' ∉ (scalarText value).toList := by
  cases value with
  | atom name =>
      rw [scalarText, String.toList_ofList, atomChars]
      split
      · rename_i bare
        simp only [isBareAtom, Bool.and_eq_true, List.all_eq_true] at bare
        exact noBreak_of_bare bare.1.2
      · simp [noBreak_quoteChars]
  | int number =>
      rw [scalarText, integerText, String.toList_ofList]
      exact noBreak_of_bare (isBareChar_of_isIntegerRun (isIntegerRun_integerChars number))
  | text content =>
      rw [scalarText, String.toList_ofList]
      exact noBreak_quoteChars content.toList
  | seq items => simp [isSeq] at noSeq
  | foreign what => simp [isComplete] at complete

mutual
theorem noBreak_flatText : (value : Sexp) → value.isComplete = true →
    '\n' ∉ (flatText value).toList
  | .atom _, complete | .int _, complete | .text _, complete => noBreak_scalarText rfl complete
  | .foreign _, complete => by simp [isComplete] at complete
  | .seq [], _ => by decide
  | .seq (item :: items), complete => by
      rw [isComplete, itemsComplete, Bool.and_eq_true] at complete
      simp [flatText, flatItems, noBreak_flatText item complete.1,
        noBreak_flatRest items complete.2]
theorem noBreak_flatRest : (items : List Sexp) → itemsComplete items = true →
    '\n' ∉ (flatRest items).toList
  | [], _ => by decide
  | item :: items, complete => by
      rw [itemsComplete, Bool.and_eq_true] at complete
      simp [flatRest, noBreak_flatText item complete.1, noBreak_flatRest items complete.2]
end

mutual
theorem Stands.body_eq_flatText : {value : Sexp} → {chars : List Char} → {stretch : Stretch} →
    Stands value chars stretch → value.isComplete = true → chars = (flatText value).toList →
      stretch.body = (flatText (.seq stretch.items)).toList
  | _, _, _, .whole _, _, same => same
  | _, _, _, @Stands.first item items chars others stretch first rest stands, complete, same => by
      rw [isComplete, itemsComplete, Bool.and_eq_true] at complete
      obtain ⟨sameFirst, -⟩ := seq_parts_unique first (spelled_flatText item complete.1)
        (same.trans (toList_flatText_cons item items))
      exact stands.body_eq_flatText complete.1 sameFirst
  | _, _, _, @Stands.further item items chars others stretch first rest stands, complete, same => by
      rw [isComplete, itemsComplete, Bool.and_eq_true] at complete
      obtain ⟨-, sameRest⟩ := seq_parts_unique first (spelled_flatText item complete.1)
        (same.trans (toList_flatText_cons item items))
      exact stands.body_eq_flatText complete.2 sameRest
theorem StandsRest.body_eq_flatText : {items : List Sexp} → {chars : List Char} →
    {stretch : Stretch} → StandsRest items chars stretch → itemsComplete items = true →
      chars = (flatRest items).toList → stretch.body = (flatText (.seq stretch.items)).toList
  | _, _, _, @StandsRest.here item items gap chars others stretch apart first stands, complete,
      same => by
      rw [itemsComplete, Bool.and_eq_true] at complete
      obtain ⟨-, sameFirst, -⟩ := rest_parts_unique apart isGap_space first
        (spelled_flatText item complete.1) (same.trans (toList_flatRest_cons item items))
      exact stands.body_eq_flatText complete.1 sameFirst
  | _, _, _, @StandsRest.further item items gap chars others stretch apart first stands, complete,
      same => by
      rw [itemsComplete, Bool.and_eq_true] at complete
      obtain ⟨-, -, sameRest⟩ := rest_parts_unique apart isGap_space first
        (spelled_flatText item complete.1) (same.trans (toList_flatRest_cons item items))
      exact stands.body_eq_flatText complete.2 sameRest
end

namespace Stretch

/-- Whether a list can be broken: it and all lists around it have at least two elements. -/
def IsBreakable (stretch : Stretch) : Prop :=
  2 ≤ stretch.items.length ∧ ∀ list ∈ stretch.around, 2 ≤ list.length

/-- A list whose compact text does not fit the line at its level of nesting stands with its
elements on lines of their own, the first one excepted. -/
structure IsBroken (options : LayoutOptions) (level : Nat) (stretch : Stretch) : Prop where
  tooWide : options.width <
    (level + stretch.around.length : Nat) * options.indent +
      (compact (.seq stretch.items)).length
  onePerLine : ∃ texts, List.Forall₂ Spelled stretch.items texts ∧
    stretch.body = '(' :: (List.intercalate
      (options.lineStart (level + stretch.around.length + 1)).toList texts ++ [')'])

/-- A list of a text that starts at a level of nesting behind some characters is written
compactly, and then ends in time if it can be broken, or it is broken. -/
def IsSettled (options : LayoutOptions) (level : Nat) (out : List Char) (stretch : Stretch) :
    Prop :=
  (stretch.body = (compact (.seq stretch.items)).toList ∧
      (stretch.IsBreakable → column (out ++ (stretch.before ++ stretch.body)) ≤ options.width)) ∨
    (stretch.IsBreakable ∧ stretch.IsBroken options level)

variable {options : LayoutOptions} {level : Nat} {out : List Char} {stretch : Stretch}

theorem IsSettled.behind {front : List Char}
    (settled : stretch.IsSettled options level (out ++ front)) :
    (stretch.behind front).IsSettled options level out := by
  rw [IsSettled, List.append_assoc] at settled
  obtain ⟨body, ends⟩ | ⟨able, tooWide, onePerLine⟩ := settled
  · refine .inl ⟨body, fun able => ?_⟩
    rw [Stretch.behind, List.append_assoc]
    exact ends able
  · exact .inr ⟨able, tooWide, onePerLine⟩

theorem IsSettled.inside {list : List Sexp} (long : 2 ≤ list.length)
    (settled : stretch.IsSettled options (level + 1) out) :
    (stretch.inside list).IsSettled options level out := by
  have breakable : (stretch.inside list).IsBreakable ↔ stretch.IsBreakable := by
    simp [IsBreakable, Stretch.inside, long]
  have depth : level + (stretch.inside list).around.length =
      level + 1 + stretch.around.length := by
    simp [Stretch.inside]
    omega
  obtain ⟨body, ends⟩ | ⟨able, tooWide, onePerLine⟩ := settled
  · exact .inl ⟨body, fun able => ends (breakable.mp able)⟩
  · exact .inr ⟨breakable.mpr able, by rwa [depth], by rwa [depth]⟩

end Stretch

theorem Stands.two_le_length {value : Sexp} {chars : List Char} {stretch : Stretch}
    (stands : Stands value chars stretch) (breakable : stretch.IsBreakable) :
    2 ≤ value.items.length := by
  cases stands with
  | whole _ => exact breakable.1
  | first _ _ _ => exact breakable.2 _ List.mem_cons_self
  | further _ _ _ => exact breakable.2 _ List.mem_cons_self

theorem Stands.isSettled_of_fitsLine {options : LayoutOptions} {level : Nat} {out : List Char}
    {value : Sexp} {chars : List Char} {stretch : Stretch} (stands : Stands value chars stretch)
    (complete : value.isComplete = true) (same : chars = (laidOut options level value).toList)
    (starts : column out ≤ level * options.indent)
    (fits : options.fitsLine value level = true) : stretch.IsSettled options level out := by
  obtain rfl : chars = (flatText value).toList := by
    rw [same, laidOut_of_fitsLine fits, compact_eq_flatText]
  refine .inl ⟨?_, fun breakable => ?_⟩
  · rw [compact_eq_flatText]
    exact stands.body_eq_flatText complete rfl
  · obtain ⟨after, split⟩ := stands.exists_after
    have noBreak : '\n' ∉ stretch.before ++ stretch.body := by
      intro member
      apply noBreak_flatText value complete
      rw [split, ← List.append_assoc]
      exact List.mem_append_left after member
    have shorter : (stretch.before ++ stretch.body).length ≤ value.compact.length := by
      rw [compact_eq_flatText, ← String.length_toList, split, ← List.append_assoc]
      simp only [List.length_append]
      omega
    have width : level * options.indent + value.compact.length ≤ options.width := by
      have long := stands.two_le_length breakable
      simpa [LayoutOptions.fitsLine, Nat.not_lt.mpr long] using fits
    rw [column_append noBreak]
    push_cast
    omega

theorem laidOutRest_eq_intercalate (options : LayoutOptions) (level : Nat) (item : Sexp)
    (items : List Sexp) :
    (laidOut options level item).toList ++ (laidOutRest options level items).toList =
      List.intercalate (options.lineStart level).toList
        ((item :: items).map fun item => (laidOut options level item).toList) := by
  induction items generalizing item with
  | nil => simp [laidOutRest]
  | cons next items ih =>
      rw [toList_laidOutRest_cons, ih next]
      simp [List.intercalate_cons_cons]

theorem forall₂_spelled_laidOut (options : LayoutOptions) (level : Nat) {items : List Sexp}
    (complete : itemsComplete items = true) :
    List.Forall₂ Spelled items (items.map fun item => (laidOut options level item).toList) := by
  induction items with
  | nil => exact .nil
  | cons item items ih =>
      rw [itemsComplete, Bool.and_eq_true] at complete
      exact .cons (spelled_laidOut options item complete.1 level) (ih complete.2)

theorem isBroken_laidOut {options : LayoutOptions} {level : Nat} {item : Sexp}
    {items : List Sexp} (complete : itemsComplete (item :: items) = true)
    (breaks : ¬ options.fitsLine (.seq (item :: items)) level = true) :
    Stretch.IsBroken options level
      ⟨[], item :: items, [], (laidOut options level (.seq (item :: items))).toList⟩ where
  tooWide := by
    simp [LayoutOptions.fitsLine] at breaks
    simpa using breaks.2
  onePerLine := by
    refine ⟨_, forall₂_spelled_laidOut options (level + 1) complete, ?_⟩
    simp only [toList_laidOut_cons breaks, List.length_nil, Nat.add_zero,
      ← laidOutRest_eq_intercalate, List.append_assoc]

theorem two_le_length_of_not_fitsLine {options : LayoutOptions} {level : Nat} {value : Sexp}
    (breaks : ¬ options.fitsLine value level = true) : 2 ≤ value.items.length := by
  simp [LayoutOptions.fitsLine] at breaks
  exact breaks.1

mutual
/-- Every list in a value is settled that starts no further to the right than its level asks
for: each element of a broken list does so in turn. -/
theorem Stands.isSettled {options : LayoutOptions} (indented : 1 ≤ options.indent) :
    {value : Sexp} → {chars : List Char} → {stretch : Stretch} → Stands value chars stretch →
      ∀ {level : Nat} {out : List Char}, value.isComplete = true →
        chars = (laidOut options level value).toList → column out ≤ level * options.indent →
          stretch.IsSettled options level out
  | _, _, _, @Stands.whole items chars spelled, level, out, complete, same, starts => by
      by_cases fits : options.fitsLine (.seq items) level = true
      · exact (Stands.whole spelled).isSettled_of_fitsLine complete same starts fits
      · have long : 2 ≤ items.length := two_le_length_of_not_fitsLine fits
        obtain ⟨item, others, rfl⟩ := List.exists_cons_of_length_pos (show 0 < items.length by omega)
        subst same
        exact .inr ⟨⟨long, by simp⟩, isBroken_laidOut complete fits⟩
  | _, _, _, @Stands.first item items chars others stretch first rest stands, level, out,
      complete, same, starts => by
      by_cases fits : options.fitsLine (.seq (item :: items)) level = true
      · exact (Stands.first first rest stands).isSettled_of_fitsLine complete same starts fits
      · rw [isComplete, itemsComplete, Bool.and_eq_true] at complete
        obtain ⟨sameFirst, -⟩ := seq_parts_unique first
          (spelled_laidOut options item complete.1 (level + 1))
          (same.trans (toList_laidOut_cons fits))
        refine .inside (two_le_length_of_not_fitsLine fits) (.behind ?_)
        -- The parenthesis takes one column, the next level at least one more.
        refine stands.isSettled indented complete.1 sameFirst ?_
        rw [column_append (by decide)]
        push_cast [List.length_singleton, Int.add_mul]
        omega
  | _, _, _, @Stands.further item items chars others stretch first rest stands, level, out,
      complete, same, starts => by
      by_cases fits : options.fitsLine (.seq (item :: items)) level = true
      · exact (Stands.further first rest stands).isSettled_of_fitsLine complete same starts fits
      · rw [isComplete, itemsComplete, Bool.and_eq_true] at complete
        obtain ⟨-, sameRest⟩ := seq_parts_unique first
          (spelled_laidOut options item complete.1 (level + 1))
          (same.trans (toList_laidOut_cons fits))
        exact .inside (two_le_length_of_not_fitsLine fits)
          (.behind (stands.isSettled indented complete.2 sameRest))
theorem StandsRest.isSettled {options : LayoutOptions} (indented : 1 ≤ options.indent) :
    {items : List Sexp} → {chars : List Char} → {stretch : Stretch} →
      StandsRest items chars stretch → ∀ {level : Nat} {out : List Char},
        itemsComplete items = true → chars = (laidOutRest options level items).toList →
          stretch.IsSettled options level out
  | _, _, _, @StandsRest.here item items gap chars others stretch apart first stands, level, out,
      complete, same => by
      rw [itemsComplete, Bool.and_eq_true] at complete
      obtain ⟨rfl, sameFirst, -⟩ := rest_parts_unique apart (isGap_lineStart options level) first
        (spelled_laidOut options item complete.1 level)
        (same.trans (toList_laidOutRest_cons options level item items))
      -- A new line starts at the column of its level.
      refine .behind (stands.isSettled indented complete.1 sameFirst ?_)
      have nonneg : 0 ≤ level * options.indent := Int.mul_nonneg (by omega) (by omega)
      rw [column_lineStart]
      omega
  | _, _, _, @StandsRest.further item items gap chars others stretch apart first stands, level,
      out, complete, same => by
      rw [itemsComplete, Bool.and_eq_true] at complete
      obtain ⟨-, -, sameRest⟩ := rest_parts_unique apart (isGap_lineStart options level) first
        (spelled_laidOut options item complete.1 level)
        (same.trans (toList_laidOutRest_cons options level item items))
      exact .behind (stands.isSettled indented complete.2 sameRest)
end

theorem Stretch.IsBroken.has_lineEnd {options : LayoutOptions} {level : Nat} {stretch : Stretch}
    (broken : stretch.IsBroken options level) (long : 2 ≤ stretch.items.length) :
    '\n' ∈ stretch.body := by
  obtain ⟨texts, spelled, body⟩ := broken.onePerLine
  rw [spelled.length_eq] at long
  match texts, long with
  | first :: second :: others, _ =>
      rw [body, List.intercalate_cons_cons]
      simp [LayoutOptions.lineStart]

/-- In the pretty form of a value with an indentation of at least one, every list that can be
broken, and that is written on a single line, ends within the width; the others that can be
broken do not fit and have a line for each element. Only a list that has fewer than two elements,
or stands in such a list, is written compactly whatever the width. -/
theorem endColumn_le_width (options : LayoutOptions) (indented : 1 ≤ options.indent)
    {value : Sexp} (complete : value.isComplete = true) :
    ∃ text, value.write (some options) = .ok text ∧
      (∀ list ∈ value.listsIn, ∃ stretch,
        Stands value text.toList stretch ∧ stretch.items = list) ∧
      ∀ stretch, Stands value text.toList stretch →
        (stretch.IsBreakable →
          ('\n' ∉ stretch.body → stretch.endColumn ≤ options.width) ∧
          ('\n' ∈ stretch.body → stretch.IsBroken options 0)) ∧
        (¬ stretch.IsBreakable → stretch.body = (compact (.seq stretch.items)).toList) := by
  refine ⟨laidOut options 0 value, ?_, ?_, ?_⟩
  · rw [write_of_isComplete complete, render, pretty_eq_laidOut]
  · exact exists_stands (spelled_laidOut options value complete 0)
  · intro stretch stands
    have settled : stretch.IsSettled options 0 [] :=
      stands.isSettled indented complete rfl (by simp [column])
    have noBreak (compactly : stretch.body = (compact (.seq stretch.items)).toList) :
        '\n' ∉ stretch.body := by
      rw [compactly, compact_eq_flatText]
      exact noBreak_flatText _ stands.spelled.isComplete
    obtain ⟨compactly, ends⟩ | ⟨breakable, broken⟩ := settled
    · refine ⟨fun breakable => ⟨fun _ => ends breakable, fun member => ?_⟩, fun _ => compactly⟩
      exact absurd member (noBreak compactly)
    · refine ⟨fun _ => ⟨fun single => ?_, fun _ => broken⟩, fun unable => absurd breakable unable⟩
      exact absurd (broken.has_lineEnd breakable.1) single

/-- The inner list of a broken one ends at the last column that the width allows. -/
theorem endColumn_le_width_block :
    let options : LayoutOptions := ⟨2, 9⟩
    let pair : Sexp := .seq [.atom "cc", .atom "dd"]
    let value : Sexp := .seq [.atom "block", pair]
    let stretch : Stretch :=
      ⟨[value.items], pair.items, "(block\n  ".toList, "(cc dd)".toList⟩
    1 ≤ options.indent ∧ value.isComplete = true ∧
      value.write (some options) = .ok "(block\n  (cc dd))" ∧
      Stands value "(block\n  (cc dd))".toList stretch ∧ stretch.IsBreakable ∧
      '\n' ∉ stretch.body ∧ stretch.endColumn ≤ options.width ∧ stretch.endColumn = 9 := by
  intro options pair value stretch
  have complete : value.isComplete = true := by decide
  obtain ⟨text, written, -, ends⟩ := endColumn_le_width options (by decide) complete
  obtain rfl : "(block\n  (cc dd))" = text := by
    rw [write_of_isComplete complete, render, pretty_eq_laidOut] at written
    refine Eq.trans ?_ (Except.ok.inj written)
    simp only [value, pair, laidOut, laidOutRest, LayoutOptions.fitsLine, compact_eq_flatText]
    decide
  have stands : Stands value "(block\n  (cc dd))".toList stretch := by
    have block : Spelled (.atom "block") "block".toList := by
      have text : (flatText (.atom "block")).toList = "block".toList := by decide
      exact text ▸ spelled_flatText (.atom "block") (by decide)
    have spelled : Spelled pair "(cc dd)".toList := by
      have text : (flatText pair).toList = "(cc dd)".toList := by decide
      exact text ▸ spelled_flatText pair (by decide)
    have apart : IsGap "\n  ".toList := by
      have text : (options.lineStart 1).toList = "\n  ".toList := by decide
      exact text ▸ isGap_lineStart options 1
    have text : '(' :: ("block".toList ++ (("\n  ".toList ++ ("(cc dd)".toList ++ [])) ++ [')'])) =
        "(block\n  (cc dd))".toList := by decide
    have before : '(' :: "block".toList ++ ("\n  ".toList ++ []) = "(block\n  ".toList := by decide
    have within := Stands.further block (.cons apart spelled .nil)
      (.here apart spelled (.whole spelled))
    simp only [text, Stretch.inside, Stretch.behind, before] at within
    exact within
  have breakable : stretch.IsBreakable := ⟨by decide, by simp [stretch, value, Sexp.items]⟩
  have single : '\n' ∉ stretch.body := by decide
  exact ⟨by decide, complete, written, stands, breakable, single,
    ((ends stretch stands).1 breakable).1 single, by decide⟩

/-- A list of two elements that stands alone in a list is not broken, however wide it is. -/
theorem exists_endColumn_gt_width :
    ∃ (options : LayoutOptions) (value : Sexp) (text : String) (stretch : Stretch),
      1 ≤ options.indent ∧ value.isComplete = true ∧ value.write (some options) = .ok text ∧
        Stands value text.toList stretch ∧ 2 ≤ stretch.items.length ∧ '\n' ∉ stretch.body ∧
        options.width < stretch.endColumn := by
  let pair : Sexp := .seq [.atom "aaaa", .atom "bbbb"]
  let stretch : Stretch := ⟨[[pair]], pair.items, ['('], "(aaaa bbbb)".toList⟩
  have complete : (Sexp.seq [pair]).isComplete = true := by decide
  refine ⟨⟨2, 6⟩, .seq [pair], "((aaaa bbbb))", stretch, by decide, complete, ?_, ?_, by decide,
    by decide, by decide⟩
  · rw [write_of_isComplete complete, render, pretty_eq_laidOut, laidOut_of_fitsLine rfl,
      compact_eq_flatText]
    exact congrArg Except.ok (by decide)
  · have spelled : Spelled pair "(aaaa bbbb)".toList := by
      have text : (flatText pair).toList = "(aaaa bbbb)".toList := by decide
      exact text ▸ spelled_flatText pair (by decide)
    exact .first spelled .nil (.whole spelled)

end Sexp

end NodeForms
