import NodeForms.Proofs.Sexp.Columns
import NodeForms.Proofs.Sexp.Denotation

/-!
# Separators of written lists

The layouts of a value differ in what stands between its elements, and in nothing else: every
spelling of a value splits into the same tokens, written with the same characters. In the pretty
form a separator is a space or a line end with its indentation, and a line end stands nowhere
else, so joining the lines gives the compact form back.
-/

namespace NodeForms

namespace Sexp

mutual
/-- The tokens of a value in order. -/
def tokens : Sexp → List Token
  | .seq items => .opening :: (itemTokens items ++ [.closing])
  | scalar => [scalarToken scalar]
def itemTokens : List Sexp → List Token
  | [] => []
  | item :: items => tokens item ++ itemTokens items
end

theorem tokens_of_isSeq {value : Sexp} (noSeq : value.isSeq = false) :
    value.tokens = [value.scalarToken] := by
  cases value with
  | seq items => simp [isSeq] at noSeq
  | _ => rfl

mutual
theorem Spelled.splits : {value : Sexp} → {chars : List Char} → Spelled value chars →
    ∀ {after : List Char} {others : List Token}, EndsRun after → Splits after others →
      Splits (chars ++ after) (value.tokens ++ others)
  | value, _, .scalar noSeq complete, after, others, ends, rest => by
      obtain ⟨first, run, spelled, noBlank, found⟩ := next?_scalarToken noSeq complete
      have starts := (next?_eq_some_iff noBlank).mp (found after ends)
      rw [tokens_of_isSeq noSeq, toList_scalarText noSeq complete, spelled]
      exact .token starts rest
  | _, _, .empty, after, _, _, rest => .token (.opening (')' :: after)) (.token (.closing after) rest)
  | _, _, @Spelled.seq item items chars elements first further, after, others, _, rest => by
      have inside := further.splits (.token (.closing after) rest)
      have opened := first.splits (endsRun_rest further after) inside
      rw [tokens, itemTokens]
      simpa using Splits.token (.opening _) opened
theorem SpelledRest.splits : {items : List Sexp} → {chars : List Char} →
    SpelledRest items chars → ∀ {after : List Char} {others : List Token},
      Splits (')' :: after) others →
        Splits (chars ++ ')' :: after) (itemTokens items ++ others)
  | _, _, .nil, _, _, rest => rest
  | _, _, @SpelledRest.cons item items gap chars elements apart first further, after, others,
      rest => by
      have element := first.splits (endsRun_rest further after) (further.splits rest)
      -- The gap ends where the element starts, which is no blank.
      obtain ⟨c, run, rfl, noBlank⟩ := first.exists_first
      have separated := Splits.blanks apart (by simpa using noBlank) element
      rw [itemTokens]
      simpa using separated
end

theorem Spelled.splits_tokens {value : Sexp} {text : String} (spelled : Spelled value text.toList) :
    Splits text.toList value.tokens ∧ List.Forall₂ Denotes value.tokens value.marks := by
  have splits := spelled.splits endsRun_nil .nil
  rw [List.append_nil, List.append_nil] at splits
  have found : ReadState.verdict {} text.toList = .ok value :=
    outcome_eq_ok_iff.mpr (read_of_spelled spelled)
  exact ⟨splits, (ReadState.verdict_eq_ok_iff splits).mp found⟩

/-- The characters with one space in the place of each line end and the spaces behind it. -/
def joinLines : List Char → List Char
  | [] => []
  | c :: rest =>
      if c = '\n' then ' ' :: joinLines (rest.dropWhile (· == ' ')) else c :: joinLines rest
termination_by chars => chars.length
decreasing_by
  · have := dropWhile_length_le (· == ' ') rest
    simp only [List.length_cons]
    omega
  · simp

theorem joinLines_append_of_noBreak {front : List Char} (noBreak : '\n' ∉ front)
    (after : List Char) : joinLines (front ++ after) = front ++ joinLines after := by
  induction front with
  | nil => rfl
  | cons c front ih =>
      rw [List.mem_cons, not_or] at noBreak
      rw [List.cons_append, joinLines, if_neg (Ne.symm noBreak.1), ih noBreak.2, List.cons_append]

theorem joinLines_lineStart (options : LayoutOptions) (level : Nat) {chars : List Char}
    (filled : ∃ first rest, chars = first :: rest ∧ isBlank first = false) :
    joinLines ((options.lineStart level).toList ++ chars) = ' ' :: joinLines chars := by
  obtain ⟨first, rest, rfl, noBlank⟩ := filled
  have noSpace : first ≠ ' ' := by
    rintro rfl
    exact absurd noBlank (by decide)
  rw [LayoutOptions.lineStart, String.toList_ofList, List.cons_append, joinLines, if_pos rfl,
    List.dropWhile_append_of_pos (by simp [List.mem_replicate]),
    List.dropWhile_cons_of_neg (by simpa using noSpace)]

mutual
theorem joinLines_laidOut (options : LayoutOptions) :
    (value : Sexp) → value.isComplete = true → ∀ (level : Nat) (after : List Char),
      joinLines ((laidOut options level value).toList ++ after) =
        (flatText value).toList ++ joinLines after
  | .atom _, complete, _, _ | .int _, complete, _, _ | .text _, complete, _, _
  | .seq [], complete, _, _ => by
      rw [laidOut_of_fitsLine rfl, compact_eq_flatText]
      exact joinLines_append_of_noBreak (noBreak_flatText _ complete) _
  | .foreign _, complete, _, _ => by simp [isComplete] at complete
  | .seq (item :: items), complete, level, after => by
      by_cases fits : options.fitsLine (.seq (item :: items)) level = true
      · rw [laidOut_of_fitsLine fits, compact_eq_flatText]
        exact joinLines_append_of_noBreak (noBreak_flatText _ complete) _
      · rw [isComplete, itemsComplete, Bool.and_eq_true] at complete
        have opening := @joinLines_append_of_noBreak ['('] (by decide)
        have closing := @joinLines_append_of_noBreak [')'] (by decide)
        calc
          joinLines ((laidOut options level (.seq (item :: items))).toList ++ after) =
              '(' :: joinLines ((laidOut options (level + 1) item).toList ++
                ((laidOutRest options (level + 1) items).toList ++ ([')'] ++ after))) := by
            rw [toList_laidOut_cons fits]
            simpa using opening _
          _ = '(' :: ((flatText item).toList ++ ((flatRest items).toList ++
                ([')'] ++ joinLines after))) := by
            rw [joinLines_laidOut options item complete.1,
              joinLines_laidOutRest options items complete.2, closing]
          _ = (flatText (.seq (item :: items))).toList ++ joinLines after := by
            rw [toList_flatText_cons]
            simp
theorem joinLines_laidOutRest (options : LayoutOptions) :
    (items : List Sexp) → itemsComplete items = true → ∀ (level : Nat) (after : List Char),
      joinLines ((laidOutRest options level items).toList ++ after) =
        (flatRest items).toList ++ joinLines after
  | [], _, _, _ => rfl
  | item :: items, complete, level, after => by
      rw [itemsComplete, Bool.and_eq_true] at complete
      have filled : ∃ first rest, (laidOut options level item).toList ++
          ((laidOutRest options level items).toList ++ after) = first :: rest ∧
            isBlank first = false := by
        obtain ⟨first, rest, spelled, noBlank⟩ :=
          (spelled_laidOut options item complete.1 level).exists_first
        exact ⟨first, _, by rw [spelled, List.cons_append], noBlank⟩
      -- The element starts with no space, so joining takes the indentation away and no more.
      rw [toList_laidOutRest_cons, toList_flatRest_cons, List.append_assoc, List.append_assoc,
        joinLines_lineStart options level filled, joinLines_laidOut options item complete.1,
        joinLines_laidOutRest options items complete.2]
      simp
end

/-- Joining the lines of the pretty form of a value gives exactly its compact form. Both split
into the same tokens, which stand for the value, so only separators differ; and no text of a value
that is no list has a line end of its own. -/
theorem joinLines_write :
    (∀ (options : LayoutOptions) (value : Sexp), value.isComplete = true →
      ∃ broken flat, value.write (some options) = .ok broken ∧ value.write none = .ok flat ∧
        joinLines broken.toList = flat.toList ∧
        ∃ tokens, Splits broken.toList tokens ∧ Splits flat.toList tokens ∧
          List.Forall₂ Denotes tokens value.marks) ∧
    ∀ scalar : Sexp, scalar.isSeq = false → scalar.isComplete = true →
      '\n' ∉ (scalarText scalar).toList := by
  refine ⟨fun options value complete => ?_, fun scalar => noBreak_scalarText⟩
  have brokenSplits := (spelled_render complete (some options)).splits_tokens
  have flatSplits := (spelled_render complete none).splits_tokens
  refine ⟨_, _, write_of_isComplete complete (some options), write_of_isComplete complete none, ?_,
    value.tokens, brokenSplits.1, flatSplits⟩
  have joined := joinLines_laidOut options value complete 0 []
  rw [render, render, pretty_eq_laidOut, compact_eq_flatText]
  simpa [joinLines] using joined

/-- A text with a line end and spaces, and an atom with a blank, stay as they are when the list
around them is broken. -/
theorem joinLines_write_lines :
    let value : Sexp := .seq [.atom "str", .text "a\n  b \"c\\", .atom "x y"]
    value.isComplete = true ∧
      (∃ flat, value.write none = .ok flat ∧
        joinLines "(str\n   \"a\\n  b \\\"c\\\\\"\n   :\"x y\")".toList = flat.toList) ∧
      '\n' ∉ (scalarText (.text "a\n  b \"c\\")).toList := by
  intro value
  have complete : value.isComplete = true := by decide
  obtain ⟨broken, flat, written, flatWritten, joined, -⟩ :=
    joinLines_write.1 ⟨3, 7⟩ value complete
  obtain rfl : "(str\n   \"a\\n  b \\\"c\\\\\"\n   :\"x y\")" = broken := by
    rw [write_of_isComplete complete, render, pretty_eq_laidOut] at written
    refine Eq.trans ?_ (Except.ok.inj written)
    simp only [value, laidOut, laidOutRest, LayoutOptions.fitsLine, compact_eq_flatText]
    decide
  exact ⟨complete, ⟨flat, flatWritten, joined⟩, joinLines_write.2 _ rfl rfl⟩

end Sexp

end NodeForms
