import NodeForms.CommandLine.Standard
import NodeForms.Proofs.Computation

/-!
# The surroundings of the program are what a run relies on

A text without escape characters holds no order for terminals. The notice about a file has the two
tags of its own style, and a path without an opening bracket adds none.
-/

namespace NodeForms

namespace Screen

theorem withoutOrders_eq {chars : List Char} (noEscape : '\x1b' ∉ chars) :
    withoutOrders chars = chars := by
  induction chars with
  | nil => rw [withoutOrders]
  | cons c rest inductionHypothesis =>
      rw [List.mem_cons, not_or] at noEscape
      rw [withoutOrders, if_neg (Ne.symm noEscape.1), inductionHypothesis noEscape.2]

theorem echo_eq {text : String} (noEscape : '\x1b' ∉ text.toList) : echo text = text ++ "\n" := by
  rw [echo, withoutOrders_eq noEscape, String.ofList_toList]

end Screen

namespace Markup

/-- Characters that open no tag and do not keep one from being opened. -/
def ArePlain (chars : List Char) : Prop := ∀ c ∈ chars, c ≠ '[' ∧ c ≠ ']' ∧ c ≠ '\\'

instance (chars : List Char) : Decidable (ArePlain chars) :=
  List.decidableBAll (fun c => c ≠ '[' ∧ c ≠ ']' ∧ c ≠ '\\') chars

theorem piecesAfter_append {chars : List Char} (plain : ArePlain chars) (latest rest : List Char) :
    piecesAfter latest 0 (chars ++ rest) = piecesAfter (chars.reverse ++ latest) 0 rest := by
  induction chars generalizing latest with
  | nil => rfl
  | cons c chars inductionHypothesis =>
      rw [ArePlain, List.forall_mem_cons] at plain
      obtain ⟨⟨noBracket, -, noSlash⟩, others⟩ := plain
      rw [List.cons_append, piecesAfter]
      · rw [inductionHypothesis others]
        simp [slashes]
      · exact noSlash
      · exact noBracket

theorem closingDistance?_append {chars : List Char} (plain : ArePlain chars) (rest : List Char) :
    closingDistance? (chars ++ ']' :: rest) = some chars.length := by
  induction chars with
  | nil => rfl
  | cons c chars inductionHypothesis =>
      rw [ArePlain, List.forall_mem_cons] at plain
      obtain ⟨⟨noOpening, noClosing, -⟩, others⟩ := plain
      rw [List.cons_append, closingDistance?, if_neg noClosing, if_neg noOpening,
        inductionHypothesis others]
      rfl

theorem piecesAfter_tag {c : Char} {chars : List Char} (starts : startsTag c = true)
    (plain : ArePlain chars) (latest rest : List Char) :
    piecesAfter latest 0 ('[' :: (c :: chars ++ ']' :: rest)) =
      textPiece latest ++ .tag (c :: chars) :: piecesAfter [] 0 rest := by
  have length : tagLength? (c :: chars ++ ']' :: rest) = some (c :: chars).length := by
    rw [List.cons_append, tagLength?, if_pos starts, closingDistance?_append plain]
    rfl
  rw [piecesAfter, length]
  simp [tagPieces, slashes, textPiece]

theorem pieces_styled {c : Char} {style : List Char} (starts : startsTag c = true)
    (plainStyle : ArePlain (c :: style)) {body : String} (plainBody : ArePlain body.toList)
    (rest : String) :
    pieces (styled (String.ofList (c :: style)) body ++ rest) = .tag (c :: style) ::
      (textPiece body.toList.reverse ++ .tag ('/' :: c :: style) :: pieces rest) := by
  have plainTag : ArePlain style := (List.forall_mem_cons.mp plainStyle).2
  have chars : (styled (String.ofList (c :: style)) body ++ rest).toList =
      '[' :: (c :: style ++ ']' :: (body.toList ++ '[' :: ('/' :: c :: style ++
        ']' :: rest.toList))) := by
    simp [styled]
  have opened := piecesAfter_tag starts plainTag []
    (body.toList ++ '[' :: ('/' :: c :: style ++ ']' :: rest.toList))
  have closed := @piecesAfter_tag '/' (c :: style) rfl plainStyle (body.toList.reverse ++ [])
    rest.toList
  rw [pieces, chars, opened, piecesAfter_append plainBody, closed, List.append_nil]
  rfl

theorem exists_text_of_piecesAfter {chars : List Char} (noBracket : '[' ∉ chars)
    (latest : List Char) (number : Nat) :
    ∀ piece ∈ piecesAfter latest number chars, ∃ text, piece = .text text := by
  have ofTextPiece (chars : List Char) : ∀ piece ∈ textPiece chars, ∃ text, piece = .text text := by
    unfold textPiece
    split <;> simp
  induction chars generalizing latest number with
  | nil =>
      rw [piecesAfter]
      apply ofTextPiece
  | cons c rest inductionHypothesis =>
      rw [List.mem_cons, not_or] at noBracket
      by_cases isSlash : c = '\\'
      · rw [isSlash, piecesAfter]
        apply inductionHypothesis noBracket.2
      · rw [piecesAfter]
        · apply inductionHypothesis noBracket.2
        · exact isSlash
        · exact fun isBracket => noBracket.1 isBracket.symm

theorem exists_shown {pieces : List Piece} (areTexts : ∀ piece ∈ pieces, ∃ text, piece = .text text)
    (styles : List OpenStyle) : ∃ chars, shown styles pieces = .ok chars := by
  induction pieces with
  | nil => exact ⟨[], rfl⟩
  | cons piece pieces inductionHypothesis =>
      rw [List.forall_mem_cons] at areTexts
      obtain ⟨⟨text, rfl⟩, others⟩ := areTexts
      obtain ⟨chars, isShown⟩ := inductionHypothesis others
      exact ⟨_, map_eq_ok.mpr ⟨chars, isShown, rfl⟩⟩

theorem forM_checkParameter {pieces : List Piece}
    (areTexts : ∀ piece ∈ pieces, ∃ text, piece = .text text) :
    pieces.forM checkParameter = .ok () := by
  induction pieces with
  | nil => rfl
  | cons piece pieces inductionHypothesis =>
      rw [List.forall_mem_cons] at areTexts
      obtain ⟨⟨text, rfl⟩, others⟩ := areTexts
      calc
        (Piece.text text :: pieces).forM checkParameter = pieces.forM checkParameter := rfl
        _ = .ok () := inductionHypothesis others

theorem exists_plain_notice {path : String} (noBracket : '[' ∉ path.toList) :
    ∃ shown, plain (writtenNotice path) = .ok shown := by
  have noTag : ∀ piece ∈ pieces (" " ++ path), ∃ text, piece = .text text := by
    apply exists_text_of_piecesAfter
    simpa using noBracket
  obtain ⟨chars, isShown⟩ := exists_shown noTag []
  have split : pieces (writtenNotice path) = [.tag "green".toList,
      .text "Tree written to".toList, .tag "/green".toList] ++ pieces (" " ++ path) := by
    rw [writtenNotice, String.append_assoc]
    exact @pieces_styled 'g' ['r', 'e', 'e', 'n'] rfl (by decide) "Tree written to" (by decide) _
  have opened : stylesAfter [] "green".toList = .ok [{ name := "green" }] := rfl
  have closed : stylesAfter [{ name := "green" }] "/green".toList = .ok [] := rfl
  have followed : ∃ chars, shown [] (pieces (writtenNotice path)) = .ok chars := by
    rw [split]
    simp only [List.cons_append, List.nil_append, shown, opened, closed, ok_bind, isShown]
    exact ⟨_, rfl⟩
  obtain ⟨chars, followed⟩ := followed
  have checked : checkStyles (writtenNotice path) = .ok () := by
    rw [checkStyles, split]
    change (pieces (" " ++ path)).forM checkParameter = .ok ()
    exact forM_checkParameter noTag
  rw [plain, follow, followed, checked]
  exact ⟨_, rfl⟩

end Markup

theorem Surroundings.standard_isDocumented : standard.IsDocumented where
  echo_eq _ noEscape := congrArg Except.ok (Screen.echo_eq noEscape)
  print_isOk path noBracket := by
    obtain ⟨shown, isShown⟩ := Markup.exists_plain_notice noBracket
    refine ⟨Screen.linesText (Line.wrap .fold Screen.width shown), ?_⟩
    simp [standard, Screen.ofText, isShown, Except.map, Except.mapError]

end NodeForms
