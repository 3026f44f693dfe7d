import NodeForms.Proofs.Sexp.Grammar

/-!
# The notation of S-expressions

A value can be spelled in many ways: the elements of a list may stand apart by any blanks.
This file says which characters spell a value, without saying how a writer chooses among
them, and shows that the reader takes every spelling of a value back to that value. The
reader is followed token by token; what has been read so far is kept in its state, so the
statements hold in front of anything that does not run on into the last token.
-/

namespace NodeForms

namespace Sexp

mutual
/-- Characters that spell a value. -/
inductive Spelled : Sexp → List Char → Prop
  | scalar {value : Sexp} (noSeq : value.isSeq = false) (complete : value.isComplete = true) :
      Spelled value (scalarText value).toList
  | empty : Spelled (.seq []) ['(', ')']
  | seq {item : Sexp} {items : List Sexp} {chars others : List Char}
      (first : Spelled item chars) (rest : SpelledRest items others) :
      Spelled (.seq (item :: items)) ('(' :: (chars ++ (others ++ [')'])))
/-- Characters that spell the further elements of a list, each after a gap. -/
inductive SpelledRest : List Sexp → List Char → Prop
  | nil : SpelledRest [] []
  | cons {item : Sexp} {items : List Sexp} {gap chars others : List Char} (apart : IsGap gap)
      (first : Spelled item chars) (rest : SpelledRest items others) :
      SpelledRest (item :: items) (gap ++ (chars ++ others))
end

/-- Whether a bare run ends in front of some characters: a quote would not end it, since it
could belong to a quoted atom. -/
def EndsRun (after : List Char) : Prop :=
  ∀ c ∈ after.head?, isBareChar c = false ∧ c ≠ '"'

@[simp] theorem endsRun_nil : EndsRun [] := by
  simp [EndsRun]

theorem endsRun_closing (after : List Char) : EndsRun (')' :: after) := by
  intro c found
  cases found
  decide

theorem endsRun_of_isGap {gap : List Char} (apart : IsGap gap) (after : List Char) :
    EndsRun (gap ++ after) := by
  obtain ⟨filled, blanks⟩ := apart
  cases gap with
  | nil => exact absurd rfl filled
  | cons c gap =>
      intro other found
      cases found
      have blank := blanks c (by simp)
      refine ⟨by simp [isBareChar, blank], ?_⟩
      rintro rfl
      exact absurd blank (by decide)

theorem endsRun_rest {items : List Sexp} {chars : List Char} (spelled : SpelledRest items chars)
    (after : List Char) : EndsRun (chars ++ ')' :: after) := by
  cases spelled with
  | nil => exact endsRun_closing after
  | cons apart first rest =>
      rw [List.append_assoc]
      exact endsRun_of_isGap apart _

/-- A character is escaped exactly if it could end a body or a line. -/
theorem escapeChar_cases (c : Char) :
    (∃ letter, escapeChar c = ['\\', letter] ∧ unescapeChar letter = some c) ∨
      (escapeChar c = [c] ∧ c ≠ '\\' ∧ c ≠ '"') := by
  unfold escapeChar
  split
  all_goals first
    | exact .inl ⟨_, rfl, by decide⟩
    | exact .inr ⟨rfl, by simpa using And.intro ‹_› ‹_›⟩

theorem spells_escaped (chars : List Char) : Spells (chars.flatMap escapeChar) chars := by
  induction chars with
  | nil => exact .nil
  | cons c chars ih =>
      rw [List.flatMap_cons]
      rcases escapeChar_cases c with ⟨letter, escaped, back⟩ | ⟨plain, noSlash, noQuote⟩
      · rw [escaped]
        exact .escape (unescapeChar_eq_some_iff.mp back) ih
      · rw [plain]
        exact .plain noQuote noSlash ih

theorem unquote_escaped (chars : List Char) (offset : Nat) :
    unquote offset (chars.flatMap escapeChar) = .ok chars :=
  (unquote_eq_ok_iff (spells_escaped chars).isBody).mpr (spells_escaped chars)

theorem toDigits_all_isDigit (n : Nat) : (Nat.toDigits 10 n).all Char.isDigit = true :=
  List.all_eq_true.mpr fun _ member => Nat.isDigit_of_mem_toDigits (by decide) (by decide) member

theorem toDigits_noSign (n : Nat) (rest : List Char) (signed : Nat.toDigits 10 n = '-' :: rest) :
    False := by
  have digits := toDigits_all_isDigit n
  rw [signed] at digits
  simp at digits

theorem isIntegerRun_integerChars (value : Int) : isIntegerRun (integerChars value) = true := by
  cases value with
  | ofNat n =>
      rw [integerChars, isIntegerRun.eq_2 _ (toDigits_noSign n)]
      simp [toDigits_all_isDigit n, Nat.toDigits_ne_nil]
  | negSucc n =>
      simp [integerChars, isIntegerRun, toDigits_all_isDigit (n + 1), Nat.toDigits_ne_nil]

theorem integerOfRun_integerChars (value : Int) : integerOfRun (integerChars value) = value := by
  have back (n : Nat) : naturalOfDigits (Nat.toDigits 10 n) = n := Nat.ofDigitChars_ten_toDigits
  cases value with
  | ofNat n =>
      rw [integerChars, integerOfRun.eq_2 _ (toDigits_noSign n), back]
      rfl
  | negSucc n =>
      rw [integerChars, integerOfRun, back]
      rfl

theorem isBareChar_of_isDigit {c : Char} (digit : c.isDigit = true) : isBareChar c = true := by
  have bounds : 48 ≤ c.toNat ∧ c.toNat ≤ 57 := by
    simpa [Char.isDigit, UInt32.le_iff_toNat_le] using digit
  have blank : isBlank c = false := by
    simp [isBlank]
    omega
  have differs (other : Char) (below : other.toNat < 48) : c ≠ other := by
    rintro rfl
    omega
  simp [isBareChar, blank, differs '(' (by decide), differs ')' (by decide),
    differs '"' (by decide)]

theorem isBareChar_of_isIntegerRun {run : List Char} (integer : isIntegerRun run = true) :
    ∀ c ∈ run, isBareChar c = true := by
  unfold isIntegerRun at integer
  split at integer
  · intro c member
    rcases List.mem_cons.mp member with rfl | digit
    · decide
    · simp only [Bool.and_eq_true, List.all_eq_true] at integer
      exact isBareChar_of_isDigit (integer.2 c digit)
  · intro c member
    simp only [Bool.and_eq_true, List.all_eq_true] at integer
    exact isBareChar_of_isDigit (integer.2 c member)

theorem next?_bare {first : Char} {run after : List Char}
    (bare : ∀ c ∈ first :: run, isBareChar c = true) (ends : EndsRun after) :
    Token.next? first (run ++ after) = some (.bare (first :: run), after) := by
  refine next?_run bare (fun c found => (ends c found).1) ?_
  intro body rest _ same
  obtain ⟨-, behind⟩ := List.cons.inj same
  cases run with
  | nil =>
      have quote : after = '"' :: (body ++ '"' :: rest) := behind
      exact (ends '"' (by simp [quote])).2 rfl
  | cons c run =>
      obtain ⟨rfl, -⟩ := List.cons.inj behind
      exact absurd (bare '"' (by simp)) (by decide)

theorem next?_quotedText (chars after : List Char) :
    Token.next? '"' (chars.flatMap escapeChar ++ '"' :: after) =
      some (.quotedText (chars.flatMap escapeChar), after) :=
  (next?_eq_some_iff (by decide)).mpr (.quotedText (spells_escaped chars).isBody after)

theorem next?_quotedAtom (chars after : List Char) :
    Token.next? ':' ('"' :: (chars.flatMap escapeChar ++ '"' :: after)) =
      some (.quotedAtom (chars.flatMap escapeChar), after) :=
  (next?_eq_some_iff (by decide)).mpr (.quotedAtom (spells_escaped chars).isBody after)

namespace ReadState

/-- Whether a value may come next: inside a list, or as the first one at the top. -/
def Accepts (state : ReadState) : Prop := state.openLists ≠ [] ∨ state.result = none

/-- The state after one more value. -/
def put (state : ReadState) (value : Sexp) : ReadState :=
  match state.openLists with
  | [] => { state with result := some value }
  | innermost :: outer => { state with openLists := (value :: innermost) :: outer }

theorem add_eq_put {state : ReadState} (accepts : state.Accepts) (offset : Nat) (value : Sexp) :
    state.add offset value = .ok (state.put value) := by
  obtain ⟨openLists, result⟩ := state
  cases openLists with
  | cons innermost outer => rfl
  | nil =>
      rcases accepts with filled | rfl
      · exact absurd rfl filled
      · rfl

end ReadState

section

variable {Fault : Type} {refused : ReadError → Fault}
  {accept : ReadState → Nat → Token → Except Fault ReadState}

theorem readWith_blank {c : Char} (blank : isBlank c = true) (offset : Nat) (state : ReadState)
    (rest : List Char) :
    readWith refused accept offset state (c :: rest) =
      readWith refused accept (offset + 1) state rest := by
  rw [readWith, if_pos blank]

theorem readWith_gap {gap : List Char} (blanks : ∀ c ∈ gap, isBlank c = true) (offset : Nat)
    (state : ReadState) (after : List Char) :
    readWith refused accept offset state (gap ++ after) =
      readWith refused accept (offset + gap.length) state after := by
  induction gap generalizing offset with
  | nil => rfl
  | cons c gap ih =>
      rw [List.cons_append, readWith_blank (blanks c (by simp)),
        ih (fun other member => blanks other (by simp [member])), List.length_cons]
      congr 1
      omega

theorem readWith_stuck {first : Char} {rest : List Char} (noBlank : isBlank first = false)
    (stuck : Token.next? first rest = none) (offset : Nat) (state : ReadState) :
    readWith refused accept offset state (first :: rest) =
      .error (refused ⟨.unexpectedCharacter first, offset⟩) := by
  rw [readWith, if_neg (by simp [noBlank])]
  split
  · rfl
  · rename_i found
    cases stuck.symm.trans found

theorem readWith_next {first : Char} {rest after : List Char} {token : Token}
    (noBlank : isBlank first = false) (found : Token.next? first rest = some (token, after))
    (offset : Nat) (state : ReadState) :
    readWith refused accept offset state (first :: rest) =
      accept state offset token >>= fun next =>
        readWith refused accept (offset + token.width) next after := by
  rw [readWith, if_neg (by simp [noBlank])]
  split
  · rename_i missing
    cases found.symm.trans missing
  · rename_i found'
    cases found.symm.trans found'
    cases accept state offset token <;> rfl

theorem readWith_ok_mono {Other : Type} {refuse : ReadError → Other}
    {strict : ReadState → Nat → Token → Except Other ReadState}
    (taken : ∀ {state next offset token},
      strict state offset token = .ok next → accept state offset token = .ok next)
    {offset : Nat} {state : ReadState} {chars : List Char} {value : Sexp}
    (found : readWith refuse strict offset state chars = .ok value) :
    readWith refused accept offset state chars = .ok value := by
  fun_induction readWith refuse strict offset state chars with
  | case1 offset state =>
      rw [readWith]
      cases finished : state.finish offset with
      | error error =>
          rw [finished] at found
          cases found
      | ok final =>
          rw [finished] at found
          cases found
          rfl
  | case2 offset state first rest blank ih => rw [readWith_blank blank, ih found]
  | case3 => cases found
  | case4 => cases found
  | case5 offset state first rest noBlank token after cut next accepted ih =>
      rw [readWith_next (by simpa using noBlank) cut, taken accepted]
      exact ih found

end

theorem readFrom_nil (offset : Nat) (state : ReadState) :
    readFrom offset state [] = state.finish offset := by
  rw [readFrom, readWith]
  cases state.finish offset <;> rfl

theorem readFrom_next {first : Char} {rest after : List Char} {token : Token}
    (noBlank : isBlank first = false) (found : Token.next? first rest = some (token, after))
    (offset : Nat) (state : ReadState) :
    readFrom offset state (first :: rest) =
      state.accept offset token >>= fun next => readFrom (offset + token.width) next after :=
  readWith_next noBlank found offset state

theorem readFrom_token {offset : Nat} {state next : ReadState} {first : Char}
    {rest after : List Char} {token : Token} (noBlank : isBlank first = false)
    (found : Token.next? first rest = some (token, after))
    (accepted : state.accept offset token = .ok next) :
    readFrom offset state (first :: rest) = readFrom (offset + token.width) next after := by
  rw [readFrom_next noBlank found, accepted]
  rfl

theorem readFrom_gap {gap : List Char} (blanks : ∀ c ∈ gap, isBlank c = true) (offset : Nat)
    (state : ReadState) (after : List Char) :
    readFrom offset state (gap ++ after) = readFrom (offset + gap.length) state after :=
  readWith_gap blanks offset state after

/-- The token of a value that is no list. -/
def scalarToken : Sexp → Token
  | .atom name =>
      if isBareAtom name.toList then .bare name.toList
      else .quotedAtom (name.toList.flatMap escapeChar)
  | .int value => .bare (integerChars value)
  | .text value => .quotedText (value.toList.flatMap escapeChar)
  | .seq _ | .foreign _ => .bare []

theorem accept_scalarToken {value : Sexp} (noSeq : value.isSeq = false)
    (complete : value.isComplete = true) (offset : Nat) (state : ReadState) :
    state.accept offset value.scalarToken = state.add offset value := by
  cases value with
  | atom name =>
      by_cases bare : isBareAtom name.toList = true
      · have noRun : isIntegerRun name.toList = false := by
          simp [isBareAtom] at bare
          exact bare.2
        simp [scalarToken, bare, ReadState.accept, ofBareRun, noRun]
      · simp [scalarToken, bare, ReadState.accept, unquote_escaped, bind, Except.bind]
  | int value =>
      simp [scalarToken, ReadState.accept, ofBareRun, isIntegerRun_integerChars,
        integerOfRun_integerChars]
  | text value =>
      simp [scalarToken, ReadState.accept, unquote_escaped, bind, Except.bind]
  | seq items => simp [isSeq] at noSeq
  | foreign what => simp [isComplete] at complete

theorem width_eq_length (token : Token) : token.width = token.chars.length := by
  cases token <;> simp [Token.width, Token.chars]

theorem toList_scalarText {value : Sexp} (noSeq : value.isSeq = false)
    (complete : value.isComplete = true) :
    (scalarText value).toList = value.scalarToken.chars := by
  cases value with
  | atom name =>
      by_cases bare : isBareAtom name.toList = true
      · simp [scalarText, atomChars, scalarToken, bare, Token.chars]
      · simp [scalarText, atomChars, scalarToken, bare, Token.chars, quoteChars]
  | int value => simp [scalarText, integerText, scalarToken, Token.chars]
  | text value => simp [scalarText, scalarToken, Token.chars, quoteChars]
  | seq items => simp [isSeq] at noSeq
  | foreign what => simp [isComplete] at complete

/-- The bare token of a value is not empty and holds bare characters only. -/
theorem bare_of_scalarToken {value : Sexp} (noSeq : value.isSeq = false)
    (complete : value.isComplete = true) {run : List Char}
    (token : value.scalarToken = .bare run) : run ≠ [] ∧ ∀ c ∈ run, isBareChar c = true := by
  cases value with
  | atom name =>
      by_cases bare : isBareAtom name.toList = true
      · simp only [scalarToken, bare, if_true, Token.bare.injEq] at token
        subst token
        simp only [isBareAtom, Bool.and_eq_true, Bool.not_eq_true', List.all_eq_true,
          List.isEmpty_eq_false_iff] at bare
        exact bare.1
      · simp [scalarToken, bare] at token
  | int number =>
      simp only [scalarToken, Token.bare.injEq] at token
      subst token
      have integer := isIntegerRun_integerChars number
      refine ⟨?_, isBareChar_of_isIntegerRun integer⟩
      intro empty
      simp [empty, isIntegerRun] at integer
  | text content => simp [scalarToken] at token
  | seq items => simp [isSeq] at noSeq
  | foreign what => simp [isComplete] at complete

/-- A value that is no list starts a token, which ends where its text ends. -/
theorem next?_scalarToken {value : Sexp} (noSeq : value.isSeq = false)
    (complete : value.isComplete = true) :
    ∃ first rest, value.scalarToken.chars = first :: rest ∧ isBlank first = false ∧
      ∀ after, EndsRun after →
        Token.next? first (rest ++ after) = some (value.scalarToken, after) := by
  cases token : value.scalarToken with
  | bare run =>
      obtain ⟨filled, bare⟩ := bare_of_scalarToken noSeq complete token
      obtain ⟨first, rest, rfl⟩ := List.exists_cons_of_ne_nil filled
      exact ⟨first, rest, rfl, isBlank_of_isBareChar (bare first (by simp)),
        fun after ends => next?_bare bare ends⟩
  | quotedAtom body =>
      obtain ⟨content, rfl⟩ : ∃ content : List Char, body = content.flatMap escapeChar := by
        cases value with
        | atom name =>
            by_cases bare : isBareAtom name.toList = true
            · simp [scalarToken, bare] at token
            · exact ⟨name.toList, by simpa [scalarToken, bare] using token.symm⟩
        | _ => simp [scalarToken] at token
      refine ⟨':', '"' :: (content.flatMap escapeChar ++ ['"']), rfl, by decide, ?_⟩
      intro after _
      simpa using next?_quotedAtom content after
  | quotedText body =>
      obtain ⟨content, rfl⟩ : ∃ content : List Char, body = content.flatMap escapeChar := by
        cases value with
        | text content => exact ⟨content.toList, by simpa [scalarToken] using token.symm⟩
        | atom name => simp only [scalarToken] at token; split at token <;> simp at token
        | _ => simp [scalarToken] at token
      refine ⟨'"', content.flatMap escapeChar ++ ['"'], rfl, by decide, ?_⟩
      intro after _
      simpa using next?_quotedText content after
  | opening => cases value <;> simp [scalarToken] at token; split at token <;> simp at token
  | closing => cases value <;> simp [scalarToken] at token; split at token <;> simp at token

theorem readFrom_scalar {value : Sexp} (noSeq : value.isSeq = false)
    (complete : value.isComplete = true) {state : ReadState} (accepts : state.Accepts)
    (offset : Nat) {after : List Char} (ends : EndsRun after) :
    readFrom offset state ((scalarText value).toList ++ after) =
      readFrom (offset + (scalarText value).toList.length) (state.put value) after := by
  have accepted : state.accept offset value.scalarToken = .ok (state.put value) := by
    rw [accept_scalarToken noSeq complete, ReadState.add_eq_put accepts]
  obtain ⟨first, rest, chars, noBlank, found⟩ := next?_scalarToken noSeq complete
  rw [toList_scalarText noSeq complete, ← width_eq_length, chars, List.cons_append]
  exact readFrom_token noBlank (found after ends) accepted

theorem readFrom_opening (offset : Nat) (state : ReadState) (after : List Char) :
    readFrom offset state ('(' :: after) =
      readFrom (offset + 1) { state with openLists := [] :: state.openLists } after := by
  have found : Token.next? '(' after = some (.opening, after) := by simp [Token.next?]
  exact readFrom_token (by decide) found rfl

theorem readFrom_closing {state : ReadState} (accepts : state.Accepts) (offset : Nat)
    (items : List Sexp) (after : List Char) :
    readFrom offset { state with openLists := items.reverse :: state.openLists } (')' :: after) =
      readFrom (offset + 1) (state.put (.seq items)) after := by
  have found : Token.next? ')' after = some (.closing, after) := by simp [Token.next?]
  refine readFrom_token (by decide) found ?_
  simp [ReadState.accept, ReadState.add_eq_put accepts]

mutual
theorem readFrom_spelled : {value : Sexp} → {chars : List Char} → Spelled value chars →
    ∀ (state : ReadState) (offset : Nat) (after : List Char), state.Accepts → EndsRun after →
      readFrom offset state (chars ++ after) =
        readFrom (offset + chars.length) (state.put value) after
  | _, _, .scalar noSeq complete => by
      intro state offset after accepts ends
      exact readFrom_scalar noSeq complete accepts offset ends
  | _, _, .empty => by
      intro state offset after accepts _
      have closed := readFrom_closing accepts (offset + 1) [] after
      rw [List.reverse_nil] at closed
      rw [List.cons_append, readFrom_opening, List.cons_append, List.nil_append, closed]
      rfl
  | _, _, @Spelled.seq item items chars others first rest => by
      intro state offset after accepts _
      -- Inside the new list every value is accepted, so only its elements are collected.
      have inside : ({ state with openLists := [] :: state.openLists } : ReadState).Accepts :=
        .inl (by simp)
      have closed := readFrom_closing accepts (offset + 1 + chars.length + others.length)
        (item :: items) after
      calc
        readFrom offset state ('(' :: (chars ++ (others ++ [')'])) ++ after) =
            readFrom (offset + 1) { state with openLists := [] :: state.openLists }
              (chars ++ (others ++ ')' :: after)) := by
          rw [← readFrom_opening]
          simp
        _ = readFrom (offset + 1 + chars.length)
              { state with openLists := [item] :: state.openLists } (others ++ ')' :: after) :=
          readFrom_spelled first _ (offset + 1) _ inside (endsRun_rest rest after)
        _ = readFrom (offset + 1 + chars.length + others.length)
              { state with openLists := (item :: items).reverse :: state.openLists }
              (')' :: after) := by
          rw [readFrom_spelledRest rest, List.reverse_cons]
        _ = readFrom (offset + ('(' :: (chars ++ (others ++ [')']))).length)
              (state.put (.seq (item :: items))) after := by
          rw [closed]
          congr 1
          simp
          omega
theorem readFrom_spelledRest : {items : List Sexp} → {chars : List Char} →
    SpelledRest items chars → ∀ (innermost : List Sexp) (outer : List (List Sexp))
      (result : Option Sexp) (offset : Nat) (after : List Char),
      readFrom offset ⟨innermost :: outer, result⟩ (chars ++ ')' :: after) =
        readFrom (offset + chars.length) ⟨(items.reverse ++ innermost) :: outer, result⟩
          (')' :: after)
  | _, _, .nil => by
      intro innermost outer result offset after
      rfl
  | _, _, @SpelledRest.cons item items gap chars others apart first rest => by
      intro innermost outer result offset after
      have inside : (⟨innermost :: outer, result⟩ : ReadState).Accepts := .inl (by simp)
      calc
        readFrom offset ⟨innermost :: outer, result⟩
              (gap ++ (chars ++ others) ++ ')' :: after) =
            readFrom (offset + gap.length) ⟨innermost :: outer, result⟩
              (chars ++ (others ++ ')' :: after)) := by
          rw [← readFrom_gap apart.2]
          simp
        _ = readFrom (offset + gap.length + chars.length) ⟨(item :: innermost) :: outer, result⟩
              (others ++ ')' :: after) :=
          readFrom_spelled first _ _ _ inside (endsRun_rest rest after)
        _ = readFrom (offset + gap.length + chars.length + others.length)
              ⟨(items.reverse ++ item :: innermost) :: outer, result⟩ (')' :: after) :=
          readFrom_spelledRest rest (item :: innermost) outer result _ after
        _ = readFrom (offset + (gap ++ (chars ++ others)).length)
              ⟨((item :: items).reverse ++ innermost) :: outer, result⟩ (')' :: after) := by
          simp [Nat.add_assoc]
end

theorem read_of_spelled {value : Sexp} {text : String} (spelled : Spelled value text.toList) :
    read text = .ok value := by
  have start : ({} : ReadState).Accepts := .inr rfl
  have walked := readFrom_spelled spelled {} 0 [] start endsRun_nil
  rw [List.append_nil] at walked
  rw [read, walked, readFrom_nil]
  rfl

end Sexp

end NodeForms
