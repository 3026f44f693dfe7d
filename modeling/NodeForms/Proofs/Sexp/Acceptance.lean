import NodeForms.Proofs.Sexp.Denotation

/-!
# What the reader accepts

The reader takes a text exactly when the text splits into tokens that stand for the marks of
one value, and it gives that value. The white space around the tokens can be replaced, added
or taken away without a change of what comes of the reading, also where it fails.
-/

namespace NodeForms

namespace Sexp

/-- Two texts that differ in the white space around their tokens only. What stands before the
change splits, so the change is outside quotes. -/
inductive Respaced : List Char → List Char → Prop
  | between {before gap other : List Char} {tokens : List Token} (outside : Splits before tokens)
      (isGap : IsGap gap) (isOther : IsGap other) (after : List Char) :
      Respaced (before ++ (gap ++ after)) (before ++ (other ++ after))
  | start {gap : List Char} (isGap : IsGap gap) (chars : List Char) : Respaced chars (gap ++ chars)
  | finish {gap : List Char} (isGap : IsGap gap) (chars : List Char) : Respaced chars (chars ++ gap)
  | inFront {before gap : List Char} {tokens : List Token} {c : Char}
      (outside : Splits before tokens) (parenthesis : c = '(' ∨ c = ')') (isGap : IsGap gap)
      (after : List Char) : Respaced (before ++ c :: after) (before ++ (gap ++ c :: after))
  | behind {before gap : List Char} {tokens : List Token} {c : Char}
      (outside : Splits before tokens) (parenthesis : c = '(' ∨ c = ')') (isGap : IsGap gap)
      (after : List Char) : Respaced (before ++ c :: after) (before ++ c :: (gap ++ after))
  | symm {first second : List Char} (respaced : Respaced first second) : Respaced second first
  | trans {first second third : List Char} (earlier : Respaced first second)
      (later : Respaced second third) : Respaced first third

theorem exists_eq_of_append_gap {gap : List Char} (blanks : ∀ c ∈ gap, isBlank c = true)
    {chars front later : List Char} (cut : chars ++ gap = front ++ '"' :: later) :
    ∃ rest, chars = front ++ '"' :: rest := by
  have noQuote : '"' ∉ gap := fun member => absurd (blanks '"' member) (by decide)
  rcases List.append_eq_append_iff.mp cut with ⟨between, rfl, gapEq⟩ | ⟨between, rfl, quoteEq⟩
  · exact absurd (by rw [gapEq]; simp) noQuote
  · cases between with
    | nil =>
        have quoted : '"' :: later = gap := quoteEq
        exact absurd (by rw [← quoted]; simp) noQuote
    | cons c rest =>
        obtain ⟨rfl, -⟩ := List.cons.inj quoteEq
        exact ⟨rest, rfl⟩

theorem Starts.append_gap {chars after : List Char} {token : Token}
    (starts : Starts chars token after) {gap : List Char} (isGap : IsGap gap) :
    Starts (chars ++ gap) token (after ++ gap) := by
  cases starts with
  | opening => exact .opening _
  | closing => exact .closing _
  | quotedAtom isBody => simpa using Starts.quotedAtom isBody (after ++ gap)
  | quotedText isBody => simpa using Starts.quotedText isBody (after ++ gap)
  | @bare run _ filled isBare ends noAtom =>
      rw [List.append_assoc]
      refine .bare filled isBare ?_ ?_
      · cases after with
        | nil => simpa using (apart_of_isGap isGap []).notBare
        | cons c after => exact ends
      · intro body later isBody spelled
        rw [← List.append_assoc] at spelled
        obtain ⟨rest, same⟩ : ∃ rest, run ++ after = (':' :: '"' :: body) ++ '"' :: rest :=
          exists_eq_of_append_gap isGap.2 spelled
        exact noAtom body rest isBody same

theorem next?_eq_none_iff {first : Char} {rest : List Char} :
    Token.next? first rest = none ↔ first = '"' ∧ quotedBody? rest = none := by
  unfold Token.next?
  split
  · simp_all
  split
  · simp_all
  split
  · simp_all
  split
  · split <;> simp_all
  · simp_all

namespace ReadState

section

variable {Fault : Type} {refused : ReadFault → Fault}
  {take : ReadState → Token → Except Fault ReadState}

/-- Blanks at the end change nothing, also where the text cannot be read. -/
theorem judge_append_gap {gap : List Char} (isGap : IsGap gap) (offset : Nat) (state : ReadState)
    (chars : List Char) :
    state.judge refused take (chars ++ gap) =
      readWith (fun error => refused error.fault) (fun state _ token => take state token) offset
        state chars := by
  fun_induction readWith (fun error => refused error.fault) (fun state _ token => take state token)
      offset state chars with
  | case1 offset state =>
      rw [List.nil_append, ← List.append_nil gap, judge_gap isGap.2, ← judge_offset offset,
        readWith]
  | case2 offset state first rest blank ih =>
      rw [List.cons_append, ← List.singleton_append, judge_gap (by simpa using blank), ih]
  | case3 offset state first rest noBlank stuck =>
      obtain ⟨rfl, noBody⟩ := next?_eq_none_iff.mp stuck
      have stillStuck : Token.next? '"' (rest ++ gap) = none := by
        refine next?_eq_none_iff.mpr ⟨rfl, Option.eq_none_iff_forall_ne_some.mpr ?_⟩
        rintro ⟨body, after⟩ found
        obtain ⟨isBody, cut⟩ := quotedBody?_eq_some_iff.mp found
        obtain ⟨later, same⟩ := exists_eq_of_append_gap isGap.2 cut
        rw [quotedBody?_eq_some_iff.mpr ⟨isBody, same⟩] at noBody
        cases noBody
      rw [List.cons_append, judge, readWith_stuck (by simpa using noBlank) stillStuck]
  | case4 offset state first rest noBlank token after found fault refusal =>
      have starts := (next?_eq_some_iff (by simpa using noBlank)).mp found
      rw [judge_starts (starts.append_gap isGap), refusal]
      rfl
  | case5 offset state first rest noBlank token after found next accepted ih =>
      have starts := (next?_eq_some_iff (by simpa using noBlank)).mp found
      rw [judge_starts (starts.append_gap isGap), accepted]
      exact ih

theorem judge_respaced {first second : List Char} (respaced : Respaced first second) :
    judge refused take {} first = judge refused take {} second := by
  induction respaced with
  | between outside isGap isOther after =>
      rw [judge_append outside (apart_of_isGap isGap after),
        judge_append outside (apart_of_isGap isOther after)]
      refine bind_congr fun next => ?_
      rw [judge_gap isGap.2, judge_gap isOther.2]
  | start isGap chars => rw [judge_gap isGap.2]
  | finish isGap chars => rw [judge_append_gap isGap 0]; rfl
  | inFront outside parenthesis isGap after =>
      rw [judge_append outside (apart_parenthesis parenthesis after),
        judge_append outside (apart_of_isGap isGap _)]
      refine bind_congr fun next => ?_
      rw [judge_gap isGap.2]
  | behind outside parenthesis isGap after =>
      rw [judge_append outside (apart_parenthesis parenthesis _),
        judge_append outside (apart_parenthesis parenthesis _)]
      refine bind_congr fun next => ?_
      -- Behind the parenthesis reading goes on in front of the blanks.
      rcases parenthesis with rfl | rfl
      · rw [judge_starts (.opening _), judge_starts (.opening _)]
        simp only [judge_gap isGap.2]
      · rw [judge_starts (.closing _), judge_starts (.closing _)]
        simp only [judge_gap isGap.2]
  | symm _ ih => exact ih.symm
  | trans _ _ earlier later => exact earlier.trans later

end

end ReadState

/-- No token is a run of digits, with or without a sign, that is longer than a limit. -/
def DigitsFit (limit : Option Nat) (tokens : List Token) : Prop :=
  ∀ most ∈ limit, ∀ digits, IsDigits digits →
    .bare digits ∈ tokens ∨ .bare ('-' :: digits) ∈ tokens → digits.length ≤ most

theorem digitsFit_iff {limit : Option Nat} {tokens : List Token} :
    DigitsFit limit tokens ↔ ∀ token ∈ tokens, token.exceedsDigits limit = false := by
  have digits_of {digits : List Char} (isNumber : IsDigits digits) :
      digits.filter Char.isDigit = digits := List.filter_eq_self.mpr isNumber.2
  have digits_signed {digits : List Char} (isNumber : IsDigits digits) :
      ('-' :: digits).filter Char.isDigit = digits := by
    rw [List.filter_cons_of_neg (by decide), digits_of isNumber]
  constructor
  · intro fits token member
    cases token with
    | bare run =>
        rw [Token.exceedsDigits, Bool.and_eq_false_imp, isIntegerRun_eq_true_iff]
        intro isRun
        rw [NodeForms.exceedsDigits, Option.any_eq_false]
        intro most isLimit
        rw [decide_eq_false_iff_not, Nat.not_lt]
        rcases isRun with isNumber | ⟨digits, rfl, isNumber⟩
        · rw [digits_of isNumber]
          exact fits most isLimit run isNumber (.inl member)
        · rw [digits_signed isNumber]
          exact fits most isLimit digits isNumber (.inr member)
    | _ => rfl
  · intro within most isLimit digits isNumber member
    have few {run : List Char} (isToken : .bare run ∈ tokens) (isRun : isIntegerRun run = true) :
        (run.filter Char.isDigit).length ≤ most := by
      have fits := within _ isToken
      rw [Token.exceedsDigits, isRun, Bool.true_and, NodeForms.exceedsDigits,
        Option.any_eq_false] at fits
      simpa using fits most isLimit
    rcases member with plain | signed
    · have short := few plain (isIntegerRun_eq_true_iff.mpr (.inl isNumber))
      rwa [digits_of isNumber] at short
    · have short := few signed (isIntegerRun_eq_true_iff.mpr (.inr ⟨digits, rfl, isNumber⟩))
      rwa [digits_signed isNumber] at short

/-- The fault of a text, without an offset; nothing if there are too many digits. -/
def ReadFailure.fault? : ReadFailure → Option ReadFault
  | .refused error => some error.fault
  | .tooManyDigits => none

/-- What comes of a reading with a limit, without the offset of an error. -/
def outcomeWithin (result : Except ReadFailure Sexp) : Except (Option ReadFault) Sexp :=
  result.mapError ReadFailure.fault?

theorem outcomeWithin_eq_ok_iff {result : Except ReadFailure Sexp} {value : Sexp} :
    outcomeWithin result = .ok value ↔ result = .ok value := by
  cases result <;> simp [outcomeWithin, Except.mapError]

theorem outcomeWithin_eq_tooManyDigits_iff {result : Except ReadFailure Sexp} :
    outcomeWithin result = .error none ↔ result = .error .tooManyDigits := by
  rcases result with (_ | _) | _ <;> simp [outcomeWithin, Except.mapError, ReadFailure.fault?]

namespace ReadState

/-- What comes of a token under a limit. -/
def takeWithin (limit : Option Nat) (state : ReadState) (token : Token) :
    Except (Option ReadFault) ReadState :=
  if token.exceedsDigits limit then .error none else (state.take token).mapError some

/-- Tokens are taken under a limit if they are taken without one and none of them exceeds it; the
first one that does ends the reading, unless a token before it is refused. -/
theorem takeEach_within {limit : Option Nat} {tokens : List Token} {state last : ReadState} :
    (state.takeEach (takeWithin limit) tokens = .ok last ↔
      state.takeAll tokens = .ok last ∧ ∀ token ∈ tokens, token.exceedsDigits limit = false) ∧
    (state.takeAll tokens = .ok last →
      ¬(∀ token ∈ tokens, token.exceedsDigits limit = false) →
        state.takeEach (takeWithin limit) tokens = .error none) := by
  induction tokens generalizing state with
  | nil => simp [takeEach, takeAll]
  | cons token tokens ih =>
      rw [takeAll_cons, takeEach, List.forall_mem_cons]
      cases exceeds : token.exceedsDigits limit with
      | true => simp [takeWithin, exceeds, bind, Except.bind]
      | false =>
          have same : takeWithin limit state token =
              (outcome (state.accept 0 token)).mapError some := by
            simp [takeWithin, exceeds, take]
          rw [same]
          cases outcome (state.accept 0 token) with
          | error fault => simp [Except.mapError, bind, Except.bind]
          | ok next => simpa [Except.mapError, bind, Except.bind] using ih

/-- A text that splits is read under a limit as it is without one if its digits fit. -/
theorem judge_within_eq_ok_iff {limit : Option Nat} {chars : List Char} {tokens : List Token}
    (splits : Splits chars tokens) {value : Sexp} :
    judge some (takeWithin limit) {} chars = .ok value ↔
      List.Forall₂ Denotes tokens value.marks ∧ DigitsFit limit tokens := by
  have atEnd {last : ReadState} :
      judge some (takeWithin limit) last [] = .ok value ↔ last.verdict [] = .ok value := by
    rw [judge, readWith, verdict, readFrom_nil]
    cases last.finish 0 <;> simp [Except.mapError]
  rw [judge_splits splits, ← verdict_eq_ok_iff splits, verdict_splits splits, bind_eq_ok,
    bind_eq_ok, digitsFit_iff]
  simp only [takeEach_within.1, atEnd]
  constructor
  · rintro ⟨last, ⟨taken, fits⟩, ends⟩
    exact ⟨⟨last, taken, ends⟩, fits⟩
  · rintro ⟨⟨last, taken, ends⟩, fits⟩
    exact ⟨last, ⟨taken, fits⟩, ends⟩

theorem judge_within_of_not_fit {limit : Option Nat} {chars : List Char} {tokens : List Token}
    (splits : Splits chars tokens) {value : Sexp}
    (denotes : List.Forall₂ Denotes tokens value.marks) (tooMany : ¬DigitsFit limit tokens) :
    judge some (takeWithin limit) {} chars = .error none := by
  have read := (verdict_eq_ok_iff splits).mpr denotes
  rw [verdict_splits splits, bind_eq_ok] at read
  obtain ⟨last, taken, -⟩ := read
  rw [judge_splits splits, takeEach_within.2 taken (digitsFit_iff.not.mp tooMany)]
  rfl

end ReadState

theorem outcomeWithin_readWithin (limit : Option Nat) (text : String) :
    outcomeWithin (readWithin limit text) =
      ReadState.judge some (ReadState.takeWithin limit) {} text.toList := by
  refine ReadState.mapError_readWith ReadFailure.fault? (fun _ => rfl)
    (fun state offset token => ?_) 0 0 {} text.toList
  rw [ReadState.acceptWithin, ReadState.takeWithin, ReadState.take,
    ← outcome_accept state offset 0 token]
  split
  · rfl
  · cases state.accept offset token <;> rfl

theorem read_of_readWithin {limit : Option Nat} {text : String} {value : Sexp}
    (found : readWithin limit text = .ok value) : read text = .ok value := by
  refine readWith_ok_mono (fun {state next offset token} taken => ?_) found
  rw [ReadState.acceptWithin] at taken
  split at taken
  · cases taken
  · cases accepted : state.accept offset token with
    | error error =>
        rw [accepted] at taken
        cases taken
    | ok other =>
        rw [accepted] at taken
        cases taken
        rfl

theorem readWithin_of_not_fit {limit : Option Nat} {text : String} {value : Sexp}
    {tokens : List Token} (splits : Splits text.toList tokens)
    (denotes : List.Forall₂ Denotes tokens value.marks) (tooMany : ¬DigitsFit limit tokens) :
    readWithin limit text = .error .tooManyDigits := by
  rw [← outcomeWithin_eq_tooManyDigits_iff, outcomeWithin_readWithin]
  exact ReadState.judge_within_of_not_fit splits denotes tooMany

theorem readWithin_eq_ok_iff {limit : Option Nat} {text : String} {value : Sexp} :
    readWithin limit text = .ok value ↔
      ∃ tokens, Splits text.toList tokens ∧ List.Forall₂ Denotes tokens value.marks ∧
        DigitsFit limit tokens := by
  constructor
  · intro found
    obtain ⟨tokens, splits, -⟩ := read_eq_ok_iff.mp (read_of_readWithin found)
    have judged := outcomeWithin_eq_ok_iff.mpr found
    rw [outcomeWithin_readWithin, ReadState.judge_within_eq_ok_iff splits] at judged
    exact ⟨tokens, splits, judged⟩
  · rintro ⟨tokens, splits, judged⟩
    rw [← ReadState.judge_within_eq_ok_iff splits, ← outcomeWithin_readWithin] at judged
    exact outcomeWithin_eq_ok_iff.mp judged

/-- The reader accepts exactly the notation, as far as it converts digits: it gives a value for a
text if and only if the text splits into tokens that stand for the marks of the value and have no
longer runs of digits than the limit. A text in the notation with a longer run is refused for its
digits. White space around the tokens makes no difference, neither to the value nor to the fault. -/
theorem readWithin_grammar (limit : Option Nat) :
    (∀ (text : String) (value : Sexp), readWithin limit text = .ok value ↔
      ∃ tokens, Splits text.toList tokens ∧ List.Forall₂ Denotes tokens value.marks ∧
        DigitsFit limit tokens) ∧
    (∀ (text : String) (value : Sexp) (tokens : List Token), Splits text.toList tokens →
      List.Forall₂ Denotes tokens value.marks → ¬DigitsFit limit tokens →
        readWithin limit text = .error .tooManyDigits) ∧
    ∀ first second : String, Respaced first.toList second.toList →
      outcomeWithin (readWithin limit first) = outcomeWithin (readWithin limit second) := by
  refine ⟨fun text value => readWithin_eq_ok_iff,
    fun text value tokens splits denotes tooMany => readWithin_of_not_fit splits denotes tooMany,
    fun first second respaced => ?_⟩
  rw [outcomeWithin_readWithin, outcomeWithin_readWithin]
  exact ReadState.judge_respaced respaced

/-- A list is read from its tokens, and stays what it is with a line broken in it and a blank
in front of its closing parenthesis; the parentheses between the quotes are no tokens. With one
digit at most its number is too long. -/
theorem readWithin_grammar_broken_line :
    let tight := "(-12 \"b (c)\")"
    let loose := "(-12\n\t\"b (c)\" )"
    let value := Sexp.seq [.int (-12), .text "b (c)"]
    Respaced tight.toList loose.toList ∧ readWithin (some 2) tight = .ok value ∧
      outcomeWithin (readWithin (some 2) loose) = .ok value ∧
      readWithin (some 1) tight = .error .tooManyDigits := by
  intro tight loose value
  have isBody : IsBody "b (c)".toList := by
    repeat' first | exact .nil | refine .plain (by decide) (by decide) ?_
  have spells : Spells "b (c)".toList "b (c)".toList := by
    repeat' first | exact .nil | refine .plain (by decide) (by decide) ?_
  have stops {test : Char → Bool} {c : Char} (rest : List Char) (stop : test c = false) :
      ∀ first ∈ (c :: rest).head?, test first = false := by
    rintro first ⟨⟩
    exact stop
  let number : Token := .bare ['-', '1', '2']
  have startsNumber {after : List Char} (ends : ∀ c ∈ after.head?, isBareChar c = false) :
      Starts (['-', '1', '2'] ++ after) number after :=
    .bare (by simp) (by simp; decide) ends (by rintro body rest - ⟨⟩)
  have space : IsGap [' '] := ⟨by simp, by simp; decide⟩
  have broken : IsGap ['\n', '\t'] := ⟨by simp, by simp; decide⟩
  have splitsBroken : Splits "(-12\n\t\"b (c)\"".toList
      [.opening, number, .quotedText "b (c)".toList] := by
    refine .token (.opening _) (.token (startsNumber (stops _ (by decide))) ?_)
    exact .blanks broken (stops _ (by decide)) (.token (.quotedText isBody []) .nil)
  have splits : Splits "(-12 \"b (c)\")".toList
      [.opening, number, .quotedText "b (c)".toList, .closing] := by
    refine .token (.opening _) (.token (startsNumber (stops _ (by decide))) ?_)
    exact .blanks space (stops _ (by decide))
      (.token (.quotedText isBody [')']) (.token (.closing []) .nil))
  have respaced : Respaced "(-12 \"b (c)\")".toList "(-12\n\t\"b (c)\" )".toList := by
    have opened : Splits ['(', '-', '1', '2'] [.opening, number] :=
      .token (.opening _) (.token (startsNumber (by simp)) .nil)
    exact .trans (.between opened space broken "\"b (c)\")".toList)
      (.inFront splitsBroken (.inr rfl) space [])
  have denotes : List.Forall₂ Denotes [.opening, number, .quotedText "b (c)".toList, .closing]
      value.marks :=
    .cons .opening (.cons (denotes_bare_iff.mpr rfl) (.cons (.quotedText spells)
      (.cons .closing .nil)))
  have fits (limit : Nat) : DigitsFit (some limit)
      [.opening, number, .quotedText "b (c)".toList, .closing] ↔ 2 ≤ limit := by
    have digits : number.exceedsDigits (some limit) = decide (limit < 2) := rfl
    rw [digitsFit_iff]
    constructor
    · intro allFit
      have numberFits := allFit number (List.mem_cons_of_mem _ List.mem_cons_self)
      rw [digits] at numberFits
      exact Nat.le_of_not_lt (of_decide_eq_false numberFits)
    · intro enough token member
      simp only [List.mem_cons, List.not_mem_nil, or_false] at member
      rcases member with rfl | same | rfl | rfl
      · rfl
      · rw [same, digits]
        exact decide_eq_false (Nat.not_lt_of_le enough)
      · rfl
      · rfl
  have found : readWithin (some 2) tight = .ok value :=
    ((readWithin_grammar (some 2)).1 tight value).mpr ⟨_, splits, denotes, (fits 2).mpr (by decide)⟩
  refine ⟨respaced, found, ?_, (readWithin_grammar (some 1)).2.1 tight value _ splits denotes
    fun within => absurd ((fits 1).mp within) (by decide)⟩
  rw [← (readWithin_grammar (some 2)).2.2 tight loose respaced, found]
  rfl

theorem splits_of_isDigits {digits : List Char} (isNumber : IsDigits digits) :
    Splits digits [.bare digits] := by
  have starts : Starts (digits ++ []) (.bare digits) [] := by
    refine .bare isNumber.1 (fun c member => isBareChar_of_isDigit (isNumber.2 c member))
      (by simp) ?_
    rintro body rest - same
    rw [List.append_nil] at same
    exact absurd (isNumber.2 ':' (by simp [same])) (by decide)
  rw [List.append_nil] at starts
  exact .token starts .nil

/-- A run of 4301 digits is in the notation, but is not converted with a limit of 4300. -/
theorem exists_readWithin_tooManyDigits :
    ∃ (text : String) (tokens : List Token) (value : Sexp), Splits text.toList tokens ∧
      List.Forall₂ Denotes tokens value.marks ∧ readWithin (some 4300) text ≠ .ok value := by
  obtain ⟨digits, length, isNumber⟩ : ∃ digits, digits.length = 4301 ∧ IsDigits digits := by
    refine ⟨List.replicate 4301 '1', List.length_replicate, ?_, fun c member => ?_⟩
    · exact List.ne_nil_of_length_pos (by rw [List.length_replicate]; decide)
    · rw [List.eq_of_mem_replicate member]
      decide
  have splits : Splits (String.ofList digits).toList [.bare digits] := by
    rw [String.toList_ofList]
    exact splits_of_isDigits isNumber
  have denotes : List.Forall₂ Denotes [.bare digits] (Sexp.int (naturalOfDigits digits)).marks :=
    .cons (.natural isNumber) .nil
  have tooMany : ¬DigitsFit (some 4300) [.bare digits] := by
    intro fits
    have short := fits 4300 rfl digits isNumber (.inl (List.mem_singleton.mpr rfl))
    omega
  refine ⟨_, _, _, splits, denotes, ?_⟩
  rw [readWithin_of_not_fit splits denotes tooMany]
  simp

end Sexp

end NodeForms
